import Xend.BackendClient
import Xend.BuildEndpoint
import Xend.RateLimiter

/-! The number of seconds a rejected caller is told to wait, from `record` to the
error the SDK throws, and what the calls behind the rejection show of it. -/

namespace Xend

open FixedWindow Sdk

/-- The hint as the `u64` it is; `record` panics where it does not fit. -/
def Recorded.hint (r : Recorded) : Option UInt64 :=
  match r.outcome with
  | .ok _ => none
  | .error seconds => if seconds < 2 ^ 64 then some (UInt64.ofNat seconds) else none

/-- Behind the calls `past`, `record` answers the call `a` with `Err(s)`. -/
def RateLimiter.Rejects (limiter : RateLimiter) (past : List Arrival) (a : Arrival) (s : UInt64)
    (windows : Counters String) : Prop :=
  ∃ before log r, limiter.run ∅ past = some (before, log) ∧
    limiter.record before a = some (windows, r) ∧
    r.hint = some s

/-- The end of the caller's window. -/
def RateLimiter.finish (limiter : RateLimiter) (windows : Counters String)
    (caller : String) : Option Nat :=
  (windows.lookup caller).map fun w => w.started + limiter.window

def Refused (caller : String) (log : List Recorded) : Prop := ∀ r ∈ log, r.isFrom caller = true →
    r.granted = false

/-- What the `log` of the calls behind a rejection shows of its hint `s`, for a window that
ends at `finish`. -/
structure HintSound (limiter : RateLimiter) (a : Arrival) (s : UInt64) (finish : Nat)
    (windows : Counters String)
    (log : List Recorded) : Prop where
  held : ∀ r ∈ log, r.isFrom a.caller = true → r.arrival.time < finish → r.granted = false
  kept : Refused a.caller log → limiter.finish windows a.caller = some finish
  released : ∀ earlier r rest, log = earlier ++ r :: rest → r.isFrom a.caller = true →
    a.time + s.toNat * nanosPerSec ≤ r.arrival.time → Refused a.caller earlier → r.granted = true
  enough : finish ≤ a.time + s.toNat * nanosPerSec
  close : a.time + s.toNat * nanosPerSec ≤ finish + nanosPerSec

section Hint

variable {limiter : RateLimiter} {windows windows' : Counters String} {a : Arrival}
    {r : Recorded} {s : UInt64}

theorem hint_eq_some : r.hint = some s ↔ r.outcome = .error s.toNat := by
  unfold Recorded.hint
  have hs := s.toNat_lt
  cases r.outcome with
  | ok _ => simp
  | error seconds =>
    rw [Except.error.injEq, Option.ite_none_right_eq_some, Option.some.injEq]
    constructor
    · rintro ⟨hfits, rfl⟩
      rw [UInt64.toNat_ofNat', Nat.mod_eq_of_lt hfits]
    · rintro rfl
      exact ⟨hs, UInt64.ofNat_toNat⟩

/-- What a rejection finds, and leaves as it is. -/
theorem RateLimiter.record_rejected (hmax : 1 ≤ limiter.max) (hwithin : limiter.Within windows)
    (hrecord : limiter.record windows a = some (windows', r)) (hhint : r.hint = some s) :
    limiter.Within windows' ∧ ∃ w, windows.lookup a.caller = some w ∧
    windows'.lookup a.caller = some w ∧
      Full limiter.limits w ∧ 0 < limiter.window ∧ a.time < w.started + limiter.window ∧
      s.toNat = (limiter.window - (a.time - w.started)) / nanosPerSec + 1 := by
  have hlimit : 0 < limiter.limits.max := UInt32.le_iff_toNat_le.mp hmax
  have houtcome := hint_eq_some.mp hhint
  rw [RateLimiter.record_eq hwithin a] at hrecord
  obtain ⟨rfl, rfl⟩ := Prod.mk.inj (Option.some.inj hrecord)
  change (recordCaller limiter.limits windows a.caller a.time).2 = .error s.toNat at houtcome
  have hrejected : ¬ Admits limiter.limits (windows.lookup a.caller) a.time := by
    intro hadmits
    rw [recordCaller_of_admits hadmits] at houtcome
    cases houtcome
  obtain ⟨w, hlookup, hfull, hpos, hopen⟩ := exists_full_of_rejected hlimit hrejected
  have hkept : ¬ Resets limiter.limits (some w) a.time := by
    rw [resets_iff hpos]
    exact Nat.not_le.mpr hopen
  have hcurrent : current limiter.limits (some w) a.time = w := current_of_kept hkept
  rw [recordCaller_of_full hrejected, hlookup, hcurrent] at houtcome
  refine ⟨hwithin.record a, w, hlookup, ?_, hfull, hpos, hopen, (Except.error.inj houtcome).symm⟩
  rw [recordCaller_fst, AList.lookup_insert, hlookup, arrive_of_full hfull hkept]

theorem RateLimiter.run_lookup (hwithin : limiter.Within windows) {as : List Arrival}
    {log : List Recorded}
    (hrun : limiter.run windows as = some (windows', log)) (caller : String) :
    windows'.lookup caller =
      after limiter.limits (windows.lookup caller)
        ((as.filter (Arrival.isFrom caller)).map Arrival.time) := by
  induction as generalizing windows log with
  | nil =>
    cases hrun
    rfl
  | cons a as ih =>
    rw [RateLimiter.run_cons hwithin, Option.map_eq_some_iff] at hrun
    obtain ⟨⟨final, rest⟩, hrest, hfinal⟩ := hrun
    obtain ⟨rfl, -⟩ := Prod.mk.inj hfinal
    have hlookup := ih (hwithin.record a) hrest
    rw [recordCaller_fst] at hlookup
    by_cases hcaller : a.caller = caller
    · subst hcaller
      have hown : Arrival.isFrom a.caller a = true := decide_eq_true rfl
      rw [AList.lookup_insert] at hlookup
      rw [List.filter_cons_of_pos hown, List.map_cons, after, hlookup]
    · have hother : ¬ Arrival.isFrom caller a = true := by simpa [Arrival.isFrom] using hcaller
      rw [AList.lookup_insert_ne (Ne.symm hcaller)] at hlookup
      rw [List.filter_cons_of_neg hother, hlookup]

/-- In a sorted run no window has started later than the last call. -/
theorem RateLimiter.run_started_le {past : List Arrival} {log : List Recorded} {t : Nat}
    (hrun : limiter.run ∅ past = some (windows, log)) (hpast : ∀ a ∈ past, a.time ≤ t)
    {caller : String} {w : Window}
    (hw : windows.lookup caller = some w) : w.started ≤ t := by
  have hlookup := RateLimiter.run_lookup limiter.within_empty hrun caller
  rw [AList.lookup_empty, hw] at hlookup
  rcases after_started none _ w hlookup.symm with hmem | ⟨v, hv, -⟩
  · obtain ⟨a, ha, htime⟩ := List.mem_map.mp hmem
    rw [← htime]
    exact hpast a (List.mem_of_mem_filter ha)
  · cases hv

/-- The seconds are rounded down before one is added. -/
theorem hint_close {t started window s : Nat} (hstarted : started ≤ t)
    (hopen : t < started + window)
    (hs : s = (window - (t - started)) / nanosPerSec + 1) :
    started + window ≤ t + s * nanosPerSec ∧
    t + s * nanosPerSec ≤ started + window + nanosPerSec := by
  unfold nanosPerSec at hs ⊢
  omega

theorem retryHint_sound (limiter : RateLimiter) (hmax : 1 ≤ limiter.max) {past later : List Arrival}
    (hsorted : ((past ++ a :: later).map Arrival.time).Pairwise (· ≤ ·))
    (h : limiter.Rejects past a s windows) :
    ∃ finish windows' log, limiter.finish windows a.caller = some finish ∧
      limiter.run windows later = some (windows', log) ∧ log.map Recorded.arrival = later ∧
      HintSound limiter a s finish windows' log := by
  obtain ⟨before, earlier, r, hpast, hrecord, hhint⟩ := h
  rw [List.map_append, List.map_cons, List.pairwise_append, List.pairwise_cons] at hsorted
  obtain ⟨-, ⟨-, hlater⟩, hbefore⟩ := hsorted
  have hlimit : 0 < limiter.limits.max := UInt32.le_iff_toNat_le.mp hmax
  obtain ⟨before', earlier', hpast', hwithin, -, -⟩ := RateLimiter.run_log limiter.within_empty past
  obtain ⟨rfl, -⟩ := Prod.mk.inj (Option.some.inj (hpast.symm.trans hpast'))
  obtain ⟨hwithin', w, hold, hnew, hfull, hpos, hopen, hs⟩ :=
    RateLimiter.record_rejected hmax hwithin hrecord hhint
  have hstarted : w.started ≤ a.time := by
    refine RateLimiter.run_started_le hpast (fun b hb => ?_) hold
    exact hbefore b.time (List.mem_map_of_mem hb) a.time List.mem_cons_self
  obtain ⟨henough, hclose⟩ := hint_close hstarted hopen hs
  obtain ⟨windows', log, hrun, -, harrivals, hlog⟩ := RateLimiter.run_log hwithin' later
  have hmine := hlog a.caller
  have hlookup := RateLimiter.run_lookup hwithin' hrun a.caller
  rw [hnew] at hmine hlookup
  have hown : ((later.filter (Arrival.isFrom a.caller)).map Arrival.time).Pairwise (· ≤ ·) :=
    hlater.sublist ((List.filter_sublist).map Arrival.time)
  have hfinish : limiter.finish windows a.caller = some (w.started + limiter.window) := by
    rw [RateLimiter.finish, hnew, Option.map_some]
  refine ⟨_, windows', log, hfinish, hrun, harrivals, ?_, ?_, ?_, henough, hclose⟩
  · intro r hr hfrom hearly
    have hentry : r.entry ∈ (log.filter (Recorded.isFrom a.caller)).map Recorded.entry :=
      List.mem_map_of_mem (List.mem_filter.mpr ⟨hr, hfrom⟩)
    rw [hmine] at hentry
    exact full_held hlimit hpos hfull hown r.entry hentry hearly
  · intro hrefused
    rw [RateLimiter.finish, hlookup, full_kept hlimit hfull, Option.map_some]
    intro e he
    rw [← hmine] at he
    obtain ⟨r, hr, rfl⟩ := List.mem_map.mp he
    exact hrefused r (List.mem_of_mem_filter hr) (List.of_mem_filter hr)
  · intro earlier r rest hsplit hfrom hwaited hrefused
    rw [hsplit, List.filter_append, List.filter_cons_of_pos hfrom, List.map_append,
      List.map_cons] at hmine
    refine full_released hlimit hpos hfull hmine.symm ?_ (henough.trans hwaited)
    intro e he
    obtain ⟨r', hr', rfl⟩ := List.mem_map.mp he
    exact hrefused r' (List.mem_of_mem_filter hr') (List.of_mem_filter hr')

/-- The hint fits unless the window is one of the longest a `Duration` can hold. -/
theorem exists_hint (hwindow : limiter.window < (2 ^ 64 - 1) * nanosPerSec)
    (hrecord : limiter.record windows a = some (windows', r)) (hrejected : r.granted = false) :
    ∃ s, r.hint = some s := by
  unfold RateLimiter.record at hrecord
  extract_lets window reset opened at hrecord
  split at hrecord
  · obtain ⟨-, rfl⟩ := Prod.mk.inj (Option.some.inj hrecord)
    refine ⟨_, if_pos ?_⟩
    unfold nanosPerSec at hwindow ⊢
    omega
  · obtain ⟨_, -, hcount⟩ := Option.map_eq_some_iff.mp hrecord
    obtain ⟨-, rfl⟩ := Prod.mk.inj hcount
    cases hrejected

/-- What the gateway answers to a rejected call is thrown as the wait it asks for. -/
theorem rateLimited_thrown {seconds : Nat} (h : seconds < 2 ^ 63) :
    BackendClient.decodeResponse
        (some ⟨(AppError.rateLimited seconds).statusCode,
          .json (AppError.rateLimited seconds).body⟩) =
      .error (.xend (.rateLimited seconds)) := by
  obtain ⟨message, hmapped⟩ : ∃ message,
      BackendClient.mapError 429 (AppError.rateLimited seconds).body =
      BackendClient.mapCode 429 _ message (some "rate_limited") :=
        BackendClient.mapError_of_code rfl rfl
  have hthrown : BackendClient.mapError 429 (AppError.rateLimited seconds).body =
      .ok (.rateLimited seconds) :=
    hmapped.trans (BackendClient.mapCode_rateLimited (by omega) rfl)
  rw [AppError.body] at hthrown ⊢
  rw [BackendClient.decodeResponse_of_status (AppError.statusCode_ge _),
    AppError.statusCode, hthrown]
  rfl

end Hint

theorem retryHint_sound_minute : ∃ windows,
    (RateLimiter.mk 1 (60 * nanosPerSec)).Rejects [⟨"k", 0⟩] ⟨"k", 500000000⟩ 60 windows ∧
      ∃ finish windows' log,
      (RateLimiter.mk 1 (60 * nanosPerSec)).finish windows "k" = some finish ∧
        (RateLimiter.mk 1 (60 * nanosPerSec)).run windows
          [⟨"other", 500000000⟩, ⟨"k", 60500000000⟩] =
          some (windows', log) ∧
        log.map Recorded.arrival = [⟨"other", 500000000⟩, ⟨"k", 60500000000⟩] ∧
        HintSound (RateLimiter.mk 1 (60 * nanosPerSec))
          ⟨"k", 500000000⟩ 60 finish windows' log := by
  have hrejects : (RateLimiter.mk 1 (60 * nanosPerSec)).Rejects [⟨"k", 0⟩] ⟨"k", 500000000⟩ 60 _ :=
    ⟨_, _, _, rfl, rfl, rfl⟩
  exact ⟨_, hrejects,
    retryHint_sound (RateLimiter.mk 1 (60 * nanosPerSec)) (by decide) (by decide) hrejects⟩

end Xend
