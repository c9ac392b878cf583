import Xend.Gateway

/-! `RateLimiter::record` with its counter in `u32`, over any sequence of calls by
any callers. The log keeps, for each call, whether it began the caller's window
anew and what it was answered. -/

namespace Xend

open FixedWindow

/-- `u32` addition, without a value where it overflows. -/
def addU32 (a b : Nat) : Option Nat := if a + b < 2 ^ 32 then some (a + b) else none

structure RateLimiter where
  max : UInt32
  window : Nat

structure Arrival where
  caller : String
  time : Nat
  deriving DecidableEq

structure Recorded where
  arrival : Arrival
  reset : Bool
  outcome : Except Nat Unit
  deriving DecidableEq

def Recorded.granted (r : Recorded) : Bool := r.outcome.isOk

def Recorded.entry (r : Recorded) : Entry := ⟨r.arrival.time, r.reset, r.granted⟩

def Recorded.isFrom (caller : String) (r : Recorded) : Bool := decide (r.arrival.caller = caller)

def Arrival.isFrom (caller : String) (a : Arrival) : Bool := decide (a.caller = caller)

namespace RateLimiter

variable (limiter : RateLimiter)

def limits : Limits := ⟨limiter.max.toNat, limiter.window⟩

def record (windows : Counters String) (a : Arrival) : Option (Counters String × Recorded) :=
  let window := (windows.lookup a.caller).getD ⟨a.time, 0⟩
  let reset := decide (limiter.window ≤ a.time - window.started)
  let window := if reset then ⟨a.time, 0⟩ else window
  if limiter.max.toNat ≤ window.count then
    some (windows.insert a.caller window,
      ⟨a, reset, .error ((limiter.window - (a.time - window.started)) / nanosPerSec + 1)⟩)
  else
    (addU32 window.count 1).map fun count =>
      (windows.insert a.caller ⟨window.started, count⟩, ⟨a, reset, .ok ()⟩)

def run : Counters String → List Arrival → Option (Counters String × List Recorded)
  | windows, [] => some (windows, [])
  | windows, a :: as => do
    let (windows, recorded) ← limiter.record windows a
    let (windows, log) ← run windows as
    return (windows, recorded :: log)

/-- What `record` logs of a call while no counter has passed the limit. -/
def recorded (windows : Counters String) (a : Arrival) : Recorded :=
  ⟨a, decide (Resets limiter.limits (windows.lookup a.caller) a.time),
    (recordCaller limiter.limits windows a.caller a.time).2⟩

def Within (windows : Counters String) : Prop :=
  ∀ caller, ∀ w ∈ windows.lookup caller, w.count ≤ limiter.max.toNat

end RateLimiter

/-- What one caller gets: at most `max` between two resets, resets a window apart,
at most twice `max` in any interval of a window's length. -/
structure RateBounded (limiter : RateLimiter) (caller : String) (windows : Counters String)
    (log : List Recorded) :
    Prop where
  stretch : ∀ seg, seg <:+: log → (∀ r ∈ seg.tail, r.reset = false) →
    seg.countP Recorded.granted ≤ limiter.max.toNat
  apart : (log.filter Recorded.reset).Pairwise fun r r' => r.arrival.time +
    limiter.window ≤ r'.arrival.time
  sliding : ∀ t,
    between t (t + limiter.window) ((log.filter Recorded.granted).map fun r => r.arrival.time) ≤
    2 * limiter.max.toNat
  counter : ∀ w ∈ windows.lookup caller, w.count ≤ limiter.max.toNat

section Record

variable {limiter : RateLimiter} {windows : Counters String}

/-- Below the limit the counter does not overflow, and `record` is what the gateway computes. -/
theorem RateLimiter.record_eq (hwithin : limiter.Within windows) (a : Arrival) :
    limiter.record windows a =
      some ((recordCaller limiter.limits windows a.caller a.time).1,
        limiter.recorded windows a) := by
  have hcount : (current limiter.limits (windows.lookup a.caller) a.time).count ≤
      limiter.max.toNat :=
    current_count_le (hwithin a.caller)
  have hmax : limiter.max.toNat < 2 ^ 32 := limiter.max.toNat_lt
  unfold RateLimiter.record RateLimiter.recorded
  simp only [decide_eq_true_eq]
  by_cases h : Admits limiter.limits (windows.lookup a.caller) a.time
  · have hroom : (current limiter.limits (windows.lookup a.caller) a.time).count <
        limiter.max.toNat := h
    have hadd : addU32 (current limiter.limits (windows.lookup a.caller) a.time).count 1 =
        some ((current limiter.limits (windows.lookup a.caller) a.time).count + 1) :=
          if_pos (by omega)
    rw [recordCaller_of_admits h, arrive, if_pos h]
    refine (if_neg (Nat.not_le.mpr hroom)).trans ?_
    exact congrArg (Option.map _) hadd
  · rw [recordCaller_of_full h, arrive, if_neg h]
    exact if_pos (Nat.not_lt.mp h)

theorem RateLimiter.Within.record (hwithin : limiter.Within windows) (a : Arrival) :
    limiter.Within (recordCaller limiter.limits windows a.caller a.time).1 := by
  rw [recordCaller_fst]
  intro caller w hw
  by_cases hcaller : caller = a.caller
  · subst hcaller
    rw [AList.lookup_insert] at hw
    cases hw
    have hcount : (current limiter.limits (windows.lookup a.caller) a.time).count ≤
        limiter.limits.max :=
      current_count_le (hwithin a.caller)
    exact arrive_count_le hcount
  · rw [AList.lookup_insert_ne hcaller] at hw
    exact hwithin caller w hw

end Record

section Runs

variable {limiter : RateLimiter} {windows : Counters String}

theorem RateLimiter.within_empty (limiter : RateLimiter) : limiter.Within ∅ := by
  simp [RateLimiter.Within]

theorem RateLimiter.recorded_entry (limiter : RateLimiter)
    (windows : Counters String) (a : Arrival) :
    (limiter.recorded windows a).entry =
      FixedWindow.entry limiter.limits (windows.lookup a.caller) a.time := by
  rw [Recorded.entry, Recorded.granted, recorded, recordCaller_isOk]
  rfl

theorem RateLimiter.run_cons (hwithin : limiter.Within windows) (a : Arrival) (as : List Arrival) :
    limiter.run windows (a :: as) =
      (limiter.run (recordCaller limiter.limits windows a.caller a.time).1 as).map
      fun rest => (rest.1, limiter.recorded windows a :: rest.2) := by
  rw [RateLimiter.run, RateLimiter.record_eq hwithin a, Option.bind_eq_bind, Option.bind_some]
  simp only [Option.bind_eq_bind, Option.pure_def, Option.map_eq_bind]
  rfl

/-- A run never overflows, and leaves each caller the log of a counter of its own. -/
theorem RateLimiter.run_log (hwithin : limiter.Within windows) (as : List Arrival) :
    ∃ windows' log, limiter.run windows as = some (windows', log) ∧ limiter.Within windows' ∧
      log.map Recorded.arrival = as ∧
      ∀ caller, (log.filter (Recorded.isFrom caller)).map Recorded.entry =
        entries limiter.limits (windows.lookup caller)
          ((as.filter (Arrival.isFrom caller)).map Arrival.time) := by
  induction as generalizing windows with
  | nil => exact ⟨windows, [], rfl, hwithin, rfl, fun _ => rfl⟩
  | cons a as ih =>
    obtain ⟨windows', log, hrun, hwithin', harrivals, hlog⟩ := ih (hwithin.record a)
    have hall : limiter.run windows (a :: as) =
        some (windows', limiter.recorded windows a :: log) := by
      rw [RateLimiter.run_cons hwithin, hrun]
      rfl
    refine ⟨windows', limiter.recorded windows a :: log, hall, hwithin',
      congrArg (a :: ·) harrivals, fun caller => ?_⟩
    have hrest := hlog caller
    rw [recordCaller_fst] at hrest
    by_cases hcaller : a.caller = caller
    · subst hcaller
      have hown : Arrival.isFrom a.caller a = true := decide_eq_true rfl
      have hmine : Recorded.isFrom a.caller (limiter.recorded windows a) = true := hown
      rw [AList.lookup_insert] at hrest
      rw [List.filter_cons_of_pos hmine, List.filter_cons_of_pos hown, List.map_cons,
        List.map_cons, entries, RateLimiter.recorded_entry, hrest]
    · have hother : ¬ Arrival.isFrom caller a = true := by simpa [Arrival.isFrom] using hcaller
      have hnot : ¬ Recorded.isFrom caller (limiter.recorded windows a) = true := hother
      rw [AList.lookup_insert_ne (Ne.symm hcaller)] at hrest
      rw [List.filter_cons_of_neg hnot, List.filter_cons_of_neg hother, hrest]

/-- The bounds of one counter, read off the calls it logged. -/
theorem rateBounded_of_entries {caller : String} {log : List Recorded} {times : List Nat}
    (hwindow : 0 < limiter.window)
    (hwithin : limiter.Within windows) (hsorted : times.Pairwise (· ≤ ·))
    (hlog : log.map Recorded.entry = entries limiter.limits none times) :
    RateBounded limiter caller windows log := by
  constructor
  · intro seg hseg hkept
    have hinfix : seg.map Recorded.entry <:+: entries limiter.limits none times := by
      rw [← hlog]
      exact hseg.map Recorded.entry
    have htail : ∀ e ∈ (seg.map Recorded.entry).tail, e.reset = false := by
      rw [← List.map_tail]
      intro e he
      obtain ⟨r, hr, rfl⟩ := List.mem_map.mp he
      exact hkept r hr
    have hcounted := admitted_segment_le hinfix (by simp) htail
    rwa [List.countP_map] at hcounted
  · have hapart : ((log.map Recorded.entry).filter Entry.reset).Pairwise
        fun e e' => e.time + limiter.limits.window ≤ e'.time := by
      rw [hlog]
      exact resets_apart hwindow none times
    rw [List.filter_map, List.pairwise_map] at hapart
    exact hapart
  · intro t
    have htimes : (log.filter Recorded.granted).map (fun r => r.arrival.time) =
        admitted limiter.limits none times := by
      rw [← entries_admitted, ← hlog, List.filter_map, List.map_map]
      rfl
    have hbounded : between t (t + limiter.limits.window) (admitted limiter.limits none times) ≤
        2 * limiter.limits.max :=
      between_admitted_le hsorted t
    rw [htimes]
    exact hbounded
  · exact hwithin caller

theorem rateLimit_bounded (limiter : RateLimiter) (hwindow : 0 < limiter.window) {as : List Arrival}
    (hsorted : (as.map Arrival.time).Pairwise (· ≤ ·)) :
    ∃ windows log, limiter.run ∅ as = some (windows, log) ∧ log.map Recorded.arrival = as ∧
      ∀ caller, RateBounded limiter caller windows (log.filter (Recorded.isFrom caller)) := by
  obtain ⟨windows, log, hrun, hwithin, harrivals, hlog⟩ :=
    RateLimiter.run_log limiter.within_empty as
  refine ⟨windows, log, hrun, harrivals, fun caller => ?_⟩
  have hmine := hlog caller
  rw [AList.lookup_empty] at hmine
  have hown : ((as.filter (Arrival.isFrom caller)).map Arrival.time).Pairwise (· ≤ ·) :=
    hsorted.sublist ((List.filter_sublist).map Arrival.time)
  exact rateBounded_of_entries hwindow hwithin hown hmine

end Runs

/-- The second caller's call falls between two resets of the first one's window. -/
theorem rateLimit_bounded_twice : ∃ windows log,
    (RateLimiter.mk 1 10).run ∅ [⟨"k", 0⟩, ⟨"k", 10⟩, ⟨"other", 11⟩, ⟨"k", 20⟩] =
      some (windows, log) ∧
      log.map Recorded.arrival = [⟨"k", 0⟩, ⟨"k", 10⟩, ⟨"other", 11⟩, ⟨"k", 20⟩] ∧
      ∀ caller,
      RateBounded (RateLimiter.mk 1 10) caller windows (log.filter (Recorded.isFrom caller)) :=
  rateLimit_bounded (RateLimiter.mk 1 10) (by decide) (by decide)

end Xend
