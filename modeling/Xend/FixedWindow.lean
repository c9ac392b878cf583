import Mathlib.Algebra.Order.Group.Nat
import Mathlib.Data.List.AList
import Mathlib.Data.List.Count

/-! Fixed-window counters, one for each key: a window opens with the first
arrival, holds at most `max` admissions and is replaced by the first arrival that
finds it over. -/

namespace FixedWindow

structure Window where
  started : Nat
  count : Nat
  deriving DecidableEq

structure Limits where
  max : Nat
  window : Nat

abbrev Counters (κ : Type) := AList fun _ : κ => Window

section Counter

variable (limits : Limits)

def current (w : Option Window) (now : Nat) : Window :=
  let w := w.getD ⟨now, 0⟩
  if limits.window ≤ now - w.started then ⟨now, 0⟩ else w

def Admits (w : Option Window) (now : Nat) : Prop := (current limits w now).count < limits.max

instance (w : Option Window) (now : Nat) : Decidable (Admits limits w now) := Nat.decLt _ _

def arrive (w : Option Window) (now : Nat) : Window :=
  if Admits limits w now then ⟨(current limits w now).started, (current limits w now).count + 1⟩
  else current limits w now

/-- The arrivals at one counter that get through. -/
def admitted : Option Window → List Nat → List Nat
  | _, [] => []
  | w, now :: times =>
    if Admits limits w now then now :: admitted (some (arrive limits w now)) times
    else admitted (some (arrive limits w now)) times

end Counter

section Keyed

variable {α κ : Type} [DecidableEq κ] (limits : Limits) (key : α → κ) (time : α → Nat)

def record (counters : Counters κ) (a : α) : Counters κ :=
  counters.insert (key a) (arrive limits (counters.lookup (key a)) (time a))

/-- The arrivals that get through, each at the counter of its key. -/
def passed : Counters κ → List α → List α
  | _, [] => []
  | counters, a :: as =>
    if Admits limits (counters.lookup (key a)) (time a) then a ::
    passed (record limits key time counters a) as
    else passed (record limits key time counters a) as

variable {limits key time}

theorem passed_filter (counters : Counters κ) (as : List α) (k : κ) :
    ((passed limits key time counters as).filter fun a => decide (key a = k)).map time =
      admitted limits (counters.lookup k) ((as.filter fun a => decide (key a = k)).map time) := by
  induction as generalizing counters with
  | nil => rfl
  | cons a as ih =>
    by_cases hk : key a = k
    · subst hk
      have hlookup : (record limits key time counters a).lookup (key a) =
          some (arrive limits (counters.lookup (key a)) (time a)) := by
        rw [record, AList.lookup_insert]
      have hrest := ih (record limits key time counters a)
      rw [hlookup] at hrest
      by_cases hadmits : Admits limits (counters.lookup (key a)) (time a)
      · simp [passed, hadmits, admitted, hrest]
      · simp [passed, hadmits, admitted, hrest]
    · have hlookup : (record limits key time counters a).lookup k = counters.lookup k := by
        rw [record, AList.lookup_insert_ne (Ne.symm hk)]
      have hrest := ih (record limits key time counters a)
      rw [hlookup] at hrest
      by_cases hadmits : Admits limits (counters.lookup (key a)) (time a)
      · simp [passed, hk, hadmits, hrest]
      · simp [passed, hk, hadmits, hrest]

theorem passed_subset (counters : Counters κ) (as : List α) :
    ∀ a ∈ passed limits key time counters as, a ∈ as := by
  induction as generalizing counters with
  | nil => exact fun a ha => ha
  | cons b as ih =>
    intro a ha
    unfold passed at ha
    split at ha
    · rcases List.mem_cons.mp ha with rfl | ha
      · exact List.mem_cons_self
      · exact List.mem_cons_of_mem _ (ih _ a ha)
    · exact List.mem_cons_of_mem _ (ih _ a ha)

end Keyed

section Bound

/-- How many times lie from `a` on and before `b`. -/
def between (a b : Nat) (times : List Nat) : Nat := times.countP fun τ => decide (a ≤ τ ∧ τ < b)

variable {limits : Limits} {past : List Nat} {w : Window} {last : Nat}

/-- What a counter remembers of its admissions up to the time `last`. -/
structure Remembers (limits : Limits) (past : List Nat) (w : Window) (last : Nat) : Prop where
  started_le : w.started ≤ last
  open_at : last < w.started + limits.window
  past_le : ∀ τ ∈ past, τ ≤ last
  counted : between w.started (last + 1) past ≤ w.count
  count_le : w.count ≤ limits.max
  before : ∀ t, w.started < t + limits.window → between t w.started past ≤ limits.max
  earlier : ∀ t, t + limits.window ≤ w.started → between t (t + limits.window) past ≤ 2 * limits.max

theorem between_mono {a b a' b' : Nat} {times : List Nat}
    (h : ∀ τ ∈ times, a ≤ τ → τ < b → a' ≤ τ ∧ τ < b') :
    between a b times ≤ between a' b' times := by
  apply List.countP_mono_left
  intro τ hτ hin
  rw [decide_eq_true_eq] at hin ⊢
  exact h τ hτ hin.1 hin.2

theorem between_add {a b : Nat} (m : Nat) (times : List Nat) :
    between a b times ≤ between a m times + between m b times := by
  unfold between
  induction times with
  | nil => simp
  | cons τ times ih =>
    simp only [List.countP_cons, decide_eq_true_eq]
    split <;> split <;> split <;> omega

theorem between_concat {a b now : Nat} {times : List Nat} :
    between a b (times ++ [now]) = between a b times + if a ≤ now ∧ now < b then 1 else 0 := by
  unfold between
  rw [List.countP_append, List.countP_singleton]
  simp only [decide_eq_true_eq]

/-- At most the rest of one window and the whole of the next lie in an interval. -/
theorem Remembers.between_le (h : Remembers limits past w last) (t : Nat) :
    between t (t + limits.window) past ≤ 2 * limits.max := by
  by_cases ht : t + limits.window ≤ w.started
  · exact h.earlier t ht
  · have hsplit := between_add (a := t) (b := t + limits.window) w.started past
    have hbefore := h.before t (by omega)
    have hafter : between w.started (t + limits.window) past ≤
        between w.started (last + 1) past := by
      apply between_mono
      intro τ hτ hle _
      have := h.past_le τ hτ
      omega
    have hcounted := h.counted
    have hmax := h.count_le
    omega

theorem Remembers.current (h : Remembers limits past w last) {now : Nat} (hnow : last ≤ now) :
    Remembers limits past (FixedWindow.current limits (some w) now) now := by
  have hpos : 0 < limits.window := by
    have := h.started_le
    have := h.open_at
    omega
  unfold FixedWindow.current
  simp only [Option.getD_some]
  split
  · rename_i hover
    have hstarted := h.started_le
    have hopen := h.open_at
    refine ⟨le_rfl, by simpa using hpos, fun τ hτ => (h.past_le τ hτ).trans hnow, ?_,
      Nat.zero_le _, fun t ht => ?_, fun t _ => h.between_le t⟩
    · have hnone : between now (now + 1) past ≤ between now now past := by
        apply between_mono
        intro τ hτ hle _
        have := h.past_le τ hτ
        omega
      have hzero : between now now past = 0 := by
        apply List.countP_eq_zero.mpr
        intro τ _
        rw [decide_eq_true_eq]
        omega
      exact hnone.trans (le_of_eq hzero)
    · have ht' : now < t + limits.window := ht
      have hin : between t now past ≤ between w.started (last + 1) past := by
        apply between_mono
        intro τ hτ hle _
        have := h.past_le τ hτ
        omega
      exact hin.trans (h.counted.trans h.count_le)
  · rename_i hopen
    have hstarted := h.started_le
    refine ⟨by omega, by omega, fun τ hτ => (h.past_le τ hτ).trans hnow, ?_, h.count_le,
      h.before, h.earlier⟩
    refine le_trans (between_mono fun τ hτ hle _ => ?_) h.counted
    have := h.past_le τ hτ
    omega

theorem Remembers.admits (h : Remembers limits past w last) (hroom : w.count < limits.max) :
    Remembers limits (past ++ [last]) ⟨w.started, w.count + 1⟩ last := by
  refine ⟨h.started_le, h.open_at, ?_, ?_, hroom, fun t ht => ?_, fun t ht => ?_⟩
  · intro τ hτ
    rcases List.mem_append.mp hτ with hτ | hτ
    · exact h.past_le τ hτ
    · exact (List.mem_singleton.mp hτ).le
  · change between w.started (last + 1) (past ++ [last]) ≤ w.count + 1
    rw [between_concat]
    have hcounted := h.counted
    split <;> omega
  · change between t w.started (past ++ [last]) ≤ limits.max
    have hstarted := h.started_le
    rw [between_concat, if_neg (by omega), Nat.add_zero]
    exact h.before t ht
  · have hstarted := h.started_le
    have ht' : t + limits.window ≤ w.started := ht
    rw [between_concat, if_neg (by omega), Nat.add_zero]
    exact h.earlier t ht

theorem Remembers.run (h : Remembers limits past w last) {times : List Nat}
    (hsorted : (last :: times).Pairwise (· ≤ ·))
    (t : Nat) : between t (t + limits.window) (past ++ admitted limits (some w) times) ≤
      2 * limits.max := by
  induction times generalizing past w last with
  | nil =>
    rw [admitted, List.append_nil]
    exact h.between_le t
  | cons now times ih =>
    rw [List.pairwise_cons] at hsorted
    have hcurrent := h.current (hsorted.1 now List.mem_cons_self)
    unfold admitted arrive
    split
    · rename_i hadmits
      have hrest := ih (hcurrent.admits hadmits) hsorted.2
      rwa [List.append_assoc, List.singleton_append] at hrest
    · exact ih hcurrent hsorted.2

/-- No interval of one window's length admits more than twice the limit. -/
theorem between_admitted_le {times : List Nat} (hsorted : times.Pairwise (· ≤ ·)) (t : Nat) :
    between t (t + limits.window) (admitted limits none times) ≤ 2 * limits.max := by
  by_cases hpos : 0 < limits.window
  · cases times with
    | nil => simp [admitted, between]
    | cons now times =>
      have hfresh : Remembers limits [] ⟨now, 0⟩ now :=
        ⟨le_rfl, by simpa using hpos, by simp, Nat.zero_le _, Nat.zero_le _,
          fun _ _ => Nat.zero_le _, fun _ _ => Nat.zero_le _⟩
      have hsame : admitted limits none (now :: times) =
          admitted limits (some ⟨now, 0⟩) (now :: times) := by
        simp only [admitted, Admits, arrive, FixedWindow.current,
          Option.getD_none, Option.getD_some]
      have hnow : ∀ τ ∈ now :: times, now ≤ τ :=
        List.forall_mem_cons.mpr ⟨le_rfl, (List.pairwise_cons.mp hsorted).1⟩
      rw [hsame]
      exact hfresh.run (List.pairwise_cons.mpr ⟨hnow, hsorted⟩) t
  · have hzero : between t (t + limits.window) (admitted limits none times) = 0 := by
      apply List.countP_eq_zero.mpr
      intro τ _
      rw [decide_eq_true_eq]
      omega
    omega

end Bound

section Log

/-- One arrival: whether it began the window anew, and whether it got through. -/
structure Entry where
  time : Nat
  reset : Bool
  admitted : Bool
  deriving DecidableEq

variable (limits : Limits)

def Resets (w : Option Window) (now : Nat) : Prop := limits.window ≤ now - (w.getD ⟨now, 0⟩).started

instance (w : Option Window) (now : Nat) : Decidable (Resets limits w now) := Nat.decLe _ _

def entry (w : Option Window) (now : Nat) : Entry :=
  ⟨now, decide (Resets limits w now), decide (Admits limits w now)⟩

def entries : Option Window → List Nat → List Entry
  | _, [] => []
  | w, now :: times => entry limits w now :: entries (some (arrive limits w now)) times

variable {limits} {w : Window} {times : List Nat}

theorem entries_admitted (w : Option Window) (times : List Nat) :
    ((entries limits w times).filter Entry.admitted).map Entry.time = admitted limits w times := by
  induction times generalizing w with
  | nil => rfl
  | cons now times ih =>
    by_cases hadmits : Admits limits w now
    · simp [entries, entry, admitted, hadmits, ih]
    · simp [entries, entry, admitted, hadmits, ih]

theorem current_of_reset {w : Option Window} {now : Nat} (h : Resets limits w now) :
    current limits w now = ⟨now, 0⟩ :=
  if_pos h

theorem current_of_kept {w : Option Window} {now : Nat} (h : ¬ Resets limits w now) :
    current limits w now = w.getD ⟨now, 0⟩ := if_neg h

theorem arrive_started (w : Option Window) (now : Nat) :
    (arrive limits w now).started = (current limits w now).started := by
  unfold arrive
  split <;> rfl

theorem arrive_count_le {w : Option Window} {now : Nat}
    (h : (current limits w now).count ≤ limits.max) :
    (arrive limits w now).count ≤ limits.max := by
  unfold arrive
  split
  · rename_i hadmits
    exact hadmits
  · exact h

theorem current_count_le {w : Option Window} {now : Nat} (h : ∀ w' ∈ w, w'.count ≤ limits.max) :
    (current limits w now).count ≤ limits.max := by
  by_cases hreset : Resets limits w now
  · rw [current_of_reset hreset]
    exact Nat.zero_le _
  · rw [current_of_kept hreset]
    cases w with
    | none => exact Nat.zero_le _
    | some w => exact h w rfl

/-- What a counter has room for after the admissions of a stretch without a reset. -/
theorem count_add_admitted_le {seg : List Entry} (hseg : seg <+: entries limits (some w) times)
    (hcount : w.count ≤ limits.max) (hkept : ∀ e ∈ seg, e.reset = false) :
    w.count + seg.countP Entry.admitted ≤ limits.max := by
  induction times generalizing w seg with
  | nil =>
    rw [List.prefix_nil.mp hseg]
    exact hcount
  | cons now times ih =>
    cases seg with
    | nil => exact hcount
    | cons e seg =>
      obtain ⟨rfl, hrest⟩ := List.cons_prefix_cons.mp hseg
      have hreset : ¬ Resets limits (some w) now := by
        simpa [entry] using hkept _ List.mem_cons_self
      have hcurrent : current limits (some w) now = w := current_of_kept hreset
      have hrestKept : ∀ e ∈ seg, e.reset = false := fun e he => hkept e (List.mem_cons_of_mem _ he)
      by_cases hadmits : Admits limits (some w) now
      · have harrive : arrive limits (some w) now = ⟨w.started, w.count + 1⟩ := by
          rw [arrive, if_pos hadmits, hcurrent]
        have hroom : w.count < limits.max := by
          rw [← hcurrent]
          exact hadmits
        rw [harrive] at hrest
        have hcounted := ih hrest hroom hrestKept
        have hadmitted : (entry limits (some w) now).admitted = true := decide_eq_true hadmits
        rw [List.countP_cons_of_pos hadmitted]
        simp only at hcounted
        omega
      · have harrive : arrive limits (some w) now = w := by rw [arrive, if_neg hadmits, hcurrent]
        rw [harrive] at hrest
        have hrejected : ¬ (entry limits (some w) now).admitted = true := by
          simpa [entry] using hadmits
        rw [List.countP_cons_of_neg hrejected]
        exact ih hrest hcount hrestKept

/-- No stretch that a reset opens, or none, admits more than the limit. -/
theorem admitted_segment_le {w : Option Window} {seg : List Entry}
    (hseg : seg <:+: entries limits w times)
    (hcount : ∀ w' ∈ w, w'.count ≤ limits.max) (hkept : ∀ e ∈ seg.tail, e.reset = false) :
    seg.countP Entry.admitted ≤ limits.max := by
  induction times generalizing w with
  | nil =>
    rw [List.infix_nil.mp hseg]
    exact Nat.zero_le _
  | cons now times ih =>
    have hcurrent : (current limits w now).count ≤ limits.max := current_count_le hcount
    have harrive := arrive_count_le hcurrent
    rcases List.infix_cons_iff.mp hseg with hprefix | hinfix
    · cases seg with
      | nil => exact Nat.zero_le _
      | cons e seg =>
        obtain ⟨rfl, hrest⟩ := List.cons_prefix_cons.mp hprefix
        have hcounted := count_add_admitted_le hrest harrive hkept
        by_cases hadmits : Admits limits w now
        · have hadmitted : (entry limits w now).admitted = true := decide_eq_true hadmits
          rw [List.countP_cons_of_pos hadmitted]
          rw [arrive, if_pos hadmits] at hcounted
          simp only at hcounted
          omega
        · have hrejected : ¬ (entry limits w now).admitted = true := by simpa [entry] using hadmits
          rw [List.countP_cons_of_neg hrejected]
          omega
    · apply ih hinfix
      intro w' hw'
      cases hw'
      exact harrive

theorem reset_time_le (hpos : 0 < limits.window) :
    ∀ e ∈ entries limits (some w) times, e.reset = true → w.started + limits.window ≤ e.time := by
  induction times generalizing w with
  | nil => simp [entries]
  | cons now times ih =>
    intro e he hreset
    rcases List.mem_cons.mp he with rfl | he
    · have hover : limits.window ≤ now - w.started := of_decide_eq_true hreset
      change w.started + limits.window ≤ now
      omega
    · have hrest := ih e he hreset
      rw [arrive_started] at hrest
      by_cases hover : Resets limits (some w) now
      · have hlong : limits.window ≤ now - w.started := hover
        rw [current_of_reset hover] at hrest
        simp only at hrest
        omega
      · rwa [current_of_kept hover] at hrest

/-- A reset comes no sooner than one window after the reset before it. -/
theorem resets_apart (hpos : 0 < limits.window) (w : Option Window) (times : List Nat) :
    ((entries limits w times).filter Entry.reset).Pairwise fun e e' =>
      e.time + limits.window ≤ e'.time := by
  induction times generalizing w with
  | nil => exact List.Pairwise.nil
  | cons now times ih =>
    rw [entries, List.filter_cons]
    by_cases hreset : Resets limits w now
    · have htrue : (entry limits w now).reset = true := decide_eq_true hreset
      rw [if_pos htrue, List.pairwise_cons]
      constructor
      · intro e he
        rw [List.mem_filter] at he
        have hlater := reset_time_le hpos e he.1 he.2
        rwa [arrive_started, current_of_reset hreset] at hlater
      · exact ih _
    · have hfalse : ¬ (entry limits w now).reset = true := by simpa [entry] using hreset
      rw [if_neg hfalse]
      exact ih _

end Log

section Waiting

variable {limits : Limits} {w : Window} {now : Nat} {times : List Nat}

/-- The window of a counter behind its arrivals. -/
def after (limits : Limits) : Option Window → List Nat → Option Window
  | w, [] => w
  | w, now :: times => after limits (some (arrive limits w now)) times

/-- Until it ends, the window admits nothing more. -/
def Full (limits : Limits) (w : Window) : Prop := limits.max ≤ w.count

theorem admits_of_resets (hmax : 0 < limits.max) {w : Option Window} (h : Resets limits w now) :
    Admits limits w now := by
  rw [Admits, current_of_reset h]
  exact hmax

theorem admits_iff_resets (hmax : 0 < limits.max) (hfull : Full limits w) :
    Admits limits (some w) now ↔ Resets limits (some w) now := by
  constructor
  · intro hadmits
    by_contra hkept
    rw [Admits, current_of_kept hkept] at hadmits
    exact absurd hadmits (Nat.not_lt.mpr hfull)
  · exact admits_of_resets hmax

theorem arrive_of_full (hfull : Full limits w) (hkept : ¬ Resets limits (some w) now) :
    arrive limits (some w) now = w := by
  have hcurrent : current limits (some w) now = w := current_of_kept hkept
  have hrejected : ¬ Admits limits (some w) now := by
    rw [Admits, hcurrent]
    exact Nat.not_lt.mpr hfull
  rw [arrive, if_neg hrejected, hcurrent]

theorem resets_iff (hpos : 0 < limits.window) : Resets limits (some w) now ↔
    w.started + limits.window ≤ now := by
  change limits.window ≤ now - w.started ↔ w.started + limits.window ≤ now
  omega

/-- A rejection finds a full window, before its end. -/
theorem exists_full_of_rejected (hmax : 0 < limits.max) {w : Option Window}
    (h : ¬ Admits limits w now) :
    ∃ w', w = some w' ∧ Full limits w' ∧ 0 < limits.window ∧ now < w'.started + limits.window := by
  have hkept : ¬ Resets limits w now := fun hreset => h (admits_of_resets hmax hreset)
  rw [Admits, current_of_kept hkept] at h
  cases w with
  | none => exact absurd hmax h
  | some w =>
    have hopen : ¬ limits.window ≤ now - w.started := hkept
    exact ⟨w, rfl, Nat.not_lt.mp h, by omega, by omega⟩

theorem entries_time (w : Option Window) (times : List Nat) :
    (entries limits w times).map Entry.time = times := by
  induction times generalizing w with
  | nil => rfl
  | cons now times ih => exact congrArg (now :: ·) (ih _)

theorem full_held (hmax : 0 < limits.max) (hpos : 0 < limits.window) (hfull : Full limits w)
    (hsorted : times.Pairwise (· ≤ ·)) :
    ∀ e ∈ entries limits (some w) times, e.time < w.started + limits.window →
    e.admitted = false := by
  induction times with
  | nil => simp [entries]
  | cons now times ih =>
    intro e he hbefore
    rw [List.pairwise_cons] at hsorted
    by_cases hreset : Resets limits (some w) now
    · have hend : w.started + limits.window ≤ now := (resets_iff hpos).mp hreset
      have hlater : ∀ τ ∈ now :: times, w.started + limits.window ≤ τ :=
        List.forall_mem_cons.mpr ⟨hend, fun τ hτ => hend.trans (hsorted.1 τ hτ)⟩
      have htimes : (entries limits (some w) (now :: times)).map Entry.time = now :: times :=
        entries_time _ _
      have htime : e.time ∈ now :: times := htimes ▸ List.mem_map_of_mem he
      exact absurd (hlater e.time htime) (Nat.not_le.mpr hbefore)
    · rcases List.mem_cons.mp he with rfl | he
      · exact decide_eq_false fun hadmits => hreset ((admits_iff_resets hmax hfull).mp hadmits)
      · rw [arrive_of_full hfull hreset] at he
        exact ih hsorted.2 e he hbefore

theorem full_kept (hmax : 0 < limits.max) (hfull : Full limits w)
    (hrefused : ∀ e ∈ entries limits (some w) times, e.admitted = false) :
    after limits (some w) times = some w := by
  induction times with
  | nil => rfl
  | cons now times ih =>
    rw [entries, List.forall_mem_cons] at hrefused
    have hkept : ¬ Resets limits (some w) now := fun hreset =>
      of_decide_eq_false hrefused.1 (admits_of_resets hmax hreset)
    have hsame := arrive_of_full hfull hkept
    rw [after, hsame]
    rw [hsame] at hrefused
    exact ih hrefused.2

theorem full_released (hmax : 0 < limits.max) (hpos : 0 < limits.window) (hfull : Full limits w)
    {earlier rest : List Entry} {e : Entry}
    (hentries : entries limits (some w) times = earlier ++ e :: rest)
    (hrefused : ∀ e' ∈ earlier, e'.admitted = false) (hend : w.started + limits.window ≤ e.time) :
    e.admitted = true := by
  induction times generalizing earlier with
  | nil => cases earlier <;> cases hentries
  | cons now times ih =>
    cases earlier with
    | nil =>
      obtain ⟨rfl, -⟩ := List.cons.inj hentries
      exact decide_eq_true (admits_of_resets hmax ((resets_iff hpos).mpr hend))
    | cons e' earlier =>
      obtain ⟨rfl, hrest⟩ := List.cons.inj hentries
      rw [List.forall_mem_cons] at hrefused
      have hkept : ¬ Resets limits (some w) now := fun hreset =>
        of_decide_eq_false hrefused.1 (admits_of_resets hmax hreset)
      rw [arrive_of_full hfull hkept] at hrest
      exact ih hrest hrefused.2

/-- A window starts at one of the arrivals. -/
theorem after_started (w : Option Window) (times : List Nat) :
    ∀ v' ∈ after limits w times, v'.started ∈ times ∨ ∃ v ∈ w, v'.started = v.started := by
  induction times generalizing w with
  | nil => exact fun v' hv' => .inr ⟨v', hv', rfl⟩
  | cons now times ih =>
    intro v' hv'
    rcases ih _ v' hv' with hmem | ⟨v, hv, hstarted⟩
    · exact .inl (List.mem_cons_of_mem _ hmem)
    · cases hv
      rw [arrive_started] at hstarted
      by_cases hreset : Resets limits w now
      · rw [current_of_reset hreset] at hstarted
        exact .inl (hstarted ▸ List.mem_cons_self)
      · rw [current_of_kept hreset] at hstarted
        cases w with
        | none => exact .inl (hstarted ▸ List.mem_cons_self)
        | some v => exact .inr ⟨v, rfl, hstarted⟩

end Waiting

end FixedWindow
