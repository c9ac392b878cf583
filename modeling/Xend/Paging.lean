import Mathlib.Data.List.Count
import Mathlib.Data.List.Perm.Subperm

/-! Reading a collection page by page, the latest items first: a page holds up to
`n` items, all from strictly before the last item of the page before it. -/

namespace Paging

variable {α : Type} (time : α → Nat)

def earlier (before : Option Nat) (a : α) : Bool := before.all fun t => decide (time a < t)

/-- The first `n`, in some order with the latest first, of what is before the cursor. -/
def IsPage (xs : List α) (n : Nat) (before : Option Nat) (page : List α) : Prop :=
  ∃ s : List α, s.Perm (xs.filter (earlier time before)) ∧
    s.Pairwise (fun a b => time b ≤ time a) ∧ page = s.take n

/-- The pages up to an empty one, if the fuel lasts. -/
def collect (fetch : Option Nat → List α) : Nat → Option Nat → Option (List α)
  | 0, _ => none
  | fuel + 1, before =>
    match (fetch before).getLast? with
    | none => some []
    | some oldest => (collect fetch fuel (some (time oldest))).map (fetch before ++ ·)

def laterThan (xs : List α) (t : Nat) : Nat := xs.countP fun a => decide (t < time a)

def notBefore (xs : List α) (t : Nat) : Nat := xs.countP fun a => decide (t ≤ time a)

/-- In an order with the latest first, all items of the time `t` lie on one page. -/
def FitsPage (xs : List α) (n t : Nat) : Prop :=
  laterThan time xs t / n = (notBefore time xs t - 1) / n

instance (xs : List α) (n t : Nat) : Decidable (FitsPage time xs n t) := instDecidableEqNat _ _

variable {time} {xs page : List α} {n : Nat} {before : Option Nat} {oldest : α}

section Page

theorem IsPage.subperm (h : IsPage time xs n before page) :
    page.Subperm (xs.filter (earlier time before)) := by
  obtain ⟨s, hperm, -, rfl⟩ := h
  exact (List.take_sublist n s).subperm.trans hperm.subperm

theorem IsPage.mem (h : IsPage time xs n before page) {a : α} (ha : a ∈ page) :
    a ∈ xs ∧ earlier time before a = true :=
  List.mem_filter.mp (h.subperm.subset ha)

theorem IsPage.sorted (h : IsPage time xs n before page) :
    page.Pairwise fun a b => time b ≤ time a := by
  obtain ⟨s, -, hsorted, rfl⟩ := h
  exact hsorted.sublist (List.take_sublist n s)

theorem IsPage.length (h : IsPage time xs n before page) :
    page.length = min n (xs.countP (earlier time before)) := by
  obtain ⟨s, hperm, -, rfl⟩ := h
  rw [List.length_take, hperm.length_eq, List.countP_eq_length_filter]

theorem last_le (h : page.Pairwise fun a b => time b ≤ time a)
    (hlast : page.getLast? = some oldest) :
    ∀ a ∈ page, time oldest ≤ time a := by
  obtain ⟨pre, rfl⟩ := List.getLast?_eq_some_iff.mp hlast
  intro a ha
  rcases List.mem_append.mp ha with ha | ha
  · exact (List.pairwise_append.mp h).2.2 a ha oldest List.mem_cons_self
  · exact Nat.le_of_eq (congrArg time (List.mem_singleton.mp ha)).symm

/-- Everything later than the last item of a page is on the page. -/
theorem IsPage.later_lt (h : IsPage time xs n before page) (hlast : page.getLast? = some oldest) :
    xs.countP (fun a => earlier time before a && decide (time oldest < time a)) < page.length := by
  have hmem : oldest ∈ page := List.mem_of_mem_getLast? hlast
  obtain ⟨s, hperm, hsorted, rfl⟩ := h
  have hcount : xs.countP (fun a => earlier time before a && decide (time oldest < time a)) =
      s.countP fun a => decide (time oldest < time a) := by
    rw [hperm.countP_eq, List.countP_filter]
    apply List.countP_congr
    intro a _
    rw [Bool.and_comm]
  have hsplit : (s.take n ++ s.drop n).Pairwise fun a b => time b ≤ time a := by
    rwa [List.take_append_drop]
  have hrest : (s.drop n).countP (fun a => decide (time oldest < time a)) = 0 := by
    apply List.countP_eq_zero.mpr
    intro a ha
    have hle := (List.pairwise_append.mp hsplit).2.2 oldest hmem a ha
    rw [decide_eq_true_eq]
    omega
  have hpage : (s.take n).countP (fun a => decide (time oldest < time a)) < (s.take n).length := by
    apply List.countP_lt_length_iff.mpr
    exact ⟨oldest, hmem, by simp⟩
  have hall : s.countP (fun a => decide (time oldest < time a)) =
      (s.take n ++ s.drop n).countP fun a => decide (time oldest < time a) := by
        rw [List.take_append_drop]
  rw [hcount, hall, List.countP_append, hrest]
  exact hpage

theorem IsPage.from_subperm (h : IsPage time xs n before page)
    (hlast : page.getLast? = some oldest) :
    page.Subperm (xs.filter fun a => earlier time before a && decide (time oldest ≤ time a)) := by
  have hall : page.filter (fun a => decide (time oldest ≤ time a)) = page := by
    apply List.filter_eq_self.mpr
    intro a ha
    exact decide_eq_true (last_le h.sorted hlast a ha)
  have hsub := h.subperm.filter fun a => decide (time oldest ≤ time a)
  rw [hall, List.filter_filter] at hsub
  simpa only [Bool.and_comm] using hsub

/-- A page is all there is down to the time of its last item, if that many fit. -/
theorem IsPage.perm_iff (h : IsPage time xs n before page) (hlast : page.getLast? = some oldest) :
    page.Perm (xs.filter fun a => earlier time before a && decide (time oldest ≤ time a)) ↔
      xs.countP (fun a => earlier time before a && decide (time oldest ≤ time a)) ≤ n := by
  rw [List.countP_eq_length_filter]
  constructor
  · intro hperm
    rw [← hperm.length_eq, h.length]
    exact Nat.min_le_left _ _
  · intro hfits
    apply (h.from_subperm hlast).perm_of_length_le
    rw [h.length]
    have hall : xs.countP (fun a => earlier time before a && decide (time oldest ≤ time a)) ≤
        xs.countP (earlier time before) := by
      apply List.countP_mono_left
      intro a _ ha
      exact (Bool.and_eq_true_iff.mp ha).1
    rw [List.countP_eq_length_filter] at hall
    exact Nat.le_min.mpr ⟨hfits, hall⟩

end Page

section Split

theorem earlier_of_lt (h : earlier time before oldest = true) {a : α} (ha : time a < time oldest) :
    earlier time before a = true := by
  cases before with
  | none => rfl
  | some t =>
    simp only [earlier, Option.all_some, decide_eq_true_eq] at h ⊢
    omega

/-- What is before the cursor lies down to the time of an item there, or further back. -/
theorem countP_earlier (h : earlier time before oldest = true) (xs : List α) :
    xs.countP (earlier time before) =
      xs.countP (fun a => earlier time before a && decide (time oldest ≤ time a)) +
        xs.countP (earlier time (some (time oldest))) := by
  induction xs with
  | nil => rfl
  | cons a xs ih =>
    have hcursor : earlier time (some (time oldest)) a = decide (time a < time oldest) := rfl
    simp only [List.countP_cons, ih, hcursor]
    by_cases hle : time oldest ≤ time a
    · have hlt : ¬ time a < time oldest := by omega
      cases hearlier : earlier time before a with
      | false => simp [hlt]
      | true =>
        simp [hle, hlt]
        omega
    · have hlt : time a < time oldest := by omega
      have hearlier := earlier_of_lt h hlt
      simp [hle, hlt, hearlier]
      omega

/-- What is not before an item there is not before the cursor, or between the two. -/
theorem notBefore_eq (h : earlier time before oldest = true) (xs : List α) :
    notBefore time xs (time oldest) = xs.countP (fun a => !earlier time before a) +
      xs.countP (fun a => earlier time before a && decide (time oldest ≤ time a)) := by
  unfold notBefore
  induction xs with
  | nil => rfl
  | cons a xs ih =>
    simp only [List.countP_cons, ih]
    by_cases hle : time oldest ≤ time a
    · cases hearlier : earlier time before a <;> simp [hle] <;> omega
    · have hearlier := earlier_of_lt h (by omega : time a < time oldest)
      simp [hle, hearlier]

theorem laterThan_eq (h : earlier time before oldest = true) (xs : List α) :
    laterThan time xs (time oldest) = xs.countP (fun a => !earlier time before a) +
      xs.countP (fun a => earlier time before a && decide (time oldest < time a)) := by
  unfold laterThan
  induction xs with
  | nil => rfl
  | cons a xs ih =>
    simp only [List.countP_cons, ih]
    by_cases hlt : time oldest < time a
    · cases hearlier : earlier time before a <;> simp [hlt] <;> omega
    · by_cases heq : time a = time oldest
      · have hearlier : earlier time before a = true := by
          unfold earlier at h ⊢
          rwa [heq]
        simp [hlt, hearlier]
      · have hearlier := earlier_of_lt h (by omega : time a < time oldest)
        simp [hlt, hearlier]

theorem laterThan_lt {a : α} (ha : a ∈ xs) :
    laterThan time xs (time a) < notBefore time xs (time a) := by
  have hcount : notBefore time xs (time a) =
      laterThan time xs (time a) + xs.countP fun b => decide (time b = time a) := by
    unfold notBefore laterThan
    clear ha
    induction xs with
    | nil => rfl
    | cons b xs ih =>
      simp only [List.countP_cons, ih, decide_eq_true_eq]
      split <;> split <;> split <;> omega
  have hpos : 0 < xs.countP fun b => decide (time b = time a) :=
    List.countP_pos_iff.mpr ⟨a, ha, decide_eq_true rfl⟩
  omega

theorem fitsPage_of_within {k t : Nat} (hlow : n * k ≤ laterThan time xs t)
    (hhigh : notBefore time xs t ≤ n * k + n)
    (hlt : laterThan time xs t < notBefore time xs t) : FitsPage time xs n t := by
  have hlater : laterThan time xs t / n = k := by
    apply Nat.div_eq_of_lt_le
    · rwa [Nat.mul_comm]
    · rw [Nat.mul_comm, Nat.mul_succ]
      omega
  have hnot : (notBefore time xs t - 1) / n = k := by
    apply Nat.div_eq_of_lt_le
    · rw [Nat.mul_comm]
      omega
    · rw [Nat.mul_comm, Nat.mul_succ]
      omega
  rw [FitsPage, hlater, hnot]

/-- A page that starts on a multiple of `n` has room for all of the times it holds in full. -/
theorem fitsPage_of_full {k : Nat} (hk : xs.countP (fun b => !earlier time before b) = n * k)
    (hfits : xs.countP (fun b => earlier time before b && decide (time oldest ≤ time b)) ≤ n)
    {a : α} (ha : a ∈ xs)
    (hearlier : earlier time before a = true) (hle : time oldest ≤ time a) :
    FitsPage time xs n (time a) := by
  have hnot := notBefore_eq hearlier xs
  have hlater := laterThan_eq hearlier xs
  have hwithin : xs.countP (fun b => earlier time before b && decide (time a ≤ time b)) ≤
      xs.countP fun b => earlier time before b && decide (time oldest ≤ time b) := by
    apply List.countP_mono_left
    intro b _ hb
    simp only [Bool.and_eq_true, decide_eq_true_eq] at hb ⊢
    exact ⟨hb.1, Nat.le_trans hle hb.2⟩
  exact fitsPage_of_within (k := k) (by omega) (by omega) (laterThan_lt ha)

theorem not_fitsPage_of_across {k t : Nat} (hn : 0 < n) (hlow : laterThan time xs t < n * k)
    (hhigh : n * k < notBefore time xs t) : ¬ FitsPage time xs n t := by
  intro hfits
  have hbelow : laterThan time xs t / n < k :=
    (Nat.div_lt_iff_lt_mul hn).mpr (by rwa [Nat.mul_comm])
  have habove : k ≤ (notBefore time xs t - 1) / n := by
    apply (Nat.le_div_iff_mul_le hn).mpr
    rw [Nat.mul_comm]
    omega
  rw [FitsPage] at hfits
  omega

theorem perm_append_iff {q : α → Bool} {page older ys : List α} (hpage : ∀ a ∈ page, q a = true)
    (holder : ∀ a ∈ older, q a = false) :
    (page ++ older).Perm ys ↔ page.Perm (ys.filter q) ∧ older.Perm (ys.filter fun a => !q a) := by
  constructor
  · intro h
    have hin := h.filter q
    have hout := h.filter fun a => !q a
    have hnone : older.filter q = [] := List.filter_eq_nil_iff.mpr fun a ha => by simp [holder a ha]
    have hnone' : page.filter (fun a => !q a) = [] := List.filter_eq_nil_iff.mpr fun a ha => by
      simp [hpage a ha]
    have hall : older.filter (fun a => !q a) = older := List.filter_eq_self.mpr fun a ha => by
      simp [holder a ha]
    rw [List.filter_append, List.filter_eq_self.mpr hpage, hnone, List.append_nil] at hin
    rw [List.filter_append, hnone', hall, List.nil_append] at hout
    exact ⟨hin, hout⟩
  · rintro ⟨hin, hout⟩
    exact (hin.append hout).trans (List.filter_append_perm q ys)

end Split

section Collect

variable {fetch : Option Nat → List α} {records : List α} {fuel : Nat}

theorem collect_cases (h : collect time fetch fuel before = some records) :
    ∃ rest, fuel = rest + 1 ∧ ((fetch before = [] ∧ records = []) ∨
      ∃ oldest older, (fetch before).getLast? = some oldest ∧
        collect time fetch rest (some (time oldest)) = some older ∧
        records = fetch before ++ older) := by
  cases fuel with
  | zero => cases h
  | succ fuel =>
    refine ⟨fuel, rfl, ?_⟩
    unfold collect at h
    split at h
    · rename_i hlast
      cases h
      exact .inl ⟨List.getLast?_eq_none_iff.mp hlast, rfl⟩
    · rename_i oldest hlast
      obtain ⟨older, holder, rfl⟩ := Option.map_eq_some_iff.mp h
      exact .inr ⟨oldest, older, hlast, holder, rfl⟩

/-- A page and all older pages together hold what each of them should. -/
theorem IsPage.append_perm_iff {older : List α} (h : IsPage time xs n before page)
    (hlast : page.getLast? = some oldest)
    (holder : ∀ a ∈ older, earlier time (some (time oldest)) a = true) :
    (page ++ older).Perm (xs.filter (earlier time before)) ↔
      page.Perm (xs.filter fun a => earlier time before a && decide (time oldest ≤ time a)) ∧
        older.Perm (xs.filter (earlier time (some (time oldest)))) := by
  have hmem := h.mem (List.mem_of_mem_getLast? hlast)
  have hin : ∀ a ∈ page, decide (time oldest ≤ time a) = true :=
    fun a ha => decide_eq_true (last_le h.sorted hlast a ha)
  have hout : ∀ a ∈ older, decide (time oldest ≤ time a) = false := by
    intro a ha
    have hlt : time a < time oldest := of_decide_eq_true (holder a ha)
    exact decide_eq_false (by omega)
  have hnew : (xs.filter (earlier time before)).filter (fun a => decide (time oldest ≤ time a)) =
      xs.filter fun a => earlier time before a && decide (time oldest ≤ time a) := by
    rw [List.filter_filter]
    apply List.filter_congr
    intro a _
    rw [Bool.and_comm]
  have hold : (xs.filter (earlier time before)).filter (fun a => !decide (time oldest ≤ time a)) =
      xs.filter (earlier time (some (time oldest))) := by
    rw [List.filter_filter]
    apply List.filter_congr
    intro a _
    have hcursor : earlier time (some (time oldest)) a = decide (time a < time oldest) := rfl
    by_cases hle : time oldest ≤ time a
    · simp [hcursor, hle]
    · have hlt : time a < time oldest := by omega
      simp [hcursor, hle, hlt, earlier_of_lt hmem.2 hlt]
  rw [perm_append_iff hin hout, hnew, hold]

theorem collect_ends (hfetch : ∀ before, IsPage time xs n before (fetch before))
    (hfuel : xs.countP (earlier time before) < fuel) :
    ∃ records, collect time fetch fuel before = some records := by
  induction fuel generalizing before with
  | zero => omega
  | succ fuel ih =>
    unfold collect
    split
    · exact ⟨[], rfl⟩
    · rename_i oldest hlast
      have hmem := (hfetch before).mem (List.mem_of_mem_getLast? hlast)
      have hsplit := countP_earlier hmem.2 xs
      have hpos : 0 <
          xs.countP (fun a => earlier time before a && decide (time oldest ≤ time a)) := by
        apply List.countP_pos_iff.mpr
        exact ⟨oldest, hmem.1, by simp [hmem.2]⟩
      have hless : xs.countP (earlier time (some (time oldest))) < fuel := by omega
      obtain ⟨older, holder⟩ := ih hless
      exact ⟨fetch before ++ older, by rw [holder]; rfl⟩

theorem collect_mem (hfetch : ∀ before, IsPage time xs n before (fetch before))
    (h : collect time fetch fuel before = some records) : ∀ a ∈ records, a ∈ xs ∧
    earlier time before a = true := by
  induction fuel generalizing before records with
  | zero => cases h
  | succ fuel ih =>
    obtain ⟨_, hrest, ⟨-, rfl⟩ | ⟨oldest, older, hlast, holder, rfl⟩⟩ := collect_cases h
    · simp
    · cases hrest
      intro a ha
      rcases List.mem_append.mp ha with ha | ha
      · exact (hfetch before).mem ha
      · have hmem := (hfetch before).mem (List.mem_of_mem_getLast? hlast)
        have hold := ih holder a ha
        have hlt : time a < time oldest := by simpa [earlier] using hold.2
        exact ⟨hold.1, earlier_of_lt hmem.2 hlt⟩

theorem collect_sorted (hfetch : ∀ before, IsPage time xs n before (fetch before))
    (h : collect time fetch fuel before = some records) :
    records.Pairwise fun a b => time b ≤ time a := by
  induction fuel generalizing before records with
  | zero => cases h
  | succ fuel ih =>
    obtain ⟨_, hrest, ⟨-, rfl⟩ | ⟨oldest, older, hlast, holder, rfl⟩⟩ := collect_cases h
    · exact List.Pairwise.nil
    · cases hrest
      apply List.pairwise_append.mpr
      refine ⟨(hfetch before).sorted, ih holder, fun a ha b hb => ?_⟩
      have hold := (collect_mem hfetch holder b hb).2
      have hlt : time b < time oldest := by simpa [earlier] using hold
      have hle := last_le (hfetch before).sorted hlast a ha
      omega

/-- The pages hold all that is before the cursor exactly if no items of one time lie
on two pages. -/
theorem collect_perm_iff (hfetch : ∀ before, IsPage time xs n before (fetch before)) (hn : 0 < n)
    (h : collect time fetch fuel before = some records)
    (haligned : (∃ a ∈ xs, earlier time before a = true) →
      n ∣ xs.countP fun a => !earlier time before a) :
    records.Perm (xs.filter (earlier time before)) ↔
      ∀ a ∈ xs, earlier time before a = true → FitsPage time xs n (time a) := by
  induction fuel generalizing before records with
  | zero => cases h
  | succ fuel ih =>
    have hpage := hfetch before
    have hlength := hpage.length
    obtain ⟨_, hrest, ⟨hnil, rfl⟩ | ⟨oldest, older, hlast, holder, rfl⟩⟩ := collect_cases h
    · have hnone : xs.countP (earlier time before) = 0 := by
        rw [hnil, List.length_nil] at hlength
        omega
      have hempty : ∀ a ∈ xs, ¬ earlier time before a = true := List.countP_eq_zero.mp hnone
      rw [List.filter_eq_nil_iff.mpr hempty]
      exact iff_of_true (List.Perm.refl []) fun a ha hearlier => absurd hearlier (hempty a ha)
    · cases hrest
      have hmem := hpage.mem (List.mem_of_mem_getLast? hlast)
      obtain ⟨k, hk⟩ := haligned ⟨oldest, hmem⟩
      have hsplit := countP_earlier hmem.2 xs
      have hnot := notBefore_eq hmem.2 xs
      have hlater := laterThan_eq hmem.2 xs
      have hlt := hpage.later_lt hlast
      rw [hpage.append_perm_iff hlast fun a ha => (collect_mem hfetch holder a ha).2,
        hpage.perm_iff hlast]
      by_cases hfits :
        xs.countP (fun a => earlier time before a && decide (time oldest ≤ time a)) ≤ n
      · have hnext : (∃ a ∈ xs, earlier time (some (time oldest)) a = true) →
            n ∣ xs.countP fun a => !earlier time (some (time oldest)) a := by
          rintro ⟨a, ha, hearlier⟩
          have hmore : 0 < xs.countP (earlier time (some (time oldest))) :=
            List.countP_pos_iff.mpr ⟨a, ha, hearlier⟩
          have hfull := (hpage.perm_iff hlast).mpr hfits
          have hcount := hfull.length_eq
          rw [← List.countP_eq_length_filter] at hcount
          have hbefore : xs.countP (fun a => !earlier time (some (time oldest)) a) =
              notBefore time xs (time oldest) := by
            apply List.countP_congr
            intro b _
            simp [earlier]
          refine ⟨k + 1, ?_⟩
          rw [hbefore, Nat.mul_succ]
          omega
        rw [ih holder hnext]
        constructor
        · rintro ⟨-, hrest⟩ a ha hearlier
          by_cases hlate : time a < time oldest
          · exact hrest a ha (decide_eq_true hlate)
          · exact fitsPage_of_full hk hfits ha hearlier (by omega)
        · intro hall
          exact ⟨hfits,
            fun a ha hearlier => hall a ha (earlier_of_lt hmem.2 (of_decide_eq_true hearlier))⟩
      · have hacross : ¬ FitsPage time xs n (time oldest) := by
          apply not_fitsPage_of_across hn (k := k + 1)
          · rw [Nat.mul_succ]
            omega
          · rw [Nat.mul_succ]
            omega
        exact iff_of_false (fun hall => hfits hall.1) fun hall =>
          hacross (hall oldest hmem.1 hmem.2)

end Collect

end Paging
