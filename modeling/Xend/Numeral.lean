import Mathlib.Data.Nat.Digits.Lemmas

/-! Positional numerals, high digit first, that keep their leading zeros. -/

namespace Numeral

def value (b : Nat) (ds : List Nat) : Nat := Nat.ofDigits b ds.reverse

def zeros (ds : List Nat) : Nat := (ds.takeWhile (· == 0)).length

def numeral (b k n : Nat) : List Nat := List.replicate k 0 ++ (Nat.digits b n).reverse

/-- Two numerals with the same zeros in front and the same value. -/
structure Converts (b b' : Nat) (ds ds' : List Nat) : Prop where
  zeros_eq : zeros ds = zeros ds'
  value_eq : value b ds = value b' ds'

variable {b b' : Nat} {ds ds' : List Nat}

@[simp] theorem value_nil (b : Nat) : value b [] = 0 := rfl

theorem value_cons (b d : Nat) (ds : List Nat) :
    value b (d :: ds) = d * b ^ ds.length + value b ds := by
  rw [value, List.reverse_cons, Nat.ofDigits_append, List.length_reverse,
    Nat.ofDigits_singleton, value]
  ring

theorem value_replicate_append (b k : Nat) (ds : List Nat) :
    value b (List.replicate k 0 ++ ds) = value b ds := by
  rw [value, List.reverse_append, List.reverse_replicate, Nat.ofDigits_append_replicate_zero, value]

@[simp] theorem value_numeral (b k n : Nat) : value b (numeral b k n) = n := by
  rw [numeral, value_replicate_append, value, List.reverse_reverse, Nat.ofDigits_digits]

theorem zeros_replicate_append (k : Nat) (ds : List Nat) :
    zeros (List.replicate k 0 ++ ds) = k + zeros ds := by
  induction k with
  | zero => simp
  | succ k ih =>
    have hcons : zeros (0 :: (List.replicate k 0 ++ ds)) =
        zeros (List.replicate k 0 ++ ds) + 1 := by
      simp [zeros]
    rw [List.replicate_succ, List.cons_append, hcons, ih]
    omega

theorem zeros_digits (b n : Nat) : zeros (Nat.digits b n).reverse = 0 := by
  by_cases hn : n = 0
  · simp [hn, zeros]
  · have hne : Nat.digits b n ≠ [] := Nat.digits_ne_nil_iff_ne_zero.mpr hn
    have hlast := Nat.getLast_digit_ne_zero b hn
    rw [← List.dropLast_append_getLast hne, List.reverse_concat, zeros,
      List.takeWhile_cons_of_neg (by simpa using hlast)]
    rfl

theorem zeros_numeral (b k n : Nat) : zeros (numeral b k n) = k := by
  rw [numeral, zeros_replicate_append, zeros_digits, Nat.add_zero]

theorem lt_of_mem_numeral (hb : 1 < b) {k n d : Nat} (h : d ∈ numeral b k n) : d < b := by
  rcases List.mem_append.mp h with h | h
  · rw [(List.mem_replicate.mp h).2]
    omega
  · exact Nat.digits_lt_base hb (List.mem_reverse.mp h)

theorem numeral_zeros_value (hb : 1 < b) (h : ∀ d ∈ ds, d < b) :
    numeral b (zeros ds) (value b ds) = ds := by
  induction ds with
  | nil => simp [numeral, zeros]
  | cons d ds ih =>
    rw [List.forall_mem_cons] at h
    by_cases hd : d = 0
    · have hz : zeros (d :: ds) = zeros ds + 1 := by simp [zeros, hd]
      have hv : value b (d :: ds) = value b ds := by rw [value_cons, hd, Nat.zero_mul, Nat.zero_add]
      have hcons : numeral b (zeros ds + 1) (value b ds) =
          0 :: numeral b (zeros ds) (value b ds) := by
        rw [numeral, List.replicate_succ, List.cons_append, numeral]
      rw [hz, hv, hcons, ih h.2, hd]
    · have hz : zeros (d :: ds) = 0 := by
        rw [zeros, List.takeWhile_cons_of_neg (by simpa using hd)]
        rfl
      have hdigits : Nat.digits b (Nat.ofDigits b (d :: ds).reverse) = (d :: ds).reverse := by
        apply Nat.digits_ofDigits b hb
        · intro x hx
          rcases List.mem_cons.mp (List.mem_reverse.mp hx) with rfl | hx
          · exact h.1
          · exact h.2 x hx
        · intro _
          rw [List.getLast_reverse]
          exact hd
      rw [hz, numeral, value, hdigits, List.reverse_reverse]
      rfl

theorem Converts.symm (h : Converts b b' ds ds') : Converts b' b ds' ds :=
  ⟨h.zeros_eq.symm, h.value_eq.symm⟩

theorem Converts.eq_numeral (h : Converts b b' ds ds') (hb : 1 < b) (hds : ∀ d ∈ ds, d < b) :
    ds = numeral b (zeros ds') (value b' ds') := by
  rw [← h.zeros_eq, ← h.value_eq, numeral_zeros_value hb hds]

theorem converts_numeral (b b' : Nat) (ds : List Nat) :
    Converts b b' (numeral b (zeros ds) (value b' ds)) ds :=
  ⟨zeros_numeral b _ _, value_numeral b _ _⟩

end Numeral
