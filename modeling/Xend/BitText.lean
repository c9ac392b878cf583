import Mathlib.Algebra.Order.Group.Nat
import Mathlib.Data.List.Basic
import Mathlib.Data.List.Induction

/-! Numbers as texts of binary digits, padded to a fixed width, joined and cut
apart again. `none` stands for a trap. -/

namespace BitText

def binary (n : Nat) : List Char := Nat.toDigits 2 n

/-- Zeros in front up to the width; a negative count of zeros traps. -/
def padded (width n : Nat) : Option (List Char) :=
  if (binary n).length ≤ width then some (List.replicate (width - (binary n).length) '0' ++
    binary n) else none

def parseFrom : Nat → List Char → Option Nat
  | acc, [] => some acc
  | acc, c :: cs =>
    if c = '0' then parseFrom (2 * acc) cs else if c = '1' then parseFrom (2 * acc + 1) cs else none

def parse (cs : List Char) : Option Nat := if cs.isEmpty then none else parseFrom 0 cs

/-- Cuts a text from the front; an incomplete last piece traps. -/
def slices (width : Nat) : Nat → List Char → Option (List (List Char))
  | _, [] => some []
  | 0, _ :: _ => none
  | fuel + 1, cs =>
    if cs.length < width then none else (slices width fuel (cs.drop width)).map (cs.take width :: ·)

/-- The low `width` binary digits, high digit first. -/
def fixed : Nat → Nat → List Char
  | 0, _ => []
  | width + 1, n => fixed width (n / 2) ++ [Nat.digitChar (n % 2)]

def IsBits (cs : List Char) : Prop := ∀ c ∈ cs, c = '0' ∨ c = '1'

@[simp] theorem fixed_length (width n : Nat) : (fixed width n).length = width := by
  induction width generalizing n with
  | zero => rfl
  | succ width ih => simp [fixed, ih]

theorem digitChar_mod_two (n : Nat) : Nat.digitChar (n % 2) = '0' ∧ n % 2 = 0 ∨
    Nat.digitChar (n % 2) = '1' ∧ n % 2 = 1 := by
  rcases Nat.mod_two_eq_zero_or_one n with h | h
  · exact .inl ⟨by rw [h]; rfl, h⟩
  · exact .inr ⟨by rw [h]; rfl, h⟩

theorem fixed_isBits (width n : Nat) : IsBits (fixed width n) := by
  induction width generalizing n with
  | zero => simp [fixed, IsBits]
  | succ width ih =>
    intro c hc
    rcases List.mem_append.mp hc with h | h
    · exact ih (n / 2) c h
    · rw [List.mem_singleton.mp h]
      exact (digitChar_mod_two n).imp And.left And.left

theorem fixed_zero (width : Nat) : fixed width 0 = List.replicate width '0' := by
  induction width with
  | zero => rfl
  | succ width ih =>
    have hz : Nat.digitChar (0 % 2) = '0' := rfl
    rw [fixed, Nat.zero_div, ih, hz, ← List.replicate_succ']

theorem padded_eq {width n : Nat} (hw : 0 < width) (h : n < 2 ^ width) :
    padded width n = some (fixed width n) := by
  have hlen := (Nat.length_toDigits_le_iff (b := 2) (by omega) hw).mpr h
  rw [padded, binary, if_pos hlen]
  congr 1
  induction width generalizing n with
  | zero => omega
  | succ width ih =>
    rw [fixed, Nat.toDigits_eq_if (by omega : 1 < 2)]
    by_cases hn : n < 2
    · have hmod : n % 2 = n := Nat.mod_eq_of_lt hn
      have hdiv : n / 2 = 0 := by omega
      rw [if_pos hn, hmod, hdiv, fixed_zero]
      rfl
    · have hlt : n / 2 < 2 ^ width := by rw [Nat.pow_succ] at h; omega
      have hpos : 0 < width := by
        rcases width with _ | width
        · simp only [Nat.pow_zero] at hlt
          omega
        · omega
      have hlen' := (Nat.length_toDigits_le_iff (b := 2) (by omega) hpos).mpr hlt
      have hh := ih hpos hlt hlen'
      rw [if_neg hn, List.length_append, List.length_singleton,
        Nat.add_sub_add_right, ← List.append_assoc, hh]

theorem parseFrom_append (acc : Nat) (cs ds : List Char) :
    parseFrom acc (cs ++ ds) = (parseFrom acc cs).bind fun n => parseFrom n ds := by
  induction cs generalizing acc with
  | nil => rfl
  | cons c cs ih =>
    simp only [List.cons_append, parseFrom]
    split
    · exact ih _
    · split
      · exact ih _
      · rfl

theorem parseFrom_fixed (acc width n : Nat) (h : n < 2 ^ width) :
    parseFrom acc (fixed width n) = some (acc * 2 ^ width + n) := by
  induction width generalizing n with
  | zero =>
    simp only [Nat.pow_zero] at h
    simp [fixed, parseFrom]
    omega
  | succ width ih =>
    have hlt : n / 2 < 2 ^ width := by rw [Nat.pow_succ] at h; omega
    rw [fixed, parseFrom_append, ih _ hlt, Option.bind_some, Nat.pow_succ]
    rcases digitChar_mod_two n with ⟨hc, hm⟩ | ⟨hc, hm⟩
    · rw [hc]
      simp only [parseFrom, if_true, Option.some.injEq]
      rw [← Nat.mul_assoc]
      omega
    · rw [hc]
      simp only [parseFrom, if_true, Option.some.injEq, Char.reduceEq, if_false]
      rw [← Nat.mul_assoc]
      omega

theorem parse_fixed {width n : Nat} (hw : 0 < width) (h : n < 2 ^ width) :
    parse (fixed width n) = some n := by
  have hne : (fixed width n).isEmpty = false := by
    rw [List.isEmpty_eq_false_iff, ← List.length_pos_iff, fixed_length]
    exact hw
  simp [parse, hne, parseFrom_fixed 0 width n h]

theorem exists_fixed {cs : List Char} (h : IsBits cs) : ∃ n, n < 2 ^ cs.length ∧
    fixed cs.length n = cs := by
  induction cs using List.reverseRecOn with
  | nil => exact ⟨0, by simp, rfl⟩
  | append_singleton cs c ih =>
    obtain ⟨n, hn, hcs⟩ := ih fun d hd => h d (List.mem_append_left _ hd)
    have hlen : (cs ++ [c]).length = cs.length + 1 := by simp
    rcases h c (by simp) with rfl | rfl
    · refine ⟨2 * n, by rw [hlen, Nat.pow_succ]; omega, ?_⟩
      rw [hlen, fixed, show 2 * n / 2 = n by omega, hcs, show 2 * n % 2 = 0 by omega]
      rfl
    · refine ⟨2 * n + 1, by rw [hlen, Nat.pow_succ]; omega, ?_⟩
      rw [hlen, fixed, show (2 * n + 1) / 2 = n by omega, hcs, show (2 * n + 1) % 2 = 1 by omega]
      rfl

theorem slices_succ {width fuel : Nat} {cs : List Char} (h : cs ≠ []) :
    slices width (fuel + 1) cs =
      if cs.length < width then none else (slices width fuel (cs.drop width)).map
        (cs.take width :: ·) := by
  cases cs with
  | nil => exact absurd rfl h
  | cons c cs => rfl

theorem slices_flatten {width fuel : Nat} {gs : List (List Char)} (hw : 0 < width)
    (hgs : ∀ g ∈ gs, g.length = width) (hfuel : gs.flatten.length ≤ fuel) :
    slices width fuel gs.flatten = some gs := by
  induction gs generalizing fuel with
  | nil => cases fuel <;> rfl
  | cons g gs ih =>
    have hg := hgs g List.mem_cons_self
    simp only [List.flatten_cons, List.length_append] at hfuel ⊢
    cases fuel with
    | zero => omega
    | succ fuel =>
      have hh :=
        ih (fun g' hg' => hgs g' (List.mem_cons_of_mem _ hg'))
          (show gs.flatten.length ≤ fuel by omega)
      have hne : g ++ gs.flatten ≠ [] := by
        intro hnil
        rw [(List.append_eq_nil_iff.mp hnil).1, List.length_nil] at hg
        omega
      have hlt : ¬ (g ++ gs.flatten).length < width := by
        rw [List.length_append]
        omega
      rw [slices_succ hne, if_neg hlt, List.drop_left' hg, List.take_left' hg, hh]
      rfl

theorem exists_groups {width k : Nat} {cs : List Char} (h : cs.length = width * k) :
    ∃ gs : List (List Char), gs.length = k ∧ gs.flatten = cs ∧ ∀ g ∈ gs, g.length = width := by
  induction k generalizing cs with
  | zero =>
    rw [Nat.mul_zero, List.length_eq_zero_iff] at h
    exact ⟨[], rfl, h.symm, by simp⟩
  | succ k ih =>
    rw [Nat.mul_succ] at h
    have hrest : (cs.drop width).length = width * k := by
      rw [List.length_drop]
      omega
    obtain ⟨gs, hk, hflat, hgs⟩ := ih hrest
    refine ⟨cs.take width :: gs, by simp [hk], by simp [hflat], ?_⟩
    intro g hg
    rcases List.mem_cons.mp hg with rfl | hg
    · rw [List.length_take]
      omega
    · exact hgs g hg

end BitText
