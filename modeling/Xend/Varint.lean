import Xend.Framing

/-! Numbers of any size in bytes of seven bits, low bits first, the high bit
marking continuation. A number has many spellings, and one that is the shortest. -/

namespace Varint

open Framing

def readVarint : Reader Nat
  | [] => none
  | b :: bs =>
    if b.toNat < 128 then some (b.toNat, bs) else do
    let (n, bs) ← readVarint bs
    some (b.toNat % 128 + 128 * n, bs)

/-- The bytes are read as `n`, to the last of them. -/
def Spells (code : Bytes) (n : Nat) : Prop := readVarint code = some (n, [])

/-- Every other spelling is longer. -/
def Shortest (code : Bytes) (n : Nat) : Prop :=
  Spells code n ∧ ∀ other, Spells other n → other ≠ code → code.length < other.length

theorem spells_last {b : UInt8} (hb : b.toNat < 128) {code : Bytes} {n : Nat} :
    Spells (b :: code) n ↔ code = [] ∧ n = b.toNat := by
  rw [Spells, readVarint, if_pos hb, Option.some.injEq, Prod.mk.injEq, and_comm,
    eq_comm (a := b.toNat)]

theorem spells_more {b : UInt8} (hb : 128 ≤ b.toNat) {code : Bytes} {n : Nat} :
    Spells (b :: code) n ↔ ∃ m, Spells code m ∧ n = b.toNat % 128 + 128 * m := by
  rw [Spells, readVarint, if_neg (Nat.not_lt.mpr hb)]
  constructor
  · intro h
    obtain ⟨⟨m, rest⟩, hm, hn⟩ := Option.bind_eq_some_iff.mp h
    obtain ⟨hvalue, rfl⟩ := Prod.mk.inj (Option.some.inj hn)
    exact ⟨m, hm, hvalue.symm⟩
  · rintro ⟨m, hm, rfl⟩
    have hread : readVarint code = some (m, []) := hm
    rw [hread]
    rfl

theorem not_spells_nil {n : Nat} : ¬ Spells [] n := by
  intro h
  cases h

/-- No spelling goes on: a number is read the same, whatever follows. -/
theorem Spells.append {code : Bytes} {n : Nat} (h : Spells code n) (rest : Bytes) :
    readVarint (code ++ rest) = some (n, rest) := by
  induction code generalizing n with
  | nil => exact absurd h not_spells_nil
  | cons b code ih =>
    rw [List.cons_append, readVarint]
    by_cases hb : b.toNat < 128
    · obtain ⟨rfl, rfl⟩ := (spells_last hb).mp h
      rw [if_pos hb, List.nil_append]
    · obtain ⟨m, hm, rfl⟩ := (spells_more (Nat.not_lt.mp hb)).mp h
      have hread := ih hm
      rw [if_neg hb, hread]
      rfl

/-- Where the strict reader of 16 bits accepts, both read the same. -/
theorem readVarint_of_readCompactU16 {bs rest : Bytes} {n : Nat}
    (h : readCompactU16 bs = some (n, rest)) :
    readVarint bs = some (n, rest) := by
  cases bs with
  | nil => cases h
  | cons a bs =>
    unfold readCompactU16 at h
    by_cases ha : a.toNat < 128
    · simp only [if_pos ha] at h
      rw [readVarint, if_pos ha, h]
    · simp only [if_neg ha] at h
      rw [readVarint, if_neg ha]
      cases bs with
      | nil => cases h
      | cons b bs =>
        by_cases hb : b.toNat < 128
        · simp only [if_pos hb, Option.ite_none_left_eq_some, Option.some.injEq, Prod.mk.injEq] at h
          obtain ⟨-, rfl, rfl⟩ := h
          rw [readVarint, if_pos hb, Nat.mul_comm b.toNat]
          rfl
        · simp only [if_neg hb] at h
          cases bs with
          | nil => cases h
          | cons c bs =>
            simp only [Option.ite_none_left_eq_some, Option.some.injEq, Prod.mk.injEq] at h
            obtain ⟨hc, rfl, rfl⟩ := h
            have hlast : c.toNat < 128 := by omega
            have hvalue : a.toNat % 128 + 128 * (b.toNat % 128 + 128 * c.toNat) =
                a.toNat % 128 + b.toNat % 128 * 128 + c.toNat * 16384 := by omega
            rw [readVarint, if_neg hb, readVarint, if_pos hlast]
            exact congrArg (fun value => some (value, bs)) hvalue

theorem shortest_last {b : UInt8} (hb : b.toNat < 128) : Shortest [b] b.toNat := by
  refine ⟨(spells_last hb).mpr ⟨rfl, rfl⟩, fun other hother hne => ?_⟩
  cases other with
  | nil => exact absurd hother not_spells_nil
  | cons c code =>
    by_cases hc : c.toNat < 128
    · obtain ⟨rfl, hvalue⟩ := (spells_last hc).mp hother
      exact absurd (congrArg (fun x => [x]) (UInt8.toNat_inj.mp hvalue.symm)) hne
    · obtain ⟨m, hm, -⟩ := (spells_more (Nat.not_lt.mp hc)).mp hother
      have hmore : code ≠ [] := fun hnil => not_spells_nil (hnil ▸ hm)
      have hlength := List.length_pos_of_ne_nil hmore
      simp only [List.length_cons, List.length_nil]
      omega

theorem Shortest.more {code : Bytes} {n : Nat} (h : Shortest code n) (hn : 0 < n) {b : UInt8}
    (hb : 128 ≤ b.toNat) :
    Shortest (b :: code) (b.toNat % 128 + 128 * n) := by
  refine ⟨(spells_more hb).mpr ⟨n, h.1, rfl⟩, fun other hother hne => ?_⟩
  cases other with
  | nil => exact absurd hother not_spells_nil
  | cons c rest =>
    have hbmax := b.toNat_lt
    have hcmax := c.toNat_lt
    by_cases hc : c.toNat < 128
    · obtain ⟨-, hvalue⟩ := (spells_last hc).mp hother
      omega
    · obtain ⟨m, hm, hvalue⟩ := (spells_more (Nat.not_lt.mp hc)).mp hother
      obtain rfl : n = m := by omega
      have hsame : c = b := UInt8.toNat_inj.mp (by omega)
      have hrest : rest ≠ code := fun he => hne (by rw [hsame, he])
      have hlength := h.2 rest hm hrest
      simp only [List.length_cons]
      omega

end Varint
