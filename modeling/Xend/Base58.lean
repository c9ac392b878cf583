import Xend.Framing

/-! Base58 with the Bitcoin alphabet, as the device encodes addresses. `none`
from `encode` is an arithmetic trap. -/

namespace Xend.Base58

open Framing

def alphabet : Bytes := utf8 "123456789ABCDEFGHJKLMNPQRSTUVWXYZabcdefghijkmnopqrstuvwxyz"

/-- Position of a byte in the alphabet; the table is only 128 entries long. -/
def map (c : UInt8) : Option Nat := if 128 ≤ c.toNat then none else alphabet.findIdx? (· == c)

def leading (z : UInt8) (bs : Bytes) : Nat := (bs.takeWhile (· == z)).length

/-- One pass of long division by 58, from the high end. -/
def divide : Nat → Bytes → Option (Bytes × Nat)
  | remainder, [] => some ([], remainder)
  | remainder, b :: bs => do
    let acc := b.toNat + remainder * 256
    if 256 ≤ acc / 58 then none else
    let (quotient, last) ← divide (acc % 58) bs
    some (UInt8.ofNat (acc / 58) :: quotient, last)

/-- The digits, low end first. The start index moves past a leading zero at
most once a pass. -/
def digits : Nat → Bytes → Option Bytes
  | _, [] => some []
  | 0, _ => none
  | fuel + 1, input => do
    let (quotient, remainder) ← divide 0 input
    let digit ← alphabet[remainder]?
    let rest ← digits fuel (if quotient.head? = some 0 then quotient.tail else quotient)
    some (digit :: rest)

def encode (bytes : Bytes) : Option String :=
  if bytes.isEmpty then some "" else do
    let zeros := leading 0 bytes
    let out ← digits (2 * bytes.length) (bytes.drop zeros)
    let one ← alphabet[0]?
    ofUtf8 (out ++ List.replicate zeros one).reverse

def multiply : Nat → Bytes → Bytes × Nat
  | carry, [] => ([], carry)
  | carry, b :: bs =>
    let carry := carry + b.toNat * 58
    let (bs, last) := multiply (carry / 256) bs
    (UInt8.ofNat (carry % 256) :: bs, last)

/-- The bytes a 64-bit carry spills into. -/
def spill : Nat → Nat → Bytes
  | 0, _ => []
  | fuel + 1, carry => if carry = 0 then [] else UInt8.ofNat (carry % 256) ::
      spill fuel (carry / 256)

def decodeFrom : Bytes → Bytes → Option Bytes
  | bytes, [] => some bytes
  | bytes, c :: cs => do
    let value ← map c
    let (bytes, carry) := multiply value bytes
    decodeFrom (bytes ++ spill 8 carry) cs

def decode (s : String) : Option Bytes := do
  let cs := utf8 s
  let bytes ← decodeFrom [] cs
  some (bytes ++ List.replicate (leading 49 cs) 0).reverse

theorem alphabet_length : alphabet.length = 58 := by rfl

theorem alphabet_ascii : ∀ b ∈ alphabet, b.toNat < 128 := by decide +kernel

theorem divide_eq_some {remainder : Nat} (h : remainder < 58) (input : Bytes) :
    ∃ quotient last, divide remainder input = some (quotient, last) ∧ last < 58 ∧
      quotient.length = input.length := by
  induction input generalizing remainder with
  | nil => exact ⟨[], remainder, rfl, h, rfl⟩
  | cons b bs ih =>
    have hb := b.toNat_lt
    have hfit : ¬ 256 ≤ (b.toNat + remainder * 256) / 58 := by omega
    obtain ⟨quotient, last, hq, hlast, hlen⟩ :=
      ih (Nat.mod_lt (b.toNat + remainder * 256) (show 0 < 58 by omega))
    refine ⟨UInt8.ofNat ((b.toNat + remainder * 256) / 58) :: quotient, last, ?_, hlast, ?_⟩
    · simp only [divide, hfit, if_false, hq, Option.bind_eq_bind, Option.bind_some]
    · simp [hlen]

theorem divide_head {b : UInt8} {bs quotient : Bytes} {last : Nat}
    (h : divide 0 (b :: bs) = some (quotient, last)) :
    quotient.head? = some (UInt8.ofNat (b.toNat / 58)) := by
  have hb := b.toNat_lt
  have hfit : ¬ 256 ≤ b.toNat / 58 := by omega
  simp only [divide, Nat.zero_mul, Nat.add_zero, hfit, if_false, Option.bind_eq_bind,
    Option.bind_eq_some_iff] at h
  obtain ⟨rest, -, hrest⟩ := h
  cases hrest
  rfl

/-- Passes that may still be needed: a byte is gone after two, or after one if it
is small. -/
def passes : Bytes → Nat
  | [] => 0
  | b :: bs => 2 * bs.length + if b.toNat < 58 then 1 else 2

theorem passes_le (input : Bytes) : passes input ≤ 2 * input.length := by
  cases input with
  | nil => exact le_rfl
  | cons b bs =>
    simp only [passes, List.length_cons]
    split <;> omega

theorem digits_eq_some {fuel : Nat} {input : Bytes} (h : passes input ≤ fuel) :
    ∃ out, digits fuel input = some out ∧ ∀ c ∈ out, c ∈ alphabet := by
  induction fuel generalizing input with
  | zero =>
    cases input with
    | nil => exact ⟨[], rfl, by simp⟩
    | cons b bs =>
      simp only [passes] at h
      split at h <;> omega
  | succ fuel ih =>
    cases input with
    | nil => exact ⟨[], rfl, by simp⟩
    | cons b bs =>
      obtain ⟨quotient, last, hdiv, hlast, hlen⟩ := divide_eq_some (show 0 < 58 by omega) (b :: bs)
      have hhead := divide_head hdiv
      obtain ⟨q, qs, rfl⟩ : ∃ q qs, quotient = q :: qs := by
        cases quotient with
        | nil => simp at hlen
        | cons q qs => exact ⟨q, qs, rfl⟩
      simp only [List.head?_cons, Option.some.injEq] at hhead
      have hb := b.toNat_lt
      have hq : q.toNat = b.toNat / 58 := by
        rw [hhead, UInt8.toNat_ofNat']
        omega
      simp only [List.length_cons, Nat.add_right_cancel_iff] at hlen
      have hnext : passes (if (q :: qs).head? = some 0 then (q :: qs).tail else q :: qs) ≤
          fuel := by
        by_cases hzero : q = 0
        · have hsmall : b.toNat < 58 := by
            rw [hzero, UInt8.toNat_zero] at hq
            omega
          have hle := passes_le qs
          simp only [passes, hsmall, if_true] at h
          simp only [hzero, List.head?_cons, if_true, List.tail_cons]
          omega
        · have hlarge : ¬ b.toNat < 58 := by
            intro hsmall
            apply hzero
            apply UInt8.toNat_inj.mp
            rw [hq, UInt8.toNat_zero]
            omega
          have hq58 : q.toNat < 58 := by omega
          simp only [passes, hlarge, if_false] at h
          simp only [List.head?_cons, Option.some.injEq, hzero, if_false, passes, hq58, if_true]
          omega
      obtain ⟨rest, hrest, hmem⟩ := ih hnext
      have hget : last < alphabet.length := by rw [alphabet_length]; exact hlast
      refine ⟨alphabet[last] :: rest, ?_, ?_⟩
      · simp only [digits, hdiv, Option.bind_eq_bind, Option.bind_some,
          List.getElem?_eq_getElem hget, hrest]
      · rw [List.forall_mem_cons]
        exact ⟨List.getElem_mem hget, hmem⟩

/-- Every byte string has an address text: no pass overflows, and they end. -/
theorem exists_encode (bytes : Bytes) : ∃ text, encode bytes = some text := by
  unfold encode
  split
  · exact ⟨"", rfl⟩
  · have hfuel : passes (bytes.drop (leading 0 bytes)) ≤ 2 * bytes.length := by
      have hle := passes_le (bytes.drop (leading 0 bytes))
      rw [List.length_drop] at hle
      omega
    obtain ⟨out, hout, hmem⟩ := digits_eq_some hfuel
    obtain ⟨one, hone⟩ : ∃ one, alphabet[0]? = some one := ⟨_, rfl⟩
    have honemem : one ∈ alphabet := List.mem_of_getElem? hone
    obtain ⟨text, htext⟩ : ∃ text,
        utf8 text = (out ++ List.replicate (leading 0 bytes) one).reverse := by
      refine exists_utf8_of_ascii fun b hb => alphabet_ascii b ?_
      rw [List.mem_reverse, List.mem_append, List.mem_replicate] at hb
      rcases hb with hb | ⟨-, rfl⟩
      · exact hmem b hb
      · exact honemem
    refine ⟨text, ?_⟩
    simp only [hout, hone, Option.bind_eq_bind, Option.bind_some, ← htext, ofUtf8_utf8]

end Xend.Base58
