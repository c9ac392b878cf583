import Xend.Framing

/-! Base64 with padding. The decoder takes canonical input only: whole groups of
four, padding in the last one, and no stray bits before the padding. -/

namespace Base64

open Framing

def alphabet : List Char :=
  "ABCDEFGHIJKLMNOPQRSTUVWXYZabcdefghijklmnopqrstuvwxyz0123456789+/".toList

def symbol (n : Nat) : Char := alphabet.getD n '='

def value (c : Char) : Option Nat := alphabet.findIdx? (· == c)

def encodeChars : Bytes → List Char
  | [] => []
  | [a] => [symbol (a.toNat / 4), symbol (a.toNat % 4 * 16), '=', '=']
  | [a, b] =>
    [symbol (a.toNat / 4), symbol (a.toNat % 4 * 16 + b.toNat / 16), symbol (b.toNat % 16 * 4), '=']
  | a :: b :: c :: bs =>
    symbol (a.toNat / 4) :: symbol (a.toNat % 4 * 16 + b.toNat / 16) ::
      symbol (b.toNat % 16 * 4 + c.toNat / 64) :: symbol (c.toNat % 64) :: encodeChars bs

def encode (bs : Bytes) : String := String.ofList (encodeChars bs)

def lastGroup (value : Char → Option Nat) (c d e f : Char) : Option Bytes := do
  let v ← value c
  let w ← value d
  if e = '=' ∧ f = '=' then
    if w % 16 = 0 then some [UInt8.ofNat (v * 4 + w / 16)] else none
  else do
    let x ← value e
    if f = '=' then
      if x % 4 = 0 then some [UInt8.ofNat (v * 4 + w / 16),
        UInt8.ofNat (w % 16 * 16 + x / 4)] else none
    else do
      let y ← value f
      some [UInt8.ofNat (v * 4 + w / 16), UInt8.ofNat (w % 16 * 16 + x / 4),
        UInt8.ofNat (x % 4 * 64 + y)]

/-- The alphabet is a parameter: some decoders accept more than one. -/
def decodeChars (value : Char → Option Nat) : List Char → Option Bytes
  | [] => some []
  | [c, d, e, f] => lastGroup value c d e f
  | c :: d :: e :: f :: cs => do
    let v ← value c
    let w ← value d
    let x ← value e
    let y ← value f
    let bs ← decodeChars value cs
    some (UInt8.ofNat (v * 4 + w / 16) :: UInt8.ofNat (w % 16 * 16 + x / 4) ::
      UInt8.ofNat (x % 4 * 64 + y) :: bs)
  | _ => none

def decode (s : String) : Option Bytes := decodeChars value s.toList

theorem value_symbol : ∀ n < 64, value (symbol n) = some n := by decide +kernel

theorem symbol_ne_pad : ∀ n < 64, symbol n ≠ '=' := by decide +kernel

theorem symbol_mem (n : Nat) : symbol n ∈ '=' :: alphabet := by
  rw [symbol, List.getD_eq_getElem?_getD]
  cases h : alphabet[n]? with
  | none => exact List.mem_cons_self
  | some c => exact List.mem_cons_of_mem _ (List.mem_of_getElem? h)

theorem mem_encodeChars {bs : Bytes} {c : Char} (h : c ∈ encodeChars bs) : c ∈ '=' :: alphabet := by
  induction bs using encodeChars.induct with
  | case1 => cases h
  | case2 a =>
    simp only [encodeChars, List.mem_cons, List.not_mem_nil, or_false] at h
    rcases h with rfl | rfl | rfl | rfl <;> first | exact symbol_mem _ | exact List.mem_cons_self
  | case3 a b =>
    simp only [encodeChars, List.mem_cons, List.not_mem_nil, or_false] at h
    rcases h with rfl | rfl | rfl | rfl <;> first | exact symbol_mem _ | exact List.mem_cons_self
  | case4 a b c' bs ih =>
    simp only [encodeChars, List.mem_cons] at h
    rcases h with rfl | rfl | rfl | rfl | h
    · exact symbol_mem _
    · exact symbol_mem _
    · exact symbol_mem _
    · exact symbol_mem _
    · exact ih h

section RoundTrip

variable {val : Char → Option Nat}

theorem ofNat_eq {n : Nat} {b : UInt8} (h : n = b.toNat) : UInt8.ofNat n = b := by
  rw [h]
  exact UInt8.ofNat_toNat

theorem joined (a b c : UInt8) :
    UInt8.ofNat (a.toNat / 4 * 4 + (a.toNat % 4 * 16 + b.toNat / 16) / 16) = a ∧
      UInt8.ofNat
        ((a.toNat % 4 * 16 + b.toNat / 16) % 16 * 16 + (b.toNat % 16 * 4 + c.toNat / 64) / 4) = b ∧
      UInt8.ofNat ((b.toNat % 16 * 4 + c.toNat / 64) % 4 * 64 + c.toNat % 64) = c := by
  have ha := a.toNat_lt
  have hb := b.toNat_lt
  have hc := c.toNat_lt
  exact ⟨ofNat_eq (by omega), ofNat_eq (by omega), ofNat_eq (by omega)⟩

theorem lastGroup_three (hval : ∀ n < 64, val (symbol n) = some n) (a b c : UInt8) :
    lastGroup val (symbol (a.toNat / 4)) (symbol (a.toNat % 4 * 16 + b.toNat / 16))
      (symbol (b.toNat % 16 * 4 + c.toNat / 64)) (symbol (c.toNat % 64)) = some [a, b, c] := by
  have ha := a.toNat_lt
  have hb := b.toNat_lt
  have hc := c.toNat_lt
  obtain ⟨h1, h2, h3⟩ := joined a b c
  have hpad := symbol_ne_pad (b.toNat % 16 * 4 + c.toNat / 64) (by omega)
  have hpad' := symbol_ne_pad (c.toNat % 64) (by omega)
  simp only [lastGroup, hval _ (show a.toNat / 4 < 64 by omega),
    hval _ (show a.toNat % 4 * 16 + b.toNat / 16 < 64 by omega),
    hval _ (show b.toNat % 16 * 4 + c.toNat / 64 < 64 by omega),
    hval _ (show c.toNat % 64 < 64 by omega), hpad, hpad', false_and, if_false,
    Option.bind_eq_bind, Option.bind_some, h1, h2, h3]

theorem decodeChars_encodeChars (hval : ∀ n < 64, val (symbol n) = some n) (bs : Bytes) :
    decodeChars val (encodeChars bs) = some bs := by
  induction bs using encodeChars.induct with
  | case1 => rfl
  | case2 a =>
    have ha := a.toNat_lt
    have h1 : UInt8.ofNat (a.toNat / 4 * 4 + a.toNat % 4 * 16 / 16) = a := ofNat_eq (by omega)
    have h2 : a.toNat % 4 * 16 % 16 = 0 := by omega
    simp only [encodeChars, decodeChars, lastGroup, hval _ (show a.toNat / 4 < 64 by omega),
      hval _ (show a.toNat % 4 * 16 < 64 by omega), h1, h2, and_self, if_true,
      Option.bind_eq_bind, Option.bind_some]
  | case3 a b =>
    have ha := a.toNat_lt
    have hb := b.toNat_lt
    have hpad := symbol_ne_pad (b.toNat % 16 * 4) (by omega)
    have h1 := (joined a b 0).1
    have h2 : UInt8.ofNat ((a.toNat % 4 * 16 + b.toNat / 16) % 16 * 16 +
        b.toNat % 16 * 4 / 4) = b :=
      ofNat_eq (by omega)
    have h3 : b.toNat % 16 * 4 % 4 = 0 := by omega
    simp only [encodeChars, decodeChars, lastGroup, hval _ (show a.toNat / 4 < 64 by omega),
      hval _ (show a.toNat % 4 * 16 + b.toNat / 16 < 64 by omega),
      hval _ (show b.toNat % 16 * 4 < 64 by omega), hpad, false_and, if_false, if_true, h1, h2, h3,
      Option.bind_eq_bind, Option.bind_some]
  | case4 a b c bs ih =>
    have ha := a.toNat_lt
    have hb := b.toNat_lt
    have hc := c.toNat_lt
    obtain ⟨h1, h2, h3⟩ := joined a b c
    rw [encodeChars]
    cases hbs : encodeChars bs with
    | nil =>
      rw [hbs] at ih
      obtain rfl : [] = bs := Option.some.inj ih
      exact lastGroup_three hval a b c
    | cons g gs =>
      rw [hbs] at ih
      simp only [decodeChars, ih, hval _ (show a.toNat / 4 < 64 by omega),
        hval _ (show a.toNat % 4 * 16 + b.toNat / 16 < 64 by omega),
        hval _ (show b.toNat % 16 * 4 + c.toNat / 64 < 64 by omega),
        hval _ (show c.toNat % 64 < 64 by omega), Option.bind_eq_bind, Option.bind_some, h1, h2, h3]

end RoundTrip

theorem decode_encode (bs : Bytes) : decode (encode bs) = some bs := by
  simp [decode, encode, decodeChars_encodeChars value_symbol]

end Base64
