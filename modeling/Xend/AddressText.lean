import Xend.Adapter
import Xend.Base58
import Xend.Numeral

/-! The two halves of the address codec as one conversion between base 256 and
base 58, and the check the backend makes of a registered address. -/

namespace Xend

namespace Base58

open Framing Numeral

def position (c : UInt8) : Nat := alphabet.idxOf c

def symbol (d : Nat) : UInt8 := alphabet.getD d 0

def positions (text : String) : List Nat := (utf8 text).map position

def octets (bytes : Bytes) : List Nat := bytes.map UInt8.toNat

def InAlphabet (text : String) : Prop := ∀ c ∈ utf8 text, c ∈ alphabet

/-- What it means that a text is the Base58 form of a byte string. -/
structure Spells (text : String) (bytes : Bytes) : Prop where
  alphabet : InAlphabet text
  converts : Converts 58 256 (positions text) (octets bytes)

theorem alphabet_nodup : alphabet.Nodup := by decide +kernel

theorem position_lt {c : UInt8} (h : c ∈ alphabet) : position c < 58 :=
  alphabet_length ▸ List.idxOf_lt_length_of_mem h

theorem symbol_position {c : UInt8} (h : c ∈ alphabet) : symbol (position c) = c := by
  have hlt : position c < alphabet.length := List.idxOf_lt_length_of_mem h
  rw [symbol, List.getD_eq_getElem?_getD, List.getElem?_eq_getElem hlt, Option.getD_some]
  exact List.getElem_idxOf hlt

theorem getElem?_alphabet {d : Nat} (h : d < 58) : alphabet[d]? = some (symbol d) := by
  have hlt : d < alphabet.length := by rw [alphabet_length]; exact h
  rw [symbol, List.getD_eq_getElem?_getD, List.getElem?_eq_getElem hlt, Option.getD_some]

theorem symbol_mem {d : Nat} (h : d < 58) : symbol d ∈ alphabet :=
  List.mem_of_getElem? (getElem?_alphabet h)

theorem position_symbol {d : Nat} (h : d < 58) : position (symbol d) = d := by
  have hlt : d < alphabet.length := by rw [alphabet_length]; exact h
  have hget : symbol d = alphabet[d] := by
    rw [symbol, List.getD_eq_getElem?_getD, List.getElem?_eq_getElem hlt, Option.getD_some]
  rw [position, hget, alphabet_nodup.idxOf_getElem]

theorem map_eq_some {c : UInt8} (h : c ∈ alphabet) : map c = some (position c) := by
  have hascii := alphabet_ascii c h
  rw [map, if_neg (by omega)]
  exact List.findIdx?_eq_some_of_exists ⟨c, h, by simp⟩

theorem map_eq_none {c : UInt8} (h : c ∉ alphabet) : map c = none := by
  unfold map
  split
  · rfl
  · rw [List.findIdx?_eq_none_iff]
    intro d hd
    simpa using fun he : d = c => h (he ▸ hd)

theorem octets_lt (bytes : Bytes) : ∀ d ∈ octets bytes, d < 256 := by
  intro d hd
  obtain ⟨b, -, rfl⟩ := List.mem_map.mp hd
  exact b.toNat_lt

theorem octets_injective : Function.Injective octets :=
  List.map_injective_iff.mpr fun _ _ h => UInt8.toNat_inj.mp h

theorem positions_lt {text : String} (h : InAlphabet text) : ∀ d ∈ positions text, d < 58 := by
  intro d hd
  obtain ⟨c, hc, rfl⟩ := List.mem_map.mp hd
  exact position_lt (h c hc)

theorem Spells.bytes_unique {text : String} {bytes bytes' : Bytes} (h : Spells text bytes)
    (h' : Spells text bytes') :
    bytes = bytes' := by
  apply octets_injective
  rw [h.converts.symm.eq_numeral (by omega) (octets_lt bytes),
    h'.converts.symm.eq_numeral (by omega) (octets_lt bytes')]

theorem Spells.text_unique {text text' : String} {bytes : Bytes} (h : Spells text bytes)
    (h' : Spells text' bytes) :
    text = text' := by
  have hpos : positions text = positions text' := by
    rw [h.converts.eq_numeral (by omega) (positions_lt h.alphabet),
      h'.converts.eq_numeral (by omega) (positions_lt h'.alphabet)]
  have hsym : ∀ {t : String}, InAlphabet t → (positions t).map symbol = utf8 t := by
    intro t ht
    rw [positions, List.map_map]
    exact (List.map_congr_left fun c hc => symbol_position (ht c hc)).trans (List.map_id _)
  apply utf8_injective
  rw [← hsym h.alphabet, ← hsym h'.alphabet, hpos]

section Encode

/-- A pass divides the value of its input by 58. -/
theorem divide_value {remainder last : Nat} {input quotient : Bytes}
    (h : divide remainder input = some (quotient, last)) :
    remainder * 256 ^ input.length + value 256 (octets input) =
      58 * value 256 (octets quotient) + last := by
  induction input generalizing remainder quotient with
  | nil =>
    cases h
    simp [octets]
  | cons b bs ih =>
    simp only [divide] at h
    split at h
    · cases h
    · rename_i hfit
      simp only [Option.bind_eq_bind, Option.bind_eq_some_iff] at h
      obtain ⟨⟨quotient', last'⟩, hrest, hcons⟩ := h
      simp only [Option.some.injEq, Prod.mk.injEq] at hcons
      obtain ⟨rfl, rfl⟩ := hcons
      have hlen : quotient'.length = bs.length := by
        obtain ⟨q, l, hq, -, hlen⟩ :=
          divide_eq_some (Nat.mod_lt (b.toNat + remainder * 256) (show 0 < 58 by omega)) bs
        rw [hq] at hrest
        cases hrest
        exact hlen
      have hstep := ih hrest
      have hq : (UInt8.ofNat ((b.toNat + remainder * 256) / 58)).toNat =
          (b.toNat + remainder * 256) / 58 := by
        rw [UInt8.toNat_ofNat']
        omega
      simp only [octets, List.map_cons, value_cons, List.length_map,
        List.length_cons, hq, hlen] at hstep ⊢
      have hdiv := Nat.div_add_mod (b.toNat + remainder * 256) 58
      generalize (b.toNat + remainder * 256) / 58 = q at *
      generalize (b.toNat + remainder * 256) % 58 = r at *
      calc remainder * 256 ^ (bs.length + 1) +
        (b.toNat * 256 ^ bs.length + value 256 (bs.map UInt8.toNat))
          = (b.toNat + remainder * 256) * 256 ^ bs.length + value 256 (bs.map UInt8.toNat) := by
            ring
        _ = 58 * (q * 256 ^ bs.length) +
          (r * 256 ^ bs.length + value 256 (bs.map UInt8.toNat)) := by rw [← hdiv]; ring
        _ = 58 * (q * 256 ^ bs.length) + (58 * value 256 (quotient'.map UInt8.toNat) + last') := by
          rw [hstep]
        _ = 58 * (q * 256 ^ bs.length + value 256 (quotient'.map UInt8.toNat)) + last' := by ring

def Trimmed (input : Bytes) : Prop := input.head? ≠ some 0

theorem trimmed_divide {b : UInt8} {bs quotient : Bytes} {last : Nat} (h : Trimmed (b :: bs))
    (hdiv : divide 0 (b :: bs) = some (quotient, last)) :
    Trimmed (if quotient.head? = some 0 then quotient.tail else quotient) := by
  split
  · rename_i hzero
    have hb : b.toNat / 58 = 0 := by
      have hhead := divide_head hdiv
      rw [hzero, Option.some.injEq] at hhead
      have hlt := b.toNat_lt
      have hnat := congrArg UInt8.toNat hhead
      rw [UInt8.toNat_zero, UInt8.toNat_ofNat'] at hnat
      omega
    have hpos : b.toNat ≠ 0 := fun h0 => h (congrArg some (UInt8.toNat_inj.mp h0))
    simp only [divide, Nat.zero_mul, Nat.add_zero, hb, Option.bind_eq_bind] at hdiv
    rw [if_neg (by omega), Option.bind_eq_some_iff] at hdiv
    obtain ⟨⟨rest, last'⟩, hrest, hcons⟩ := hdiv
    cases hcons
    cases bs with
    | nil =>
      cases hrest
      simp [Trimmed]
    | cons c cs =>
      simp only [divide] at hrest
      split at hrest
      · cases hrest
      · rename_i hfit
        simp only [Option.bind_eq_bind, Option.bind_eq_some_iff] at hrest
        obtain ⟨⟨rest', last''⟩, -, hcons⟩ := hrest
        cases hcons
        intro hhead
        have hnat := congrArg UInt8.toNat (Option.some.inj hhead)
        rw [UInt8.toNat_ofNat', UInt8.toNat_zero] at hnat
        omega
  · assumption

theorem value_pos {input : Bytes} (hne : input ≠ []) (h : Trimmed input) :
    0 < value 256 (octets input) := by
  cases input with
  | nil => exact absurd rfl hne
  | cons b bs =>
    have hpos : 0 < b.toNat := by
      apply Nat.pos_of_ne_zero
      exact fun h0 => h (congrArg some (UInt8.toNat_inj.mp h0))
    rw [octets, List.map_cons, value_cons]
    have := Nat.mul_pos hpos (Nat.pow_pos (show 0 < 256 by
      omega) (n := (bs.map UInt8.toNat).length))
    omega

theorem value_trim (input : Bytes) :
    value 256 (octets (if input.head? = some 0 then input.tail else input)) =
      value 256 (octets input) := by
  split
  · rename_i hzero
    cases input with
    | nil => rfl
    | cons b bs =>
      obtain rfl : b = 0 := Option.some.inj hzero
      simp [octets, value_cons]
  · rfl

theorem digits_eq {fuel : Nat} {input out : Bytes} (htrim : Trimmed input)
    (h : digits fuel input = some out) :
    out = (Nat.digits 58 (value 256 (octets input))).map symbol := by
  induction fuel generalizing input out with
  | zero =>
    cases input with
    | nil =>
      cases h
      simp [octets]
    | cons b bs => cases h
  | succ fuel ih =>
    cases input with
    | nil =>
      cases h
      simp [octets]
    | cons b bs =>
      simp only [digits, Option.bind_eq_bind, Option.bind_eq_some_iff] at h
      obtain ⟨⟨quotient, last⟩, hdiv, digit, hdigit, rest, hrest, hout⟩ := h
      cases hout
      have hlast : last < 58 := by
        obtain ⟨q, l, hq, hl, -⟩ := divide_eq_some (show 0 < 58 by omega) (b :: bs)
        rw [hq] at hdiv
        cases hdiv
        exact hl
      have hvalue := divide_value hdiv
      rw [Nat.zero_mul, Nat.zero_add] at hvalue
      have hpos := value_pos (List.cons_ne_nil b bs) htrim
      rw [ih (trimmed_divide htrim hdiv) hrest, value_trim, Nat.digits_def' (by omega) hpos, hvalue]
      simp only [getElem?_alphabet hlast, Option.some.injEq] at hdigit
      rw [Nat.mul_add_mod, Nat.mod_eq_of_lt hlast, Nat.mul_add_div (by omega),
        Nat.div_eq_of_lt hlast, Nat.add_zero, List.map_cons, hdigit]

theorem leading_zero (bytes : Bytes) : leading 0 bytes = zeros (octets bytes) := by
  rw [leading, zeros, octets, List.takeWhile_map, List.length_map]
  congr 2
  funext b
  rw [Function.comp_apply, Bool.eq_iff_iff, beq_iff_eq,
    beq_iff_eq, ← UInt8.toNat_inj, UInt8.toNat_zero]

theorem drop_leading (z : UInt8) (bytes : Bytes) :
    bytes = List.replicate (leading z bytes) z ++ bytes.drop (leading z bytes) ∧
      (bytes.drop (leading z bytes)).head? ≠ some z := by
  induction bytes with
  | nil => simp [leading]
  | cons b bs ih =>
    by_cases hb : b = z
    · have hlen : leading z (b :: bs) = leading z bs + 1 := by simp [leading, hb]
      rw [hlen, List.replicate_succ, List.cons_append, List.drop_succ_cons, ← ih.1, hb]
      exact ⟨rfl, ih.2⟩
    · have hlen : leading z (b :: bs) = 0 := by simp [leading, hb]
      rw [hlen]
      exact ⟨rfl, by simpa using hb⟩

theorem encode_spells {bytes : Bytes} {text : String} (h : encode bytes = some text) :
    Spells text bytes := by
  obtain ⟨hsplit, htrim⟩ := drop_leading 0 bytes
  have hvalue : value 256 (octets (bytes.drop (leading 0 bytes))) = value 256 (octets bytes) := by
    conv_rhs => rw [hsplit, octets, List.map_append, List.map_replicate, UInt8.toNat_zero,
      value_replicate_append]
    rfl
  have htext : utf8 text =
      (numeral 58 (zeros (octets bytes)) (value 256 (octets bytes))).map symbol := by
    unfold encode at h
    split at h
    · rename_i hempty
      obtain rfl : bytes = [] := List.isEmpty_iff.mp hempty
      cases h
      rfl
    · simp only [Option.bind_eq_bind, Option.bind_eq_some_iff] at h
      obtain ⟨out, hout, one, hone, hof⟩ := h
      rw [getElem?_alphabet (by omega), Option.some.injEq] at hone
      rw [utf8_of_ofUtf8 hof, digits_eq htrim hout, hvalue, leading_zero, ← hone, numeral,
        List.map_append, List.map_replicate, List.reverse_append,
        List.reverse_replicate, List.map_reverse]
  have hmem : ∀ c ∈ utf8 text, ∃ d < 58, symbol d = c := by
    intro c hc
    rw [htext] at hc
    obtain ⟨d, hd, rfl⟩ := List.mem_map.mp hc
    exact ⟨d, lt_of_mem_numeral (by omega) hd, rfl⟩
  have hpositions : positions text =
      numeral 58 (zeros (octets bytes)) (value 256 (octets bytes)) := by
    rw [positions, htext, List.map_map]
    conv_rhs => rw [← List.map_id (numeral 58 _ _)]
    exact List.map_congr_left fun d hd => position_symbol (lt_of_mem_numeral (by omega) hd)
  refine ⟨fun c hc => ?_, ?_⟩
  · obtain ⟨d, hd, rfl⟩ := hmem c hc
    exact symbol_mem hd
  · rw [hpositions]
    exact converts_numeral 58 256 (octets bytes)

end Encode

section Decode

theorem spill_eq {fuel carry : Nat} (h : carry < 256 ^ fuel) :
    octets (spill fuel carry) = Nat.digits 256 carry := by
  induction fuel generalizing carry with
  | zero =>
    obtain rfl : carry = 0 := by simpa using h
    rfl
  | succ fuel ih =>
    by_cases hz : carry = 0
    · simp [spill, hz, octets]
    · have hnext : carry / 256 < 256 ^ fuel := by rw [pow_succ] at h; omega
      have hhead : (UInt8.ofNat (carry % 256)).toNat = carry % 256 := by
        rw [UInt8.toNat_ofNat']
        omega
      have hrest := ih hnext
      rw [octets] at hrest
      rw [spill, if_neg hz, octets, List.map_cons, hhead, hrest,
        Nat.digits_def' (by omega) (Nat.pos_of_ne_zero hz)]

theorem multiply_carry_lt {carry : Nat} (h : carry < 58) (bytes : Bytes) :
    (multiply carry bytes).2 < 58 := by
  induction bytes generalizing carry with
  | nil => exact h
  | cons b bs ih =>
    have hb := b.toNat_lt
    exact ih (by omega)

theorem multiply_spill {carry n : Nat} {bytes : Bytes} (hc : carry < 58)
    (h : octets bytes = Nat.digits 256 n) :
    octets ((multiply carry bytes).1 ++ spill 8 (multiply carry bytes).2) =
      Nat.digits 256 (58 * n + carry) := by
  induction bytes generalizing carry n with
  | nil =>
    obtain rfl : n = 0 := Nat.digits_eq_nil_iff_eq_zero.mp h.symm
    have hlt : carry < 256 ^ 8 := by omega
    simp only [multiply, List.nil_append, Nat.mul_zero, Nat.zero_add]
    exact spill_eq hlt
  | cons b bs ih =>
    have hpos : 0 < n := by
      rcases Nat.eq_zero_or_pos n with rfl | hpos
      · rw [Nat.digits_zero] at h
        cases h
      · exact hpos
    rw [Nat.digits_def' (by omega) hpos, octets, List.map_cons, List.cons.injEq] at h
    have hb := b.toNat_lt
    have hnext : (carry + b.toNat * 58) / 256 < 58 := by omega
    have hhead : (UInt8.ofNat ((carry + b.toNat * 58) % 256)).toNat =
        (carry + b.toNat * 58) % 256 := by
      rw [UInt8.toNat_ofNat']
      omega
    have hmod : (58 * n + carry) % 256 = (carry + b.toNat * 58) % 256 := by omega
    have hdiv : (58 * n + carry) / 256 = 58 * (n / 256) + (carry + b.toNat * 58) / 256 := by omega
    have hrest := ih hnext h.2
    rw [octets] at hrest
    rw [Nat.digits_def' (by omega) (by omega), hmod, hdiv, ← hrest]
    simp only [multiply, octets, List.cons_append, List.map_cons, hhead]

theorem decodeFrom_eq {cs bytes : Bytes} {n : Nat} (hcs : ∀ c ∈ cs, c ∈ alphabet)
    (h : octets bytes = Nat.digits 256 n) :
    ∃ bytes', decodeFrom bytes cs = some bytes' ∧
      octets bytes' = Nat.digits 256 (n * 58 ^ cs.length + value 58 (cs.map position)) := by
  induction cs generalizing bytes n with
  | nil => exact ⟨bytes, rfl, by simpa using h⟩
  | cons c cs ih =>
    rw [List.forall_mem_cons] at hcs
    have hp := position_lt hcs.1
    obtain ⟨bytes', hdec, hval⟩ := ih hcs.2 (multiply_spill hp h)
    refine ⟨bytes', ?_, ?_⟩
    · simp only [decodeFrom, map_eq_some hcs.1, Option.bind_eq_bind, Option.bind_some]
      exact hdec
    · rw [hval, List.map_cons, value_cons, List.length_map, List.length_cons, pow_succ]
      congr 1
      ring

theorem decodeFrom_eq_none {cs : Bytes} {c : UInt8} (hc : c ∈ cs)
    (hbad : c ∉ alphabet) (bytes : Bytes) :
    decodeFrom bytes cs = none := by
  induction cs generalizing bytes with
  | nil => cases hc
  | cons d ds ih =>
    simp only [decodeFrom, Option.bind_eq_bind]
    rcases List.mem_cons.mp hc with rfl | hc
    · rw [map_eq_none hbad, Option.bind_none]
    · cases map d with
      | none => rfl
      | some value => exact ih hc _

theorem leading_one {text : String} (h : InAlphabet text) :
    leading 49 (utf8 text) = zeros (positions text) := by
  have hzero : ∀ c ∈ utf8 text, (c == 49) = (position c == 0) := by
    intro c hc
    have hone : position 49 = 0 := by rfl
    have hsymbol : symbol 0 = 49 := by rfl
    rw [Bool.eq_iff_iff, beq_iff_eq, beq_iff_eq]
    constructor
    · rintro rfl
      exact hone
    · intro hp
      rw [← symbol_position (h c hc), hp, hsymbol]
  rw [leading, zeros, positions, List.takeWhile_map, List.length_map]
  generalize utf8 text = cs at hzero
  induction cs with
  | nil => rfl
  | cons c cs ih =>
    rw [List.forall_mem_cons] at hzero
    rw [List.takeWhile_cons, List.takeWhile_cons, hzero.1, Function.comp_apply]
    split
    · rw [List.length_cons, List.length_cons, ih hzero.2]
    · rfl

theorem exists_decode {text : String} (h : InAlphabet text) : ∃ bytes, decode text = some bytes ∧
    Spells text bytes := by
  have hempty : octets [] = Nat.digits 256 0 := by simp [octets]
  obtain ⟨bytes, hdec, hval⟩ := decodeFrom_eq h hempty
  rw [Nat.zero_mul, Nat.zero_add] at hval
  refine ⟨(bytes ++ List.replicate (leading 49 (utf8 text)) 0).reverse, ?_, h, ?_⟩
  · simp only [decode, hdec, Option.bind_eq_bind, Option.bind_some]
  · have hoctets : octets (bytes ++ List.replicate (leading 49 (utf8 text)) 0).reverse =
        numeral 256 (zeros (positions text)) (value 58 (positions text)) := by
      rw [octets] at hval
      rw [octets, List.reverse_append, List.reverse_replicate, List.map_append, List.map_replicate,
        List.map_reverse, hval, leading_one h, UInt8.toNat_zero, numeral, positions]
    rw [hoctets]
    exact (converts_numeral 256 58 (positions text)).symm

theorem decode_eq_some_iff {text : String} {bytes : Bytes} : decode text = some bytes ↔
    Spells text bytes := by
  constructor
  · intro h
    have halpha : InAlphabet text := by
      intro c hc
      by_contra hbad
      simp only [decode, decodeFrom_eq_none hc hbad, Option.bind_eq_bind, Option.bind_none] at h
      cases h
    obtain ⟨bytes', hdec, hspells⟩ := exists_decode halpha
    obtain rfl : bytes' = bytes := Option.some.inj (hdec.symm.trans h)
    exact hspells
  · intro h
    obtain ⟨bytes', hdec, hspells⟩ := exists_decode h.alphabet
    rw [hdec, h.bytes_unique hspells]

theorem encode_eq_some_iff {text : String} {bytes : Bytes} : encode bytes = some text ↔
    Spells text bytes := by
  constructor
  · exact encode_spells
  · intro h
    obtain ⟨text', henc⟩ := exists_encode bytes
    rw [henc, (encode_spells henc).text_unique h]

/-- The carry loop in 64-bit arithmetic; `none` is an overflow. -/
def multiplyChecked : Nat → Bytes → Option (Bytes × Nat)
  | carry, [] => some ([], carry)
  | carry, b :: bs =>
    if 2 ^ 63 ≤ carry + b.toNat * 58 then none else do
    let carry := carry + b.toNat * 58
    let (bs, last) ← multiplyChecked (carry / 256) bs
    some (UInt8.ofNat (carry % 256) :: bs, last)

/-- `none` is a loop still running when its fuel is out. -/
def spillChecked : Nat → Nat → Option Bytes
  | _, 0 => some []
  | 0, _ + 1 => none
  | fuel + 1,
      carry + 1 =>
        (spillChecked fuel ((carry + 1) / 256)).map (UInt8.ofNat ((carry + 1) % 256) :: ·)

/-- The loop of `decode` with its arithmetic checked; `some none` is its `nil`. -/
def decodeFromChecked : Bytes → Bytes → Option (Option Bytes)
  | bytes, [] => some (some bytes)
  | bytes, c :: cs =>
    match map c with
    | none => some none
    | some value => do
      let (bytes, carry) ← multiplyChecked value bytes
      let more ← spillChecked 8 carry
      decodeFromChecked (bytes ++ more) cs

theorem multiplyChecked_eq {carry : Nat} (h : carry < 58) (bytes : Bytes) :
    multiplyChecked carry bytes = some (multiply carry bytes) := by
  induction bytes generalizing carry with
  | nil => rfl
  | cons b bs ih =>
    have hb := b.toNat_lt
    have hfit : ¬ 2 ^ 63 ≤ carry + b.toNat * 58 := by omega
    have hnext : (carry + b.toNat * 58) / 256 < 58 := by omega
    simp only [multiplyChecked, hfit, if_false, ih hnext, Option.bind_eq_bind,
      Option.bind_some, multiply]

theorem spillChecked_eq {fuel carry : Nat} (h : carry < 256 ^ fuel) :
    spillChecked fuel carry = some (spill fuel carry) := by
  induction fuel generalizing carry with
  | zero =>
    obtain rfl : carry = 0 := by simpa using h
    rfl
  | succ fuel ih =>
    cases carry with
    | zero => rfl
    | succ carry =>
      have hnext : (carry + 1) / 256 < 256 ^ fuel := by rw [pow_succ] at h; omega
      rw [spillChecked, ih hnext, Option.map_some, spill, if_neg (by omega)]

/-- Decoding neither overflows nor runs for ever. -/
theorem decodeFromChecked_eq (bytes cs : Bytes) :
    decodeFromChecked bytes cs = some (decodeFrom bytes cs) := by
  induction cs generalizing bytes with
  | nil => rfl
  | cons c cs ih =>
    simp only [decodeFromChecked, decodeFrom]
    by_cases hc : c ∈ alphabet
    · have hp := position_lt hc
      have hcarry := multiply_carry_lt hp bytes
      rw [map_eq_some hc]
      simp only [multiplyChecked_eq hp, spillChecked_eq (show (multiply (position c) bytes).2 <
        256 ^ 8 by omega), Option.bind_eq_bind, Option.bind_some]
      exact ih _
    · rw [map_eq_none hc]
      rfl

end Decode

end Base58

open Framing Base58

/-- `bs58` decodes standard Base58: nothing but the texts that spell some bytes. -/
def StandardBase58 (bs58 : String → Option Bytes) : Prop :=
  ∀ text bytes, bs58 text = some bytes ↔ Spells text bytes

def validateSolanaPubkey (bs58 : String → Option Bytes) (pubkey : String) : Except AppError Unit :=
  match bs58 pubkey with
  | none => .error (.badRequest "pubkey is not valid base58")
  | some decoded =>
    if decoded.length = 32 then .ok ()
    else .error (.badRequest s!"pubkey must decode to 32 bytes, got {decoded.length}")

theorem validateSolanaPubkey_eq_ok {bs58 : String → Option Bytes} {pubkey : String} :
    validateSolanaPubkey bs58 pubkey = .ok () ↔ ∃ bytes, bs58 pubkey = some bytes ∧
    bytes.length = 32 := by
  unfold validateSolanaPubkey
  cases bs58 pubkey with
  | none => simp
  | some decoded =>
    by_cases hlen : decoded.length = 32
    · simp [hlen]
    · simp [hlen]

theorem addressCodec_bijective {bs58 : String → Option Bytes} (hbs58 : StandardBase58 bs58) :
    (∀ bytes, ∃ text, encode bytes = some text ∧ decode text = some bytes) ∧
      (∀ text, (∀ c ∈ utf8 text, c ∈ alphabet) → ∃ bytes, decode text = some bytes ∧
        encode bytes = some text) ∧
      (∀ text, decode text = none ↔ ∃ c ∈ utf8 text, c ∉ alphabet) ∧
      (∀ bytes cs, decodeFromChecked bytes cs = some (decodeFrom bytes cs)) ∧
      ∀ key, key.length = 32 → ∃ address, encode key = some address ∧ bs58 address = some key ∧
        validateSolanaPubkey bs58 address = .ok () := by
  refine ⟨fun bytes => ?_, fun text h => ?_, fun text => ?_,
    decodeFromChecked_eq, fun key hkey => ?_⟩
  · obtain ⟨text, henc⟩ := exists_encode bytes
    exact ⟨text, henc, decode_eq_some_iff.mpr (encode_spells henc)⟩
  · obtain ⟨bytes, hdec, hspells⟩ := exists_decode h
    exact ⟨bytes, hdec, encode_eq_some_iff.mpr hspells⟩
  · constructor
    · intro hnone
      by_contra hgood
      push Not at hgood
      obtain ⟨bytes, hdec, -⟩ := exists_decode hgood
      rw [hnone] at hdec
      cases hdec
    · rintro ⟨c, hc, hbad⟩
      simp only [decode, decodeFrom_eq_none hc hbad, Option.bind_eq_bind, Option.bind_none]
  · obtain ⟨address, henc⟩ := exists_encode key
    have hdec : bs58 address = some key := (hbs58 address key).mpr (encode_spells henc)
    exact ⟨address, henc, hdec, validateSolanaPubkey_eq_ok.mpr ⟨key, hdec, hkey⟩⟩

theorem addressCodec_bijective_decode :
    ∃ address, encode (List.replicate 32 0) = some address ∧
    decode address = some (List.replicate 32 0) ∧
      validateSolanaPubkey decode address = .ok () :=
  (addressCodec_bijective fun _ _ => decode_eq_some_iff).2.2.2.2 (List.replicate 32 0) rfl

end Xend
