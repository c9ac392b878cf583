import Mathlib.Data.List.TakeWhile
import Xend.Framing

/-! Percent encoding, and the form encoding of the parameters of a query. -/

namespace FormText

open Framing

def isUnreserved (b : UInt8) : Bool :=
  (48 ≤ b && b ≤ 57) || (65 ≤ b && b ≤ 90) || (97 ≤ b && b ≤ 122) || [45, 46, 95, 126].contains b

def hexDigit (n : Nat) : Char := if n < 10 then Char.ofNat (48 + n) else Char.ofNat (55 + n)

def hexValue (c : Char) : Option Nat :=
  if '0' ≤ c ∧ c ≤ '9' then some (c.toNat - 48)
  else if 'A' ≤ c ∧ c ≤ 'F' then some (c.toNat - 55)
  else if 'a' ≤ c ∧ c ≤ 'f' then some (c.toNat - 87)
  else none

def encodeByte (b : UInt8) : List Char :=
  if isUnreserved b then [Char.ofNat b.toNat]
  else if b = 32 then ['+']
  else ['%', hexDigit (b.toNat / 16), hexDigit (b.toNat % 16)]

def encode (bs : Bytes) : List Char := bs.flatMap encodeByte

/-- An escape that is none stands for itself; in a form, a plus is a blank. -/
def decode (form : Bool) : List Char → Bytes
  | [] => []
  | '%' :: h :: l :: rest =>
    match hexValue h, hexValue l with
    | some a, some b => UInt8.ofNat (16 * a + b) :: decode form rest
    | _, _ => 37 :: decode form (h :: l :: rest)
  | c :: rest => (if form && c == '+' then [32] else String.utf8EncodeChar c) ++ decode form rest

/-- An empty value goes without its `=`. -/
def encodePair (pair : Bytes × Bytes) : List Char :=
  encode pair.1 ++ if pair.2 = [] then [] else '=' :: encode pair.2

def encodeForm (pairs : List (Bytes × Bytes)) : List Char :=
  ['&'].intercalate (pairs.map encodePair)

def parsePair (piece : List Char) : Bytes × Bytes :=
  (decode true (piece.takeWhile (· != '=')), decode true ((piece.dropWhile (· != '=')).drop 1))

def parseForm (query : List Char) : List (Bytes × Bytes) :=
  ((query.splitOn '&').filter fun piece => !piece.isEmpty).map parsePair

section Decoding

variable {form : Bool} {c : Char} {b : UInt8}

theorem decode_cons (hpercent : c ≠ '%') (hplus : form = false ∨ c ≠ '+') (rest : List Char) :
    decode form (c :: rest) = String.utf8EncodeChar c ++ decode form rest := by
  have hkept : (form && c == '+') = false := by
    rcases hplus with rfl | hne
    · rfl
    · rw [beq_false_of_ne hne, Bool.and_false]
  rw [decode]
  · rw [hkept]
    rfl
  · intro h l rest' hc
    exact absurd hc hpercent

theorem hexValue_hexDigit : ∀ n < 16, hexValue (hexDigit n) = some n := by decide

theorem decode_escape (b : UInt8) (rest : List Char) :
    decode form ('%' :: hexDigit (b.toNat / 16) :: hexDigit (b.toNat % 16) :: rest) =
      b :: decode form rest := by
  have hbyte : b.toNat < 256 := b.toNat_lt
  have hhigh := hexValue_hexDigit (b.toNat / 16) (by omega)
  have hlow := hexValue_hexDigit (b.toNat % 16) (by omega)
  have hsum : 16 * (b.toNat / 16) + b.toNat % 16 = b.toNat := by omega
  rw [decode, hhigh, hlow]
  dsimp only
  rw [hsum, UInt8.ofNat_toNat]

theorem toNat_ascii {n : Nat} (h : n < 128) : (Char.ofNat n).toNat = n := by
  have hvalid : n.isValidChar := .inl (by omega)
  have hof : Char.ofNat n = Char.ofNatAux n hvalid := dif_pos hvalid
  rw [hof]
  rfl

theorem utf8EncodeChar_ascii (h : b.toNat < 128) :
    String.utf8EncodeChar (Char.ofNat b.toNat) = [b] := by
  have hchar := toNat_ascii h
  have hsize : (Char.ofNat b.toNat).utf8Size = 1 := by
    rw [Char.utf8Size_eq_one_iff, UInt32.le_iff_toNat_le]
    change (Char.ofNat b.toNat).toNat ≤ 127
    omega
  have hbyte : (Char.ofNat b.toNat).val.toUInt8 = b := by
    apply UInt8.toNat_inj.mp
    rw [UInt32.toNat_toUInt8]
    change (Char.ofNat b.toNat).toNat % 256 = b.toNat
    omega
  rw [String.utf8EncodeChar_eq_singleton hsize, hbyte]

theorem unreserved_ascii (h : isUnreserved b = true) :
    b.toNat < 128 ∧ b.toNat ≠ 37 ∧ b.toNat ≠ 43 ∧ b.toNat ≠ 38 ∧ b.toNat ≠ 61 := by
  have hbytes : (48 ≤ b.toNat ∧ b.toNat ≤ 57 ∨ 65 ≤ b.toNat ∧ b.toNat ≤ 90 ∨
      97 ≤ b.toNat ∧ b.toNat ≤ 122) ∨
      b = 45 ∨ b = 46 ∨ b = 95 ∨ b = 126 := by
    simpa [isUnreserved, UInt8.le_iff_toNat_le, or_assoc] using h
  rcases hbytes with hrange | rfl | rfl | rfl | rfl
  · omega
  all_goals decide

/-- A byte that stands for itself is a character of its own, and none of the others. -/
theorem unreserved_char (h : isUnreserved b = true) :
    String.utf8EncodeChar (Char.ofNat b.toNat) = [b] ∧
      Char.ofNat b.toNat ≠ '%' ∧ Char.ofNat b.toNat ≠ '+' ∧ Char.ofNat b.toNat ≠ '&' ∧
      Char.ofNat b.toNat ≠ '=' := by
  obtain ⟨hascii, hpercent, hplus, hamp, heq⟩ := unreserved_ascii h
  have hne : ∀ c : Char, b.toNat ≠ c.toNat → Char.ofNat b.toNat ≠ c := by
    intro c hc hchar
    rw [← hchar, toNat_ascii hascii] at hc
    exact hc rfl
  exact ⟨utf8EncodeChar_ascii hascii, hne _ hpercent, hne _ hplus, hne _ hamp, hne _ heq⟩

theorem decode_encodeByte (b : UInt8) (rest : List Char) :
    decode true (encodeByte b ++ rest) = b :: decode true rest := by
  by_cases hplain : isUnreserved b = true
  · obtain ⟨hutf8, hpercent, hplus, -⟩ := unreserved_char hplain
    rw [encodeByte, if_pos hplain, List.singleton_append, decode_cons hpercent (.inr hplus), hutf8]
    rfl
  · by_cases hblank : b = 32
    · subst hblank
      rfl
    · rw [encodeByte, if_neg hplain, if_neg hblank]
      exact decode_escape b rest

theorem decode_encode (bs : Bytes) : decode true (encode bs) = bs := by
  induction bs with
  | nil => rfl
  | cons b bs ih =>
    have hstep := decode_encodeByte b (encode bs)
    rw [encode, List.flatMap_cons]
    exact hstep.trans (congrArg (b :: ·) ih)

/-- Without escapes, text stands for its own bytes. -/
theorem decode_plain {cs : List Char} (h : ∀ c ∈ cs, c ≠ '%' ∧ c ≠ '+') :
    decode form cs = utf8 (String.ofList cs) := by
  rw [utf8_ofList]
  induction cs with
  | nil => rfl
  | cons c cs ih =>
    obtain ⟨⟨hpercent, hplus⟩, hrest⟩ := List.forall_mem_cons.mp h
    rw [decode_cons hpercent (.inr hplus), ih hrest, List.flatMap_cons]

end Decoding

section Forms

theorem hexDigit_plain : ∀ n < 16, hexDigit n ≠ '&' ∧ hexDigit n ≠ '=' := by decide

theorem encodeByte_plain {b : UInt8} {c : Char} (h : c ∈ encodeByte b) : c ≠ '&' ∧ c ≠ '=' := by
  by_cases hplain : isUnreserved b = true
  · obtain ⟨-, -, -, hamp, heq⟩ := unreserved_char hplain
    rw [encodeByte, if_pos hplain, List.mem_singleton] at h
    subst h
    exact ⟨hamp, heq⟩
  · by_cases hblank : b = 32
    · rw [encodeByte, if_neg hplain, if_pos hblank, List.mem_singleton] at h
      subst h
      decide
    · have hbyte : b.toNat < 256 := b.toNat_lt
      rw [encodeByte, if_neg hplain, if_neg hblank, List.mem_cons, List.mem_cons,
        List.mem_singleton] at h
      rcases h with rfl | rfl | rfl
      · decide
      · exact hexDigit_plain _ (by omega)
      · exact hexDigit_plain _ (by omega)

theorem encode_plain {bs : Bytes} {c : Char} (h : c ∈ encode bs) : c ≠ '&' ∧ c ≠ '=' := by
  obtain ⟨b, -, hb⟩ := List.mem_flatMap.mp h
  exact encodeByte_plain hb

theorem takeWhile_until {name rest : List Char} (h : ∀ c ∈ name, c ≠ '=') :
    (name ++ '=' :: rest).takeWhile (· != '=') = name ∧
    (name ++ '=' :: rest).dropWhile (· != '=') = '=' :: rest := by
  have hname : ∀ c ∈ name, (c != '=') = true := fun c hc => bne_iff_ne.mpr (h c hc)
  constructor
  · rw [List.takeWhile_append_of_pos hname]
    simp
  · rw [List.dropWhile_append_of_pos hname]
    simp

/-- Written with its `=`, a pair is read back, whatever its value. -/
theorem parsePair_equals (name value : Bytes) :
    parsePair (encode name ++ '=' :: encode value) = (name, value) := by
  have hname : ∀ c ∈ encode name, c ≠ '=' := fun c hc => (encode_plain hc).2
  obtain ⟨htake, hdrop⟩ := takeWhile_until hname
  rw [parsePair, htake, hdrop, decode_encode, List.drop_one, List.tail_cons, decode_encode]

theorem parsePair_encodePair (pair : Bytes × Bytes) : parsePair (encodePair pair) = pair := by
  obtain ⟨name, value⟩ := pair
  by_cases hvalue : value = []
  · have hname : ∀ c ∈ encode name, (c != '=') = true :=
      fun c hc => bne_iff_ne.mpr (encode_plain hc).2
    have htake : (encode name).takeWhile (· != '=') = encode name :=
      List.takeWhile_eq_self_iff.mpr hname
    have hdrop : (encode name).dropWhile (· != '=') = [] := List.dropWhile_eq_nil_iff.mpr hname
    rw [encodePair, if_pos hvalue, List.append_nil, parsePair, htake, hdrop, decode_encode, hvalue]
    rfl
  · rw [encodePair, if_neg hvalue]
    exact parsePair_equals name value

theorem encodePair_plain {pair : Bytes × Bytes} : '&' ∉ encodePair pair := by
  intro h
  rcases List.mem_append.mp h with hname | hvalue
  · exact (encode_plain hname).1 rfl
  · split at hvalue
    · cases hvalue
    · rcases List.mem_cons.mp hvalue with heq | hvalue
      · cases heq
      · exact (encode_plain hvalue).1 rfl

theorem encodeByte_ne_nil (b : UInt8) : encodeByte b ≠ [] := by
  rw [encodeByte]
  split
  · simp
  · split <;> simp

theorem encodePair_ne_nil {pair : Bytes × Bytes} (h : pair.1 ≠ []) : encodePair pair ≠ [] := by
  obtain ⟨b, bs, hname⟩ := List.exists_cons_of_ne_nil h
  intro hnil
  have hfirst : encode pair.1 = [] := (List.append_eq_nil_iff.mp hnil).1
  rw [hname, encode, List.flatMap_cons] at hfirst
  exact encodeByte_ne_nil b (List.append_eq_nil_iff.mp hfirst).1

theorem parseForm_single {piece : List Char} (hne : piece ≠ []) (hplain : '&' ∉ piece) :
    parseForm piece = [parsePair piece] := by
  have hsplit : piece.splitOn '&' = [piece] := by
    have hwhole :=
      List.splitOn_intercalate '&' (show ∀ p ∈ [piece], '&' ∉ p by simpa using hplain) (by simp)
    simpa [List.intercalate] using hwhole
  have hkept : [piece].filter (fun piece => !piece.isEmpty) = [piece] :=
    List.filter_eq_self.mpr (by simpa using hne)
  rw [parseForm, hsplit, hkept]
  rfl

/-- A form with names for all its values is read back. -/
theorem parseForm_encodeForm {pairs : List (Bytes × Bytes)} (h : ∀ pair ∈ pairs, pair.1 ≠ []) :
    parseForm (encodeForm pairs) = pairs := by
  cases pairs with
  | nil => rfl
  | cons pair rest =>
    have hplain : ∀ piece ∈ (pair :: rest).map encodePair, '&' ∉ piece := by
      intro piece hpiece
      obtain ⟨p, -, rfl⟩ := List.mem_map.mp hpiece
      exact encodePair_plain
    have hsplit : (encodeForm (pair :: rest)).splitOn '&' = (pair :: rest).map encodePair :=
      List.splitOn_intercalate '&' hplain (by simp)
    have hkept : ((pair :: rest).map encodePair).filter (fun piece => !piece.isEmpty) =
        (pair :: rest).map encodePair := by
      apply List.filter_eq_self.mpr
      intro piece hpiece
      obtain ⟨p, hp, rfl⟩ := List.mem_map.mp hpiece
      simpa using encodePair_ne_nil (h p hp)
    have hread : parsePair ∘ encodePair = id := funext parsePair_encodePair
    rw [parseForm, hsplit, hkept, List.map_map, hread, List.map_id]

end Forms

end FormText
