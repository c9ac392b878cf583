import Xend.Mnemonic

/-! Which spellings of a recovery phrase lead to the same key: acceptance works
on the words, derivation on the whole text. -/

namespace Xend.Mnemonic

open Framing BitText

/-- The password is that of the canonical phrase for the same entropy. -/
def Canonical (prims : Primitives) (mnemonic : String) : Prop :=
  ∃ bytes phrase, entropy prims mnemonic = .ok bytes ∧ encode prims bytes = some phrase ∧
    password prims mnemonic = utf8 phrase

/-- No space at either end and no two in a row, once normalized. -/
def WellSpaced (prims : Primitives) (mnemonic : String) : Prop :=
  ∀ piece ∈ (normalize prims mnemonic).toList.splitOn ' ', piece ≠ []

variable {prims : Primitives} {mnemonic mnemonic' passphrase : String}

theorem joined_split (text : String) :
    joined (split text) =
      String.ofList
        ([' '].intercalate ((text.toList.splitOn ' ').filter fun piece => !piece.isEmpty)) := by
  simp [joined, split, Function.comp_def]

theorem intercalate_length (pieces : List (List Char)) (h : pieces ≠ []) :
    ([' '].intercalate pieces).length + 1 = pieces.flatten.length + pieces.length := by
  induction pieces with
  | nil => exact absurd rfl h
  | cons piece pieces ih =>
    by_cases hp : pieces = []
    · simp [hp]
    · have hh := ih hp
      rw [List.intercalate_cons_of_ne_nil hp]
      simp only [List.length_append, List.length_cons, List.length_nil, List.flatten_cons]
      omega

theorem flatten_filter (pieces : List (List Char)) :
    (pieces.filter fun piece => !piece.isEmpty).flatten = pieces.flatten := by
  induction pieces with
  | nil => rfl
  | cons piece pieces ih =>
    cases piece with
    | nil => simpa using ih
    | cons c cs => simpa using ih

theorem joined_split_eq_iff (hwords : split (normalize prims mnemonic) ≠ []) :
    joined (split (normalize prims mnemonic)) = normalize prims mnemonic ↔
    WellSpaced prims mnemonic := by
  have hback : [' '].intercalate ((normalize prims mnemonic).toList.splitOn ' ') =
      (normalize prims mnemonic).toList := List.intercalate_splitOn ' '
  rw [joined_split, WellSpaced]
  generalize hpieces : (normalize prims mnemonic).toList.splitOn ' ' = pieces at hback ⊢
  constructor
  · intro h
    have hkept : pieces.filter (fun piece => !piece.isEmpty) ≠ [] := by
      intro hnil
      simp [split, hpieces, hnil] at hwords
    have hne : pieces ≠ [] := hpieces ▸ List.splitOn_ne_nil ' ' _
    have htext : [' '].intercalate (pieces.filter fun piece => !piece.isEmpty) =
        [' '].intercalate pieces := by
      rw [hback, ← String.toList_ofList (l := [' '].intercalate _), h]
    have hlen := intercalate_length _ hkept
    rw [htext, intercalate_length _ hne, flatten_filter] at hlen
    have hall : (pieces.filter fun piece => !piece.isEmpty).length = pieces.length := by omega
    intro piece hpiece hempty
    have hh := List.length_filter_eq_length_iff.mp hall piece hpiece
    simp [hempty] at hh
  · intro h
    have hall : pieces.filter (fun piece => !piece.isEmpty) = pieces := by
      rw [List.filter_eq_self]
      intro piece hpiece
      simpa using h piece hpiece
    rw [hall, hback, String.ofList_toList]

theorem validate_eq_ok : validate prims mnemonic = .ok () ↔
    ∃ bytes, entropy prims mnemonic = .ok bytes := by
  simp only [validate, bind_eq_ok, and_true]

theorem canonical_iff_joined {bytes : Bytes} (h : entropy prims mnemonic = .ok bytes) :
    Canonical prims mnemonic ↔
    joined (split (normalize prims mnemonic)) = normalize prims mnemonic := by
  constructor
  · rintro ⟨bytes', phrase, he, henc, hpw⟩
    obtain rfl : bytes' = bytes := Except.ok.inj (he.symm.trans h)
    rw [encode_of_entropy h] at henc
    rw [Option.some.inj henc]
    exact (utf8_injective hpw).symm
  · intro heq
    exact ⟨bytes, _, h, encode_of_entropy h, by rw [heq]; rfl⟩

theorem split_ne_nil_of_entropy {bytes : Bytes} (h : entropy prims mnemonic = .ok bytes) :
    split (normalize prims mnemonic) ≠ [] := by
  intro hnil
  simp [entropy, hnil] at h

/-- An accepted phrase gives the password of its canonical spelling exactly if it
is well spaced; well-spaced spellings of the same words give the same key. -/
theorem canonical_iff_wellSpaced (h : validate prims mnemonic = .ok ()) :
    (Canonical prims mnemonic ↔ WellSpaced prims mnemonic) ∧
      (WellSpaced prims mnemonic → ∀ mnemonic' passphrase, validate prims mnemonic' = .ok () →
        WellSpaced prims mnemonic' →
        split (normalize prims mnemonic) = split (normalize prims mnemonic') →
        solanaPrivateKey prims mnemonic passphrase =
          solanaPrivateKey prims mnemonic' passphrase) := by
  obtain ⟨bytes, hbytes⟩ := validate_eq_ok.mp h
  have hiff := joined_split_eq_iff (split_ne_nil_of_entropy hbytes)
  refine ⟨(canonical_iff_joined hbytes).trans hiff, fun hw mnemonic' passphrase h' hw' hsplit => ?_⟩
  obtain ⟨bytes', hbytes'⟩ := validate_eq_ok.mp h'
  have hiff' := joined_split_eq_iff (split_ne_nil_of_entropy hbytes')
  have hsame : normalize prims mnemonic = normalize prims mnemonic' := by
    rw [← hiff.mpr hw, ← hiff'.mpr hw', hsplit]
  exact solanaPrivateKey_congr hsame passphrase

/-- SHA-256 as it is on sixteen zero bytes, and normalization as it is on ASCII. -/
def zeroPrimitives : Primitives where
  sha256 _ :=
    ⟨[0x37, 0x47, 0x08, 0xff, 0xf7, 0x71, 0x9d, 0xd5, 0x97, 0x9e, 0xc8, 0x75,
      0xd5, 0x6c, 0xd2, 0x28, 0x6f, 0x6d, 0x3c, 0xf7, 0xec, 0x31, 0x7a, 0x3b, 0x25, 0x63, 0x2a,
      0xab, 0x28, 0xec, 0x37, 0xbb], rfl⟩
  hmacSha512 _ _ := ⟨List.replicate 64 0, rfl⟩
  decomposedStringWithCompatibilityMapping text := text

/-- The phrase for sixteen zero bytes, with `gap` after its first word. -/
def zeroPhrase (gap : String) : String :=
  "abandon" ++ gap ++
    "abandon abandon abandon abandon abandon abandon abandon abandon abandon abandon about"

theorem zeroPhrase_split (gap : String) (h : gap = " " ∨ gap = "  ") :
    split (normalize zeroPrimitives (zeroPhrase gap)) =
      List.replicate 11 "abandon" ++ ["about"] := by
  rcases h with rfl | rfl <;> rfl

theorem zeroPhrase_bits :
    (List.replicate 11 "abandon" ++ ["about"]).mapM wordBits =
      .ok (List.replicate 11 (fixed 11 0) ++ [fixed 11 3]) := by
  have habandon : wordBits "abandon" = .ok (fixed 11 0) := by decide +kernel
  have habout : wordBits "about" = .ok (fixed 11 3) := by decide +kernel
  simp only [List.replicate, List.cons_append, List.nil_append, List.mapM_cons,
    List.mapM_nil, habandon, habout]
  rfl

theorem zeroPhrase_entropy (gap : String) (h : gap = " " ∨ gap = "  ") :
    entropy zeroPrimitives (zeroPhrase gap) = .ok (List.replicate 16 0) := by
  simp only [entropy, zeroPhrase_split gap h, zeroPhrase_bits]
  decide +kernel

theorem zeroPhrase_accepted (gap : String) (h : gap = " " ∨ gap = "  ") :
    validate zeroPrimitives (zeroPhrase gap) = .ok () :=
  validate_eq_ok.mpr ⟨_, zeroPhrase_entropy gap h⟩

theorem canonical_iff_wellSpaced_zeroPhrase :
    (Canonical zeroPrimitives (zeroPhrase " ") ↔ WellSpaced zeroPrimitives (zeroPhrase " ")) ∧
      (WellSpaced zeroPrimitives (zeroPhrase " ") → ∀ mnemonic' passphrase,
        validate zeroPrimitives mnemonic' = .ok () → WellSpaced zeroPrimitives mnemonic' →
        split (normalize zeroPrimitives (zeroPhrase " ")) =
          split (normalize zeroPrimitives mnemonic') →
        solanaPrivateKey zeroPrimitives (zeroPhrase " ") passphrase =
          solanaPrivateKey zeroPrimitives mnemonic' passphrase) :=
  canonical_iff_wellSpaced (zeroPhrase_accepted " " (.inl rfl))

/-- With a second space after the first word the phrase is still accepted. -/
theorem doubleSpace_not_canonical :
    validate zeroPrimitives (zeroPhrase "  ") = .ok () ∧
    ¬ Canonical zeroPrimitives (zeroPhrase "  ") := by
  have haccepted := zeroPhrase_accepted "  " (.inr rfl)
  refine ⟨haccepted, fun h => ?_⟩
  obtain ⟨bytes, hbytes⟩ := validate_eq_ok.mp haccepted
  have hw :=
    (joined_split_eq_iff (split_ne_nil_of_entropy hbytes)).mp ((canonical_iff_joined hbytes).mp h)
  exact hw [] (by decide +kernel) rfl

end Xend.Mnemonic
