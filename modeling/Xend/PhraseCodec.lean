import Xend.PhraseSpelling

/-! Entropy and phrases determine each other: both directions regroup one string
of bits. -/

namespace Xend.Mnemonic

open Framing BitText

/-- Normalization leaves a text of listed words as it is. -/
def KeepsWords (prims : Primitives) : Prop :=
  ∀ words : List String, (∀ word ∈ words, word ∈ Bip39Wordlist.words) →
    normalize prims (joined words) = joined words

variable {prims : Primitives}

theorem wordIndex_of_getElem? {word : String} {index : Nat}
    (h : Bip39Wordlist.words[index]? = some word) :
    wordIndex word = some index := by
  have hfold : ∀ (entries : List (String × Nat)) (found : Option Nat),
      (found ≠ none ∨ ∃ e ∈ entries, e.1 = word) →
      entries.foldl (fun index e => if e.1 = word then some e.2 else index) found ≠ none := by
    intro entries
    induction entries with
    | nil => simp
    | cons e entries ih =>
      intro found hfound
      apply ih
      by_cases he : e.1 = word
      · simp [he]
      · simpa [he] using hfound
  cases hi : wordIndex word with
  | none =>
    refine absurd hi (hfold _ none (.inr ⟨(word, index), ?_, rfl⟩))
    exact List.mem_zipIdx_iff_getElem?.mpr h
  | some i =>
    have hget := getElem?_of_wordIndex hi
    obtain ⟨hlt, -⟩ := List.getElem?_eq_some_iff.mp hget
    rw [(List.getElem?_inj hlt Bip39Wordlist.words_nodup).mp (hget.trans h.symm)]

theorem wordBits_of_wordAt {group : List Char} {word : String} (hlen : group.length = 11)
    (hbits : IsBits group)
    (h : wordAt group = some word) : word ∈ Bip39Wordlist.words ∧ wordBits word = .ok group := by
  obtain ⟨n, hn, hfix⟩ := exists_fixed hbits
  rw [hlen] at hn hfix
  rw [← hfix, wordAt, parse_fixed (by omega) hn, Option.bind_eq_bind, Option.bind_some] at h
  refine ⟨List.mem_of_getElem? h, ?_⟩
  unfold wordBits
  rw [wordIndex_of_getElem? h]
  exact orTrap_eq_ok.mpr (by rw [padded_eq (by omega) hn, hfix])

theorem wordBits_of_words {groups : List (List Char)} {words : List String}
    (h : groups.mapM wordAt = some words)
    (hlen : ∀ g ∈ groups, g.length = 11) (hbits : ∀ g ∈ groups, IsBits g) :
    (∀ word ∈ words, word ∈ Bip39Wordlist.words) ∧ words.length = groups.length ∧
      words.mapM wordBits = .ok groups := by
  induction groups generalizing words with
  | nil =>
    cases h
    simp [pure, Except.pure]
  | cons group groups ih =>
    simp only [List.mapM_cons, Option.bind_eq_bind, Option.bind_eq_some_iff, Option.pure_def,
      Option.some.injEq] at h
    obtain ⟨word, hword, words', hwords, rfl⟩ := h
    rw [List.forall_mem_cons] at hlen hbits
    obtain ⟨hmem, hok⟩ := wordBits_of_wordAt hlen.1 hbits.1 hword
    obtain ⟨hmems, hcount, hoks⟩ := ih hwords hlen.2 hbits.2
    refine ⟨List.forall_mem_cons.mpr ⟨hmem, hmems⟩, by simp [hcount], ?_⟩
    rw [List.mapM_cons, hok, hoks]
    rfl

theorem split_joined {words : List String} (hne : words ≠ [])
    (h : ∀ word ∈ words, word ∈ Bip39Wordlist.words) :
    split (joined words) = words := by
  have hpieces : ([' '].intercalate (words.map String.toList)).splitOn ' ' =
      words.map String.toList := by
    apply List.splitOn_intercalate
    · intro piece hpiece
      obtain ⟨word, hword, rfl⟩ := List.mem_map.mp hpiece
      exact Bip39Wordlist.words_no_space (h word hword)
    · simpa using hne
  have hkept : (words.map String.toList).filter (fun piece => !piece.isEmpty) =
      words.map String.toList := by
    rw [List.filter_eq_self]
    intro piece hpiece
    obtain ⟨word, hword, rfl⟩ := List.mem_map.mp hpiece
    simpa using Bip39Wordlist.words_ne_nil (h word hword)
  rw [split, joined, String.toList_ofList, hpieces, hkept, List.map_map]
  exact (List.map_congr_left fun word _ => String.ofList_toList).trans (List.map_id words)

theorem bitString_injective {bytes bytes' : Bytes} {bits : List Char}
    (h : bitString bytes = some bits)
    (h' : bitString bytes' = some bits) : bytes = bytes' := by
  rw [bitString_eq, Option.some.injEq] at h h'
  have hcut : ∀ data : Bytes, (data.map fun b => fixed 8 b.toNat).flatten = bits →
      slices 8 bits.length bits = some (data.map fun b => fixed 8 b.toNat) := by
    intro data hdata
    rw [← hdata]
    apply slices_flatten (by omega) _ le_rfl
    intro g hg
    obtain ⟨b, -, rfl⟩ := List.mem_map.mp hg
    exact fixed_length 8 _
  have hgroups := Option.some.inj ((hcut bytes h).symm.trans (hcut bytes' h'))
  refine List.map_injective_iff.mpr (fun b c hbc => ?_) hgroups
  have hb := parse_fixed (show 0 < 8 by omega) (show b.toNat < 2 ^ 8 from b.toNat_lt)
  have hc := parse_fixed (show 0 < 8 by omega) (show c.toNat < 2 ^ 8 from c.toNat_lt)
  rw [show fixed 8 b.toNat = fixed 8 c.toNat from hbc, hc, Option.some.injEq] at hb
  exact UInt8.toNat_inj.mp hb.symm

theorem encode_eq_some {bytes : Bytes} {phrase : String} {k : Nat}
    (hlen : bytes.length = 4 * k) (hk : k ≤ 256)
    (h : encode prims bytes = some phrase) :
    ∃ (groups : List (List Char)) (words : List String) (bits digest : List Char),
    phrase = joined words ∧
      groups.mapM wordAt = some words ∧ groups.length = 3 * k ∧ (∀ g ∈ groups, g.length = 11) ∧
      (∀ g ∈ groups, IsBits g) ∧ bitString bytes = some bits ∧ bits.length = 32 * k ∧
      bitString (prims.sha256 bytes).1 = some digest ∧ groups.flatten = bits ++ digest.take k := by
  have hchecksum : bytes.length * 8 / 32 = k := by omega
  simp only [encode, bitString_eq, hchecksum, Option.bind_eq_bind, Option.bind_some] at h
  have hbits : (bytes.map fun b => fixed 8 b.toNat).flatten.length = 32 * k := by
    rw [bits_length]
    omega
  have hall : IsBits ((bytes.map fun b => fixed 8 b.toNat).flatten ++
      ((prims.sha256 bytes).1.map fun b => fixed 8 b.toNat).flatten.take k) := by
    intro c hc
    rcases List.mem_append.mp hc with hc | hc
    · exact bits_isBits _ c hc
    · exact bits_isBits _ c (List.mem_of_mem_take hc)
  obtain ⟨gs, hcount, hflat, hgs⟩ : ∃ gs : List (List Char), gs.length = 3 * k ∧
      gs.flatten = (bytes.map fun b => fixed 8 b.toNat).flatten ++
        ((prims.sha256 bytes).1.map fun b => fixed 8 b.toNat).flatten.take k ∧
        ∀ g ∈ gs, g.length = 11 := by
    apply exists_groups
    rw [List.length_append, List.length_take, hbits, bits_length, (prims.sha256 bytes).2]
    omega
  rw [← hflat] at h hall
  rw [slices_flatten (by omega) hgs le_rfl, Option.bind_some, Option.bind_eq_some_iff] at h
  obtain ⟨words, hwords, hphrase⟩ := h
  exact ⟨gs, words, _, _, (Option.some.inj hphrase).symm, hwords, hcount, hgs,
    isBits_of_flatten hall, bitString_eq _, hbits, bitString_eq _, hflat⟩

theorem entropy_encode {bytes : Bytes} {phrase : String} (hkeeps : KeepsWords prims)
    (hlen : bytes.length ∈ [16, 20, 24, 28, 32]) (h : encode prims bytes = some phrase) :
    entropy prims phrase = .ok bytes := by
  obtain ⟨k, hk⟩ : ∃ k, bytes.length = 4 * k := by
    simp only [List.mem_cons, List.not_mem_nil, or_false] at hlen
    exact ⟨bytes.length / 4, by omega⟩
  have hcount : 3 * k ∈ [12, 15, 18, 21, 24] := by
    simp only [List.mem_cons, List.not_mem_nil, or_false] at hlen ⊢
    omega
  have hsmall : k ≤ 256 := by
    simp only [List.mem_cons, List.not_mem_nil, or_false] at hcount
    omega
  obtain ⟨groups, words, bits, digest, rfl, hwords, hgroups, hlens, hbits, hentropy,
      hsize, hdigest, hflat⟩ :=
    encode_eq_some hk hsmall h
  obtain ⟨hmem, hwordcount, hback⟩ := wordBits_of_words hwords hlens hbits
  have hne : words ≠ [] := by
    rintro rfl
    simp only [List.mem_cons, List.not_mem_nil, or_false] at hcount
    rw [List.length_nil] at hwordcount
    omega
  have hsplit : split (normalize prims (joined words)) = words := by
    rw [hkeeps words hmem, split_joined hne hmem]
  have hlength : (split (normalize prims (joined words))).length = 3 * k := by
    rw [hsplit, hwordcount, hgroups]
  have hlisted : (split (normalize prims (joined words))).length ∈ [12, 15, 18, 21, 24] := by
    rw [hsplit, hwordcount, hgroups]
    exact hcount
  have hwordBits : (split (normalize prims (joined words))).mapM wordBits = .ok groups := by
    rw [hsplit]
    exact hback
  obtain ⟨bytes', digest', -, hbits', hdigest', hresult⟩ :=
    entropy_of_bits hlength hlisted hwordBits
  rw [hflat, List.take_left' hsize] at hbits'
  obtain rfl := bitString_injective hentropy hbits'
  obtain rfl := Option.some.inj (hdigest.symm.trans hdigest')
  rw [hresult, hflat, List.drop_left' hsize, if_pos rfl]

/-- The index of a listed word has eleven bits, so only an unlisted word fails. -/
theorem wordBits_error {words : List String} {e : Halt MnemonicError}
    (h : words.mapM wordBits = .error e) :
    ∃ word, e = .thrown (.unknownWord word) := by
  induction words with
  | nil => cases h
  | cons word words ih =>
    have hhead : (∃ group, wordBits word = .ok group) ∨
        wordBits word = .error (.thrown (.unknownWord word)) := by
      unfold wordBits
      cases hi : wordIndex word with
      | none => exact .inr rfl
      | some index =>
        exact .inl ⟨_, orTrap_eq_ok.mpr (padded_eq (by omega) (wordIndex_lt hi))⟩
    rw [List.mapM_cons] at h
    rcases hhead with ⟨group, hgroup⟩ | herror
    · cases hrest : words.mapM wordBits with
      | error e' =>
        rw [hgroup, hrest] at h
        cases h
        exact ih hrest
      | ok groups =>
        rw [hgroup, hrest] at h
        cases h
    · rw [herror] at h
      cases h
      exact ⟨word, rfl⟩

/-- Decoding throws, or returns whole entropy; nothing traps. -/
theorem entropy_cases (prims : Primitives) (mnemonic : String) :
    (∃ e, entropy prims mnemonic = .error (.thrown e)) ∨
      ∃ bytes, entropy prims mnemonic = .ok bytes ∧ bytes.length ∈ [16, 20, 24, 28, 32] := by
  by_cases hcount : (split (normalize prims mnemonic)).length ∈ [12, 15, 18, 21, 24]
  · cases hgroups : (split (normalize prims mnemonic)).mapM wordBits with
    | error e =>
      obtain ⟨word, hword⟩ := wordBits_error hgroups
      exact .inl ⟨.unknownWord word, by simp [entropy, hcount, hgroups, bind, Except.bind, hword]⟩
    | ok groups =>
      obtain ⟨k, hk⟩ := count_eq hcount
      obtain ⟨bytes, digest, hlen, -, -, hresult⟩ := entropy_of_bits hk hcount hgroups
      rw [hresult]
      split
      · refine .inr ⟨bytes, rfl, ?_⟩
        simp only [List.mem_cons, List.not_mem_nil, or_false] at hcount ⊢
        omega
      · exact .inl ⟨_, rfl⟩
  · exact .inl ⟨.invalidWordCount, by simp [entropy, hcount]⟩

theorem phraseCodec_bijective (hkeeps : KeepsWords prims) :
    (∀ bytes : Bytes, bytes.length ∈ [16, 20, 24, 28, 32] →
        ∃ phrase, encode prims bytes = some phrase ∧ entropy prims phrase = .ok bytes) ∧
      ∀ mnemonic, (∃ e, entropy prims mnemonic = .error (.thrown e)) ∨
        ∃ bytes, entropy prims mnemonic = .ok bytes ∧ bytes.length ∈ [16, 20, 24, 28, 32] ∧
          encode prims bytes = some (joined (split (normalize prims mnemonic))) := by
  constructor
  · intro bytes hlen
    obtain ⟨k, hk, hsmall⟩ : ∃ k, bytes.length = 4 * k ∧ k ≤ 256 := by
      simp only [List.mem_cons, List.not_mem_nil, or_false] at hlen
      exact ⟨bytes.length / 4, by omega, by omega⟩
    obtain ⟨phrase, hphrase⟩ : ∃ phrase, encode prims bytes = some phrase := exists_encode hk hsmall
    exact ⟨phrase, hphrase, entropy_encode hkeeps hlen hphrase⟩
  · intro mnemonic
    rcases entropy_cases prims mnemonic with hthrown | ⟨bytes, hok, hlen⟩
    · exact .inl hthrown
    · exact .inr ⟨bytes, hok, hlen, encode_of_entropy hok⟩

theorem phraseCodec_bijective_zero :
    ∃ phrase, encode zeroPrimitives (List.replicate 16 0) = some phrase ∧
      entropy zeroPrimitives phrase = .ok (List.replicate 16 0) := by
  have hkeeps : KeepsWords zeroPrimitives := fun _ _ => rfl
  exact (phraseCodec_bijective hkeeps).1 (List.replicate 16 0) (by decide)

end Xend.Mnemonic
