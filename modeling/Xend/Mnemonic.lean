import Xend.Bip39Wordlist
import Xend.BitText
import Xend.Framing

/-! BIP-39 phrases and the Solana key derivation of the device. The hash, the
MAC and Unicode normalization are parameters. -/

namespace Xend

open Framing BitText

/-- How a Swift function ends without a value. -/
inductive Halt (ε : Type) where
  | thrown (e : ε)
  | trap
  deriving DecidableEq

def orTrap {ε α : Type} (o : Option α) : Except (Halt ε) α := o.elim (.error .trap) .ok

structure Primitives where
  sha256 : Bytes → {h : Bytes // h.length = 32}
  hmacSha512 : (key data : Bytes) → {h : Bytes // h.length = 64}
  decomposedStringWithCompatibilityMapping : String → String

inductive MnemonicError where
  | invalidWordCount
  | unknownWord (word : String)
  | invalidChecksum
  deriving DecidableEq

namespace Mnemonic

/-- A word listed twice keeps its last position. -/
def wordIndex (word : String) : Option Nat :=
  Bip39Wordlist.words.zipIdx.foldl
    (fun index entry => if entry.1 = word then some entry.2 else index) none

def bitString (data : Bytes) : Option (List Char) :=
  (data.mapM fun byte => padded 8 byte.toNat).map List.flatten

def joined (words : List String) : String :=
  String.ofList ([' '].intercalate (words.map String.toList))

/-- By scalars: a space joined by a combining mark separates here and not on the
device, but no word has a mark, so either way the text is rejected. -/
def split (text : String) : List String :=
  ((text.toList.splitOn ' ').filter fun piece => !piece.isEmpty).map String.ofList

section Phrase

variable (prims : Primitives)

def normalize (text : String) : String := prims.decomposedStringWithCompatibilityMapping text

def wordAt (group : List Char) : Option String := do
  let index ← parse group
  Bip39Wordlist.words[index]?

def encode (entropy : Bytes) : Option String := do
  let checksumBits := entropy.length * 8 / 32
  let bits ← bitString entropy
  let checksum ← bitString (prims.sha256 entropy).1
  let bits := bits ++ checksum.take checksumBits
  let groups ← slices 11 bits.length bits
  let words ← groups.mapM wordAt
  some (joined words)

def wordBits (word : String) : Except (Halt MnemonicError) (List Char) :=
  match wordIndex word with
  | none => .error (.thrown (.unknownWord word))
  | some index => orTrap (padded 11 index)

def byteAt (group : List Char) : Option UInt8 := do
  let value ← parse group
  if value < 256 then some (UInt8.ofNat value) else none

def entropy (mnemonic : String) : Except (Halt MnemonicError) Bytes := do
  let words := split (normalize prims mnemonic)
  if words.length ∉ [12, 15, 18, 21, 24] then .error (.thrown .invalidWordCount) else
  let bits ← words.mapM wordBits
  let bits := bits.flatten
  let checksumLength := bits.length / 33
  let entropyLength := bits.length - checksumLength
  let entropyBits := bits.take entropyLength
  let checksumBits := bits.drop (bits.length - checksumLength)
  let groups ← orTrap (slices 8 entropyBits.length entropyBits)
  let entropy ← orTrap (groups.mapM byteAt)
  let expected ← orTrap (bitString (prims.sha256 entropy).1)
  if checksumBits = expected.take checksumLength then .ok entropy
    else .error (.thrown .invalidChecksum)

def validate (mnemonic : String) : Except (Halt MnemonicError) Unit := do
  let _ ← entropy prims mnemonic
  .ok ()

def bigEndian (width n : Nat) : Bytes := (littleEndian width n).reverse

def xorBytes (a b : Bytes) : Bytes := a.zipWith (· ^^^ ·) b

/-- The remaining iterations of one block: `u` is the last one, `result` their sum. -/
def iterate (key : Bytes) : Nat → Bytes → Bytes → Bytes
  | 0, _, result => result
  | n + 1, u, result =>
    let u := (prims.hmacSha512 key u).1
    iterate key n u (xorBytes result u)

/-- The blocks still to be appended; the 32-bit block index traps on overflow. -/
def blocks (key salt : Bytes) (iterations length : Nat) : Nat → Nat → Bytes → Option Bytes
  | fuel, blockIndex, output =>
    if length ≤ output.length then some output else
    match fuel with
    | 0 => none
    | fuel + 1 =>
      if iterations = 0 then none else
      let u := (prims.hmacSha512 key (salt ++ bigEndian 4 blockIndex)).1
      let output := output ++ iterate prims key (iterations - 1) u u
      if blockIndex + 1 < 2 ^ 32 then blocks key salt iterations length fuel
        (blockIndex + 1) output else none

def pbkdf2SHA512 (password salt : Bytes) (iterations length : Nat) : Option Bytes :=
  (blocks prims password salt iterations length length 1 []).map (·.take length)

def password (mnemonic : String) : Bytes := utf8 (normalize prims mnemonic)

/-- Irreducible: its 2048 rounds are never to be unrolled by unification. -/
@[irreducible] def seed (mnemonic passphrase : String) : Option Bytes :=
  pbkdf2SHA512 prims (password prims mnemonic)
    (utf8 ("mnemonic" ++ normalize prims passphrase)) 2048 64

structure Slip10Node where
  key : Bytes
  chainCode : Bytes

def slip10Node (mac : Bytes) : Slip10Node := ⟨mac.take 32, mac.drop (mac.length - 32)⟩

def slip10Master (seed : Bytes) : Slip10Node :=
  slip10Node (prims.hmacSha512 (utf8 "ed25519 seed") seed).1

def slip10DeriveHardened (node : Slip10Node) (index : Nat) : Slip10Node :=
  slip10Node
    (prims.hmacSha512 node.chainCode (0 :: node.key ++ bigEndian 4 (index ||| 0x80000000))).1

def solanaPrivateKeyFromSeed (seed : Bytes) : Bytes :=
  ([44, 501, 0, 0].foldl (slip10DeriveHardened prims) (slip10Master prims seed)).key

def solanaPrivateKey (mnemonic passphrase : String) : Option Bytes :=
  (seed prims mnemonic passphrase).map (solanaPrivateKeyFromSeed prims)

end Phrase

section Derivation

variable {prims : Primitives}

theorem seed_congr {mnemonic mnemonic' : String}
    (h : normalize prims mnemonic = normalize prims mnemonic')
    (passphrase : String) : seed prims mnemonic passphrase = seed prims mnemonic' passphrase := by
  have hp : password prims mnemonic = password prims mnemonic' := congrArg utf8 h
  unfold seed
  exact congrArg (fun key => pbkdf2SHA512 prims key _ 2048 64) hp

theorem solanaPrivateKey_congr {mnemonic mnemonic' : String}
    (h : normalize prims mnemonic = normalize prims mnemonic') (passphrase : String) :
    solanaPrivateKey prims mnemonic passphrase = solanaPrivateKey prims mnemonic' passphrase :=
  congrArg (Option.map (solanaPrivateKeyFromSeed prims)) (seed_congr h passphrase)

end Derivation

section Codec

variable {prims : Primitives}

theorem orTrap_eq_ok {ε α : Type} {o : Option α} {a : α} :
    (orTrap o : Except (Halt ε) α) = .ok a ↔ o = some a := by
  cases o <;> simp [orTrap]

theorem getElem?_of_wordIndex {word : String} {index : Nat} (h : wordIndex word = some index) :
    Bip39Wordlist.words[index]? = some word := by
  have hfold : ∀ (entries : List (String × Nat)) (index? : Option Nat),
      (∀ e ∈ entries, Bip39Wordlist.words[e.2]? = some e.1) →
      (∀ i, index? = some i → Bip39Wordlist.words[i]? = some word) →
      ∀ i, entries.foldl (fun index e => if e.1 = word then some e.2 else index) index? = some i →
        Bip39Wordlist.words[i]? = some word := by
    intro entries
    induction entries with
    | nil => exact fun index? _ hi => hi
    | cons e entries ih =>
      intro index? hes hi
      refine ih _ (fun e' he' => hes e' (List.mem_cons_of_mem _ he')) (fun i hif => ?_)
      by_cases he : e.1 = word
      · simp only [if_pos he] at hif
        cases hif
        exact he ▸ hes e List.mem_cons_self
      · simp only [if_neg he] at hif
        exact hi i hif
  exact hfold _ none (fun e he => List.mem_zipIdx_iff_getElem?.mp he) (by simp) index h

theorem wordIndex_lt {word : String} {index : Nat} (h : wordIndex word = some index) :
    index < 2 ^ 11 := by
  have hh := (List.getElem?_eq_some_iff.mp (getElem?_of_wordIndex h)).1
  rw [Bip39Wordlist.words_length] at hh
  omega

theorem wordBits_eq_ok {word : String} {group : List Char} (h : wordBits word = .ok group) :
    group.length = 11 ∧ IsBits group ∧ wordAt group = some word := by
  unfold wordBits at h
  cases hi : wordIndex word with
  | none => simp [hi] at h
  | some index =>
    have hget := getElem?_of_wordIndex hi
    have hlt := wordIndex_lt hi
    simp only [hi, orTrap_eq_ok, padded_eq (show 0 < 11 by omega) hlt, Option.some.injEq] at h
    subst h
    refine ⟨fixed_length 11 index, fixed_isBits 11 index, ?_⟩
    simp [wordAt, parse_fixed (show 0 < 11 by omega) hlt, hget]

theorem words_of_wordBits {words : List String} {groups : List (List Char)}
    (h : words.mapM wordBits = .ok groups) :
    groups.length = words.length ∧ (∀ g ∈ groups, g.length = 11) ∧ (∀ g ∈ groups, IsBits g) ∧
      groups.mapM wordAt = some words := by
  induction words generalizing groups with
  | nil =>
    cases h
    simp
  | cons word words ih =>
    simp only [List.mapM_cons, bind_eq_ok] at h
    obtain ⟨group, hg, groups', hgs, hcons⟩ := h
    cases hcons
    obtain ⟨hlen, hbits, hat⟩ := wordBits_eq_ok hg
    obtain ⟨hlens, hall, hallbits, hmap⟩ := ih hgs
    refine ⟨by simp [hlens], ?_, ?_, by simp [hat, hmap]⟩
    · exact List.forall_mem_cons.mpr ⟨hlen, hall⟩
    · exact List.forall_mem_cons.mpr ⟨hbits, hallbits⟩

theorem padded_of_byteAt {group : List Char} {b : UInt8} (h : byteAt group = some b)
    (hlen : group.length = 8) (hbits : IsBits group) : padded 8 b.toNat = some group := by
  obtain ⟨n, hn, hfix⟩ := exists_fixed hbits
  rw [hlen] at hn hfix
  have hparse : parse group = some n := by rw [← hfix, parse_fixed (by omega) hn]
  simp only [byteAt, hparse, Option.bind_eq_bind, Option.bind_some, show n < 256 by omega, if_true,
    Option.some.injEq] at h
  have hb : b.toNat = n := by
    rw [← h, UInt8.toNat_ofNat']
    omega
  rw [hb, padded_eq (by omega) hn, hfix]

theorem bitString_of_byteAt {groups : List (List Char)} {bytes : Bytes}
    (h : groups.mapM byteAt = some bytes)
    (hlen : ∀ g ∈ groups, g.length = 8) (hbits : ∀ g ∈ groups, IsBits g) :
    bytes.length = groups.length ∧ bitString bytes = some groups.flatten := by
  have hpad : bytes.length = groups.length ∧
      bytes.mapM (fun b => padded 8 b.toNat) = some groups := by
    induction groups generalizing bytes with
    | nil =>
      cases h
      simp
    | cons group groups ih =>
      simp only [List.mapM_cons, Option.bind_eq_bind, Option.bind_eq_some_iff] at h
      obtain ⟨b, hb, bs, hbs, hcons⟩ := h
      cases hcons
      obtain ⟨hlens, hmap⟩ := ih hbs (fun g hg => hlen g (List.mem_cons_of_mem _ hg))
        (fun g hg => hbits g (List.mem_cons_of_mem _ hg))
      have hhead := padded_of_byteAt hb (hlen _ List.mem_cons_self) (hbits _ List.mem_cons_self)
      exact ⟨by simp [hlens], by simp [hhead, hmap]⟩
  exact ⟨hpad.1, by simp [bitString, hpad.2]⟩

theorem exists_byteAt {group : List Char} (hlen : group.length = 8) (hbits : IsBits group) :
    ∃ b, byteAt group = some b := by
  obtain ⟨n, hn, hfix⟩ := exists_fixed hbits
  rw [hlen] at hn hfix
  refine ⟨UInt8.ofNat n, ?_⟩
  rw [← hfix, byteAt, parse_fixed (by omega) hn]
  simp only [Option.bind_eq_bind, Option.bind_some, show n < 256 by omega, if_true]

theorem exists_bytes {groups : List (List Char)} (hlen : ∀ g ∈ groups, g.length = 8)
    (hbits : ∀ g ∈ groups, IsBits g) :
    ∃ bytes, groups.mapM byteAt = some bytes := by
  induction groups with
  | nil => exact ⟨[], rfl⟩
  | cons g gs ih =>
    rw [List.forall_mem_cons] at hlen hbits
    obtain ⟨b, hb⟩ := exists_byteAt hlen.1 hbits.1
    obtain ⟨bytes, hbytes⟩ := ih hlen.2 hbits.2
    exact ⟨b :: bytes, by simp [hb, hbytes]⟩

theorem flatten_isBits {groups : List (List Char)} (h : ∀ g ∈ groups, IsBits g) :
    IsBits groups.flatten := by
  intro c hc
  obtain ⟨g, hg, hcg⟩ := List.mem_flatten.mp hc
  exact h g hg c hcg

theorem isBits_of_flatten {groups : List (List Char)} (h : IsBits groups.flatten) :
    ∀ g ∈ groups, IsBits g :=
  fun g hg c hc => h c (List.mem_flatten.mpr ⟨g, hg, hc⟩)

/-- Every byte has eight bits to spell, so no bit string traps. -/
theorem bitString_eq (data : Bytes) :
    bitString data = some (data.map fun b => fixed 8 b.toNat).flatten := by
  have hpad : (data.mapM fun b => padded 8 b.toNat) = some (data.map fun b => fixed 8 b.toNat) := by
    induction data with
    | nil => rfl
    | cons b bs ih =>
      have hb : b.toNat < 2 ^ 8 := b.toNat_lt
      simp only [List.mapM_cons, padded_eq (show 0 < 8 by omega) hb, ih, Option.bind_eq_bind,
        Option.bind_some, List.map_cons, Option.pure_def]
  simp [bitString, hpad]

theorem count_eq {n : Nat} (h : n ∈ [12, 15, 18, 21, 24]) : ∃ k, n = 3 * k := by
  simp only [List.mem_cons, List.not_mem_nil, or_false] at h
  exact ⟨n / 3, by omega⟩

/-- Listed words in the right number decode without a trap: the bytes in front of
the checksum are returned exactly if it matches. -/
theorem entropy_of_bits {mnemonic : String} {groups : List (List Char)} {k : Nat}
    (hk : (split (normalize prims mnemonic)).length = 3 * k)
    (hcount : (split (normalize prims mnemonic)).length ∈ [12, 15, 18, 21, 24])
    (hgroups : (split (normalize prims mnemonic)).mapM wordBits = .ok groups) :
    ∃ bytes digest, bytes.length = 4 * k ∧ bitString bytes = some (groups.flatten.take (32 * k)) ∧
      bitString (prims.sha256 bytes).1 = some digest ∧
      entropy prims mnemonic =
        if groups.flatten.drop (32 * k) = digest.take k then .ok bytes
          else .error (.thrown .invalidChecksum) := by
  obtain ⟨hcounts, hlens, hbits, -⟩ := words_of_wordBits hgroups
  have hlen : groups.flatten.length = 33 * k := by
    rw [List.length_flatten, List.map_congr_left (g := fun _ => 11) hlens]
    simp [hcounts, hk]
    omega
  obtain ⟨gs, hgsk, hflat, hgs⟩ : ∃ gs : List (List Char), gs.length = 4 * k ∧
      gs.flatten = groups.flatten.take (32 * k) ∧ ∀ g ∈ gs, g.length = 8 :=
    exists_groups (by rw [List.length_take]; omega)
  have hgsbits : ∀ g ∈ gs, IsBits g := by
    apply isBits_of_flatten
    rw [hflat]
    exact fun c hc => flatten_isBits hbits c (List.mem_of_mem_take hc)
  obtain ⟨bytes, hbytes⟩ := exists_bytes hgs hgsbits
  obtain ⟨hbyteslen, hbytesbits⟩ := bitString_of_byteAt hbytes hgs hgsbits
  have hslices : slices 8 (groups.flatten.take (32 * k)).length (groups.flatten.take (32 * k)) =
      some gs := by
    rw [← hflat]
    exact slices_flatten (by omega) hgs le_rfl
  refine ⟨bytes, _, by omega, by rw [hbytesbits, hflat], bitString_eq _, ?_⟩
  have hchecksum : groups.flatten.length / 33 = k := by omega
  have hfront : groups.flatten.length - k = 32 * k := by omega
  simp only [entropy, hcount, not_true_eq_false, if_false, hgroups, hchecksum, hfront, bind,
    Except.bind, hslices, orTrap, Option.elim_some, hbytes, bitString_eq]

/-- The bits of an accepted phrase: the entropy's, then as many of its hash as the
phrase has groups of three words. -/
theorem entropy_eq_ok {mnemonic : String} {bytes : Bytes} (h : entropy prims mnemonic = .ok bytes) :
    ∃ (groups : List (List Char)) (k : Nat) (entropyBits digest : List Char),
      (∀ g ∈ groups, g.length = 11) ∧
      groups.mapM wordAt = some (split (normalize prims mnemonic)) ∧
      bytes.length = 4 * k ∧ bitString bytes = some entropyBits ∧
      bitString (prims.sha256 bytes).1 = some digest ∧
      groups.flatten = entropyBits ++ digest.take k := by
  by_cases hcount : (split (normalize prims mnemonic)).length ∈ [12, 15, 18, 21, 24]
  · cases hgroups : (split (normalize prims mnemonic)).mapM wordBits with
    | error e => simp [entropy, hcount, hgroups, bind, Except.bind] at h
    | ok groups =>
      obtain ⟨k, hk⟩ := count_eq hcount
      obtain ⟨-, hlens, -, hwords⟩ := words_of_wordBits hgroups
      obtain ⟨bytes', digest, hlen, hbits, hdigest, hentropy⟩ := entropy_of_bits hk hcount hgroups
      rw [h] at hentropy
      split at hentropy
      · rename_i hcheck
        cases hentropy
        refine ⟨groups, k, _, digest, hlens, hwords, hlen, hbits, hdigest, ?_⟩
        rw [← hcheck, List.take_append_drop]
      · cases hentropy
  · simp [entropy, hcount] at h

theorem encode_of_entropy {mnemonic : String} {bytes : Bytes}
    (h : entropy prims mnemonic = .ok bytes) :
    encode prims bytes = some (joined (split (normalize prims mnemonic))) := by
  obtain ⟨groups, k, entropyBits, digest, hlens, hwords, hlen, hbits, hdigest, hflat⟩ :=
    entropy_eq_ok h
  have hchecksum : bytes.length * 8 / 32 = k := by omega
  have hslices : slices 11 groups.flatten.length groups.flatten = some groups :=
    slices_flatten (by omega) hlens le_rfl
  simp only [encode, hbits, hdigest, hchecksum, Option.bind_eq_bind,
    Option.bind_some, ← hflat, hslices, hwords]

theorem bits_length (data : Bytes) :
    (data.map fun b => fixed 8 b.toNat).flatten.length = 8 * data.length := by
  induction data with
  | nil => rfl
  | cons b bs ih =>
    simp only [List.map_cons, List.flatten_cons, List.length_append,
      fixed_length, ih, List.length_cons]
    omega

theorem bits_isBits (data : Bytes) : IsBits (data.map fun b => fixed 8 b.toNat).flatten := by
  intro c hc
  simp only [List.mem_flatten, List.mem_map] at hc
  obtain ⟨_, ⟨b, -, rfl⟩, hc⟩ := hc
  exact fixed_isBits 8 b.toNat c hc

theorem exists_wordAt {group : List Char} (hlen : group.length = 11) (hbits : IsBits group) :
    ∃ word, wordAt group = some word := by
  obtain ⟨n, hn, hfix⟩ := exists_fixed hbits
  rw [hlen] at hn hfix
  have hget : n < Bip39Wordlist.words.length := by
    rw [Bip39Wordlist.words_length]
    omega
  refine ⟨Bip39Wordlist.words[n], ?_⟩
  rw [← hfix, wordAt, parse_fixed (by omega) hn]
  exact List.getElem?_eq_getElem hget

/-- Entropy in whole words of 32 bits, and no longer than a hash has bits for, has a
phrase. -/
theorem exists_encode {entropy : Bytes} {k : Nat} (hlen : entropy.length = 4 * k) (hk : k ≤ 256) :
    ∃ phrase, encode prims entropy = some phrase := by
  have hchecksum : entropy.length * 8 / 32 = k := by omega
  generalize hbits : (entropy.map fun b => fixed 8 b.toNat).flatten ++
    ((prims.sha256 entropy).1.map fun b => fixed 8 b.toNat).flatten.take k = bits
  have hall : IsBits bits := by
    intro c hc
    rw [← hbits, List.mem_append] at hc
    rcases hc with hc | hc
    · exact bits_isBits _ c hc
    · exact bits_isBits _ c (List.mem_of_mem_take hc)
  have hcount : bits.length = 11 * (3 * k) := by
    rw [← hbits, List.length_append, List.length_take, bits_length, bits_length,
      (prims.sha256 entropy).2]
    omega
  obtain ⟨groups, -, hflat, hgroups⟩ := exists_groups hcount
  have hslices : slices 11 bits.length bits = some groups := by
    have hh : slices 11 bits.length groups.flatten = some groups :=
      slices_flatten (by omega) hgroups (le_of_eq (congrArg List.length hflat))
    rwa [hflat] at hh
  obtain ⟨words, hwords⟩ : ∃ words, groups.mapM wordAt = some words := by
    have hgroupbits : ∀ g ∈ groups, IsBits g :=
      fun g hg c hc => hall c (hflat ▸ List.mem_flatten.mpr ⟨g, hg, hc⟩)
    clear hflat hslices
    induction groups with
    | nil => exact ⟨[], rfl⟩
    | cons g gs ih =>
      rw [List.forall_mem_cons] at hgroups hgroupbits
      obtain ⟨word, hword⟩ := exists_wordAt hgroups.1 hgroupbits.1
      obtain ⟨words, hwords⟩ := ih hgroups.2 hgroupbits.2
      exact ⟨word :: words, by simp [hword, hwords]⟩
  refine ⟨joined words, ?_⟩
  simp only [encode, hchecksum, bitString_eq, Option.bind_eq_bind, Option.bind_some,
    hbits, hslices, hwords]

end Codec

end Mnemonic

end Xend
