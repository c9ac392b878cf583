import Xend.Pbkdf2
import Xend.PhraseSpelling

/-! `pbkdf2SHA512` against the definition of PBKDF2. The loop keeps the blocks so far,
and the index of the next one, which has to fit into 32 bits even behind the last. -/

namespace Xend.Mnemonic

open Framing

def prf (prims : Primitives) (key data : Bytes) : Bytes := (prims.hmacSha512 key data).1

theorem prf_length (prims : Primitives) (key data : Bytes) : (prf prims key data).length = 64 :=
  (prims.hmacSha512 key data).2

theorem bigEndian_four (i : Nat) : bigEndian 4 i = Pbkdf2.int32 i := by
  simp [bigEndian, littleEndian, Pbkdf2.int32, Nat.div_div_eq_div_mul]

section Loops

variable (prims : Primitives) (key salt : Bytes) {iterations length : Nat}

theorem iterate_eq (i c n : Nat) :
    iterate prims key n (Pbkdf2.iteration (prf prims) key salt i c)
      (Pbkdf2.block (prf prims) 64 key salt (c + 1) i) =
      Pbkdf2.block (prf prims) 64 key salt (c + 1 + n) i := by
  induction n generalizing c with
  | zero => rfl
  | succ n ih =>
    have hnext : xorBytes (Pbkdf2.block (prf prims) 64 key salt (c + 1) i)
        (Pbkdf2.iteration (prf prims) key salt i (c + 1)) =
          Pbkdf2.block (prf prims) 64 key salt (c + 1 + 1) i :=
      (Pbkdf2.block_succ key salt (c + 1) i).symm
    have hrest := ih (c + 1)
    rw [← hnext] at hrest
    rw [show c + 1 + (n + 1) = c + 1 + 1 + n by omega, ← hrest]
    rfl

theorem iterate_block (hiterations : 1 ≤ iterations) (i : Nat) :
    iterate prims key (iterations - 1) (prims.hmacSha512 key (salt ++ bigEndian 4 i)).1
      (prims.hmacSha512 key (salt ++ bigEndian 4 i)).1 =
        Pbkdf2.block (prf prims) 64 key salt iterations i := by
  have hfirst := Pbkdf2.block_one key salt (prf_length prims) i
  have hall := iterate_eq prims key salt i 0 (iterations - 1)
  rw [Nat.zero_add, hfirst, Nat.add_sub_cancel' hiterations] at hall
  rw [bigEndian_four]
  exact hall

theorem blocks_reached {n : Nat} (h : length ≤ n * 64) (fuel : Nat) :
    blocks prims key salt iterations length fuel (n + 1)
      (Pbkdf2.stream (prf prims) 64 key salt iterations n) =
      some (Pbkdf2.stream (prf prims) 64 key salt iterations n) := by
  have hlength := Pbkdf2.stream_length key salt (prf_length prims) iterations n
  unfold blocks
  exact if_pos (hlength ▸ h)

theorem blocks_next (hiterations : 1 ≤ iterations) {n : Nat} (h : n * 64 < length) (fuel : Nat) :
    blocks prims key salt iterations length (fuel + 1) (n + 1)
      (Pbkdf2.stream (prf prims) 64 key salt iterations n) =
      if n + 2 < 2 ^ 32 then
        blocks prims key salt iterations length fuel (n + 2)
          (Pbkdf2.stream (prf prims) 64 key salt iterations (n + 1))
      else none := by
  have hmore : ¬ length ≤ (Pbkdf2.stream (prf prims) 64 key salt iterations n).length := by
    rw [Pbkdf2.stream_length key salt (prf_length prims)]
    exact Nat.not_le.mpr h
  rw [blocks, if_neg hmore]
  simp only [if_neg (Nat.pos_iff_ne_zero.mp hiterations),
    iterate_block prims key salt hiterations, ← Pbkdf2.stream_succ]

/-- While the index behind the last block fits, every block is appended. -/
theorem blocks_done (hiterations : 1 ≤ iterations)
    (hfits : length ≤ (2 ^ 32 - 2) * 64) {fuel n : Nat}
    (hfuel : length ≤ (n + fuel) * 64) : ∃ m, length ≤ m * 64 ∧
      blocks prims key salt iterations length fuel (n + 1)
        (Pbkdf2.stream (prf prims) 64 key salt iterations n) =
        some (Pbkdf2.stream (prf prims) 64 key salt iterations m) := by
  induction fuel generalizing n with
  | zero => exact ⟨n, hfuel, blocks_reached prims key salt hfuel 0⟩
  | succ fuel ih =>
    by_cases hreached : length ≤ n * 64
    · exact ⟨n, hreached, blocks_reached prims key salt hreached (fuel + 1)⟩
    · have hindex : n + 2 < 2 ^ 32 := by omega
      rw [blocks_next prims key salt hiterations (Nat.not_le.mp hreached), if_pos hindex]
      exact ih (by omega)

/-- Otherwise the increment behind the last block traps, in however many turns. -/
theorem blocks_trap (hiterations : 1 ≤ iterations) (hlong : (2 ^ 32 - 2) * 64 < length)
    (fuel : Nat) {n : Nat}
    (hn : n ≤ 2 ^ 32 - 2) :
    blocks prims key salt iterations length fuel (n + 1)
      (Pbkdf2.stream (prf prims) 64 key salt iterations n) = none := by
  have hmore : n * 64 < length := by omega
  induction fuel generalizing n with
  | zero =>
    have hlength := Pbkdf2.stream_length key salt (prf_length prims) iterations n
    exact if_neg (Nat.not_le.mpr (hlength ▸ hmore))
  | succ fuel ih =>
    rw [blocks_next prims key salt hiterations hmore]
    split
    · exact ih (by omega) (by omega)
    · rfl

end Loops

section Derivation

variable (prims : Primitives)

theorem pbkdf2SHA512_eq (password salt : Bytes) {iterations : Nat}
    (hiterations : 1 ≤ iterations) (length : Nat) :
    pbkdf2SHA512 prims password salt iterations length =
      if length ≤ (2 ^ 32 - 2) * 64 then some (Pbkdf2.derivedKey
        (prf prims) 64 password salt iterations length)
      else none := by
  by_cases hfits : length ≤ (2 ^ 32 - 2) * 64
  · have hfuel : length ≤ (0 + length) * 64 := by omega
    obtain ⟨m, hreached, hblocks⟩ := blocks_done prims password salt hiterations hfits hfuel
    rw [if_pos hfits, Pbkdf2.derivedKey_eq password salt (prf_length prims) (by omega) hreached]
    exact congrArg (Option.map _) hblocks
  · have htrap :=
      blocks_trap prims password salt hiterations (Nat.not_le.mp hfits) length (Nat.zero_le _)
    rw [if_neg hfits]
    exact congrArg (Option.map _) htrap

theorem seed_eq (mnemonic passphrase : String) : seed prims mnemonic passphrase =
    some (Pbkdf2.derivedKey (prf prims) 64 (password prims mnemonic)
      (utf8 ("mnemonic" ++ normalize prims passphrase))
      2048 64) := by
  unfold seed
  rw [pbkdf2SHA512_eq prims _ _ (by omega), if_pos (by omega)]

theorem slip10Node_key_length {mac : Bytes} (h : mac.length = 64) :
    (slip10Node mac).key.length = 32 := by
  simp [slip10Node, h]

theorem solanaPrivateKeyFromSeed_length (seed : Bytes) :
    (solanaPrivateKeyFromSeed prims seed).length = 32 := by
  simp only [solanaPrivateKeyFromSeed, List.foldl_cons, List.foldl_nil]
  exact slip10Node_key_length (prims.hmacSha512 _ _).2

/-- Every text derives a key, of the length the signer asks for. -/
theorem exists_solanaPrivateKey {prims : Primitives} (mnemonic passphrase : String) :
    ∃ key, solanaPrivateKey prims mnemonic passphrase = some key ∧ key.length = 32 := by
  have hkey :=
    congrArg (Option.map (solanaPrivateKeyFromSeed prims)) (seed_eq prims mnemonic passphrase)
  exact ⟨_, hkey, solanaPrivateKeyFromSeed_length prims _⟩

/-- The standard allows one block more. -/
theorem pbkdf2SHA512_eq_iff (password salt : Bytes) {iterations : Nat}
    (hiterations : 1 ≤ iterations) (length : Nat) :
    pbkdf2SHA512 prims password salt iterations length =
        some (Pbkdf2.derivedKey (prf prims) 64 password salt iterations length) ↔
      length ≤ (2 ^ 32 - 2) * 64 := by
  rw [pbkdf2SHA512_eq prims password salt hiterations length]
  constructor
  · intro h
    by_contra hlong
    rw [if_neg hlong] at h
    cases h
  · exact fun hfits => if_pos hfits

end Derivation

theorem pbkdf2SHA512_eq_iff_seed :
    pbkdf2SHA512 zeroPrimitives (utf8 "abandon") (utf8 "mnemonic") 2048 64 =
        some (Pbkdf2.derivedKey (prf zeroPrimitives) 64 (utf8 "abandon")
          (utf8 "mnemonic") 2048 64) ↔
      64 ≤ (2 ^ 32 - 2) * 64 :=
  pbkdf2SHA512_eq_iff zeroPrimitives (utf8 "abandon") (utf8 "mnemonic") (by decide) 64

/-- The longest key there can be; no number of turns would produce it. -/
theorem longestKey_traps :
    pbkdf2SHA512 zeroPrimitives [] [] 1 ((2 ^ 32 - 1) * 64) ≠
        some (Pbkdf2.derivedKey (prf zeroPrimitives) 64 [] [] 1 ((2 ^ 32 - 1) * 64)) ∧
      ∀ fuel, blocks zeroPrimitives [] [] 1 ((2 ^ 32 - 1) * 64) fuel 1 [] = none := by
  constructor
  · rw [pbkdf2SHA512_eq zeroPrimitives [] [] le_rfl, if_neg (by omega)]
    exact (Option.some_ne_none _).symm
  · exact fun fuel => blocks_trap zeroPrimitives [] [] le_rfl (by omega) fuel (Nat.zero_le _)

end Xend.Mnemonic
