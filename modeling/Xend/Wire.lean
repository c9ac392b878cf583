import Xend.Varint
import Xend.XendWallet

/-! The wire transaction the device puts together, and how it is read back: a count,
that many signatures, and the message. -/

namespace Xend.Sdk.XendWallet

open Framing Varint

/-- A compact-u16 count and that many signatures; the message is what is left. -/
def readSignatures : Reader (List Bytes) := fun wire => do
  let (count, wire) ← readVarint wire
  counted (takeBytes 64) count wire

/-- The strict reader of the backend's transactions reads no count in another way. -/
theorem readSignatures_of_readVec {wire message : Bytes} {signatures : List Bytes}
    (h : readVec (takeBytes 64) wire = some (signatures, message)) :
    readSignatures wire = some (signatures, message) := by
  obtain ⟨⟨count, rest⟩, hcount, hread⟩ := Option.bind_eq_some_iff.mp h
  rw [readSignatures, readVarint_of_readCompactU16 hcount, Option.bind_eq_bind, Option.bind_some]
  exact hread

theorem shortest_encodeShortVecLength (n : Nat) : Shortest (encodeShortVecLength n) n := by
  induction n using encodeShortVecLength.induct with
  | case1 n hlast =>
    have hvalue : (UInt8.ofNat (n % 128)).toNat = n := by
      rw [UInt8.toNat_ofNat']
      omega
    have hshortest := shortest_last (b := UInt8.ofNat (n % 128)) (by omega)
    rw [encodeShortVecLength, dif_pos hlast]
    rwa [hvalue] at hshortest
  | case2 n hmore ih =>
    have hvalue : (UInt8.ofNat (n % 128 + 128)).toNat = n % 128 + 128 := by
      rw [UInt8.toNat_ofNat']
      omega
    have hshortest :=
      ih.more (Nat.pos_of_ne_zero hmore) (b := UInt8.ofNat (n % 128 + 128)) (by omega)
    have hn : (n % 128 + 128) % 128 + 128 * (n / 128) = n := by omega
    rw [encodeShortVecLength, dif_neg hmore]
    rwa [hvalue, hn] at hshortest

example : encodeShortVecLength 16384 = [0x80, 0x80, 0x01] := by simp [encodeShortVecLength]

theorem encodeShortVecLength_length_le {n k : Nat} (h : n < 128 ^ (k + 1)) :
    (encodeShortVecLength n).length ≤ k + 1 := by
  induction k generalizing n with
  | zero =>
    have hlast : n / 128 = 0 := by omega
    rw [encodeShortVecLength, dif_pos hlast]
    exact le_rfl
  | succ k ih =>
    rw [encodeShortVecLength]
    split
    · exact Nat.succ_le_succ (Nat.zero_le _)
    · have hrest : n / 128 < 128 ^ (k + 1) := by
        rw [pow_succ] at h
        omega
      exact Nat.succ_le_succ (ih hrest)

theorem readSignatures_assembled {signatures : List Bytes} (hsize : ∀ s ∈ signatures, s.length = 64)
    (message : Bytes) :
    readSignatures (assembleSignedTransaction signatures message) = some (signatures, message) := by
  have hcount :=
    (shortest_encodeShortVecLength signatures.length).1.append (signatures.flatten ++ message)
  have hread := reads_counted (reads_takeBytes 64) signatures message hsize
  rw [List.flatMap_id] at hread
  rw [readSignatures, assembleSignedTransaction, List.append_assoc, hcount,
    Option.bind_eq_bind, Option.bind_some]
  exact hread

theorem assembly_decodable {signatures : List Bytes} (hcount : signatures.length ≤ 65535)
    (hsize : ∀ s ∈ signatures, s.length = 64) (message : Bytes) :
    readSignatures (assembleSignedTransaction signatures message) = some (signatures, message) ∧
      Shortest (encodeShortVecLength signatures.length) signatures.length ∧
      (encodeShortVecLength signatures.length).length ≤ 3 ∧
      ∀ (signatures' : List Bytes) (message' : Bytes), signatures'.length ≤ 65535 →
      (∀ s ∈ signatures', s.length = 64) →
        assembleSignedTransaction signatures' message' =
          assembleSignedTransaction signatures message →
        signatures' = signatures ∧ message' = message := by
  have hread := readSignatures_assembled hsize message
  refine ⟨hread, shortest_encodeShortVecLength _, encodeShortVecLength_length_le (by omega),
    fun signatures' message' _ hsize' hsame => ?_⟩
  have hread' := readSignatures_assembled hsize' message'
  rw [hsame, hread] at hread'
  exact ⟨congrArg Prod.fst (Option.some.inj hread').symm,
    congrArg Prod.snd (Option.some.inj hread').symm⟩

theorem assembly_decodable_sponsored :
    readSignatures
      (assembleSignedTransaction [List.replicate 64 0x11, List.replicate 64 0x22] [1, 2, 3, 4]) =
        some ([List.replicate 64 0x11, List.replicate 64 0x22], [1, 2, 3, 4]) ∧
      Shortest (encodeShortVecLength 2) 2 ∧ (encodeShortVecLength 2).length ≤ 3 ∧
      ∀ (signatures' : List Bytes) (message' : Bytes), signatures'.length ≤ 65535 →
      (∀ s ∈ signatures', s.length = 64) →
        assembleSignedTransaction signatures' message' =
          assembleSignedTransaction [List.replicate 64 0x11, List.replicate 64 0x22] [1, 2, 3, 4] →
        signatures' = [List.replicate 64 0x11, List.replicate 64 0x22] ∧ message' = [1, 2, 3, 4] :=
  assembly_decodable (by simp) (by simp) [1, 2, 3, 4]

end Xend.Sdk.XendWallet
