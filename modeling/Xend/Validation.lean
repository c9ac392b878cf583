import Xend.SolanaReference
import Xend.SubmitRuns

/-! What `validate_signed` accepts, and what `submit` therefore hands to the
network. -/

namespace Xend

open Framing Interaction

/-- One valid signature, in order, for every signer the header asks for. -/
def SolanaSdk.FullySigned (sdk : SolanaSdk) (b : Bytes) : Prop :=
  ∃ tx, sdk.deserializeTransaction b = .ok tx ∧
    tx.signatures.length = tx.message.header.numRequiredSignatures.toNat ∧
    ∀ i < tx.message.header.numRequiredSignatures.toNat, ∃ sig key, tx.signatures[i]? = some sig ∧
      tx.message.accountKeys[i]? = some key ∧
      sdk.verifySignature sig key (sdk.serialize tx.message) = true

/-- The three lengths that `validate_signed` does not compare. -/
def Transaction.Counted (tx : Transaction) : Prop :=
  tx.signatures.length = tx.message.header.numRequiredSignatures.toNat ∧
    tx.message.header.numRequiredSignatures.toNat ≤ tx.message.accountKeys.length

/-- A signature that is present does not verify for the key at its index. -/
def SolanaSdk.HasForgery (sdk : SolanaSdk) (tx : Transaction) : Prop :=
  ∃ (i : Nat) (sig : Bytes) (key : Pubkey), tx.signatures[i]? = some sig ∧
    tx.message.accountKeys[i]? = some key ∧
    sdk.verifySignature sig key (sdk.serialize tx.message) = false

/-- Neither the validator nor any run of submits lets `b` through half signed. -/
def OnlyFullySigned (sdk : SolanaSdk) (b : Bytes) : Prop :=
  (sdk.validateSigned b = .ok () → sdk.FullySigned b) ∧
    ∀ (ι : Type) [DecidableEq ι] (l : Ledger) (reqs : ι →
      SubmitRequest) (es : List (ι × Act Verdict)),
      ∀ t ∈ (submits sdk l reqs).turns Ledger.execute es, t.call = .broadcast b → sdk.FullySigned b

variable {sdk : SolanaSdk} {b : Bytes}

theorem SolanaSdk.verify_iff {tx : Transaction} : sdk.verify tx = true ↔ ¬ sdk.HasForgery tx := by
  simp only [verify, List.all_eq_true, HasForgery, not_exists, not_and, Bool.not_eq_false]
  constructor
  · intro h i sig key hs hk
    have hm : (sig, key) ∈ tx.signatures.zip tx.message.accountKeys :=
      List.mem_of_getElem? (List.getElem?_zip_eq_some.mpr ⟨hs, hk⟩)
    exact h _ hm
  · rintro h ⟨sig, key⟩ hm
    obtain ⟨i, hi⟩ := List.getElem?_of_mem hm
    have hh := List.getElem?_zip_eq_some.mp hi
    exact h i sig key hh.1 hh.2

theorem SolanaSdk.validateSigned_eq_ok :
    sdk.validateSigned b = .ok () ↔ ∃ tx, sdk.deserializeTransaction b = .ok tx ∧
    ¬ sdk.HasForgery tx := by
  simp only [validateSigned, ← verify_iff]
  cases sdk.deserializeTransaction b with
  | error e => simp
  | ok tx => simp

theorem SolanaSdk.fullySigned_iff {tx : Transaction} (hd : sdk.deserializeTransaction b = .ok tx)
    (hf : ¬ sdk.HasForgery tx) : sdk.FullySigned b ↔ tx.Counted := by
  constructor
  · rintro ⟨tx', hd', hlen, hall⟩
    obtain rfl : tx' = tx := Except.ok.inj (hd'.symm.trans hd)
    refine ⟨hlen, ?_⟩
    by_contra hlt
    obtain ⟨_, _, _, hk, -⟩ := hall _ (not_le.mp hlt)
    simp at hk
  · rintro ⟨hlen, hle⟩
    refine ⟨tx, hd, hlen, fun i hi => ?_⟩
    have hs := List.getElem?_eq_getElem (l := tx.signatures) (i := i) (by omega)
    have hk := List.getElem?_eq_getElem (l := tx.message.accountKeys) (i := i) (by omega)
    refine ⟨_, _, hs, hk, ?_⟩
    by_contra hv
    exact hf ⟨i, _, _, hs, hk, by simpa using hv⟩

theorem onlyFullySigned_iff :
    OnlyFullySigned sdk b ↔
      ∀ tx, sdk.deserializeTransaction b = .ok tx → tx.Counted ∨ sdk.HasForgery tx := by
  constructor
  · rintro ⟨hval, -⟩ tx hd
    by_cases hf : sdk.HasForgery tx
    · exact .inr hf
    · have hfull := hval (SolanaSdk.validateSigned_eq_ok.mpr ⟨tx, hd, hf⟩)
      exact .inl ((SolanaSdk.fullySigned_iff hd hf).mp hfull)
  · intro h
    have hval : sdk.validateSigned b = .ok () → sdk.FullySigned b := by
      intro hok
      obtain ⟨tx, hd, hf⟩ := SolanaSdk.validateSigned_eq_ok.mp hok
      exact (SolanaSdk.fullySigned_iff hd hf).mpr ((h tx hd).resolve_right hf)
    refine ⟨hval, ?_⟩
    intro ι _ l reqs es t ht hc
    exact hval (broadcast_validated ht hc).2

open Reference

def unsignedTransfer : Bytes := compactU16 0 ++ transferMessage false

theorem deserialize_unsignedTransfer :
    sampleSdk.deserializeTransaction unsignedTransfer = .ok ⟨[], transfer false⟩ := by
  have hread : deserializeTransaction (compactU16 ([] : List Bytes).length ++
      ([] : List Bytes).flatten ++
      serialize (transfer false)) = .ok ⟨[], transfer false⟩ :=
    deserialize_transaction (blockhash false) (compilable_transfer senderKey destKey 1000000)
      (by simp) (by simp)
  rw [List.length_nil, List.flatten_nil, List.append_nil] at hread
  simp only [sampleSdk, sdk, unsignedTransfer]
  exact hread

/-- It passes, although its message asks for one signature. -/
theorem unsignedTransfer_accepted :
    sampleSdk.validateSigned unsignedTransfer = .ok () ∧
    ¬ OnlyFullySigned sampleSdk unsignedTransfer := by
  have hread := deserialize_unsignedTransfer
  have hf : ¬ sampleSdk.HasForgery ⟨[], transfer false⟩ := by
    rintro ⟨i, sig, key, hs, -⟩
    simp at hs
  refine ⟨SolanaSdk.validateSigned_eq_ok.mpr ⟨_, hread, hf⟩, fun h => ?_⟩
  rcases onlyFullySigned_iff.mp h _ hread with hc | hc
  · have hsigner := (transfer_signers false senderKey).mpr rfl
    rw [Message.signers, ← hc.1] at hsigner
    cases hsigner
  · exact hf hc

end Xend
