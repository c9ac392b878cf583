import Xend.Movement
import Xend.SolanaReference

/-! What the paymaster's co-signature on a built transfer can authorize. -/

namespace Xend

open Framing

/-- The message needs a second signer, and moves nothing on the authority of `k`. -/
def Message.PaymasterSafe (sdk : SolanaSdk) (k : Pubkey) (m : Message) : Prop :=
  (∃ s ∈ m.signers, s ≠ k) ∧ ∃ ms, m.movements sdk = some ms ∧ ∀ mv ∈ ms, mv.authority ≠ some k

def SponsorSafe (sdk : SolanaSdk) (k : Keypair) (rpc : BuildRpc) (intent : TransferIntent) : Prop :=
  ∀ u sig, (SolanaAdapter.mk sdk (some k)).buildTransfer rpc intent = .ok u →
    u.feePayerSignature = some sig →
    sig = k.signMessage u.message ∧
      ∃ m, sdk.deserializeMessage u.message = some m ∧ m.PaymasterSafe sdk k.pubkey

/-- Everything but the sender's address is in order, and the RPC reads succeed. -/
structure Buildable (sdk : SolanaSdk) (rpc : BuildRpc) (intent : TransferIntent) : Prop where
  dest : ∃ dest, sdk.pubkeyFromStr intent.toAddress = some dest
  amount : intent.amount < 2 ^ 64
  mint : ∀ text, intent.mint = some text → ∃ mint decimals, sdk.pubkeyFromStr text = some mint ∧
    mintDecimals (rpc.tokenSupply (sdk.pubkeyToString mint)) = .ok decimals
  blockhash : ∃ bh, latestBlockhash sdk rpc.latestBlockhash = .ok bh

namespace SolanaAdapter

variable {adapter : SolanaAdapter} {rpc : BuildRpc} {intent : TransferIntent}

theorem transferInstructions_isOk {sender dest : Pubkey} :
    (∃ ixs, adapter.transferInstructions rpc intent sender dest = .ok ixs) ↔
      intent.amount < 2 ^ 64 ∧ ∀ text, intent.mint = some text →
        ∃ mint decimals, adapter.sdk.pubkeyFromStr text = some mint ∧
          mintDecimals (rpc.tokenSupply (adapter.sdk.pubkeyToString mint)) = .ok decimals := by
  cases hm : intent.mint with
  | none =>
    simp only [transferInstructions, hm, bind_eq_ok, SolanaSdk.systemTransfer_eq_ok, ok_eq_ok]
    exact ⟨fun ⟨_, _, ⟨hlt, _⟩, _⟩ => ⟨hlt, by simp⟩, fun h => ⟨_, _, ⟨h.1, rfl⟩, rfl⟩⟩
  | some text =>
    simp only [transferInstructions, hm, bind_eq_ok, okOr_eq_ok, u64TryFrom_eq_some, ok_eq_ok,
      Option.some.injEq, forall_eq']
    constructor
    · rintro ⟨_, mint, hmint, _, ⟨hlt, -⟩, decimals, hdec, -⟩
      exact ⟨hlt, mint, decimals, hmint, hdec⟩
    · rintro ⟨hlt, mint, decimals, hmint, hdec⟩
      exact ⟨_, mint, hmint, _, ⟨hlt, rfl⟩, decimals, hdec, rfl⟩

theorem buildTransfer_isOk :
    (∃ u, adapter.buildTransfer rpc intent = .ok u) ↔
      (∃ sender, adapter.sdk.pubkeyFromStr intent.sender = some sender) ∧
        Buildable adapter.sdk rpc intent := by
  simp only [buildTransfer_eq_ok]
  constructor
  · rintro ⟨u, sender, dest, ixs, bh, hs, hd, hi, hb, -⟩
    have hh := transferInstructions_isOk.mp ⟨ixs, hi⟩
    exact ⟨⟨sender, hs⟩, ⟨⟨dest, hd⟩, hh.1, hh.2, ⟨bh, hb⟩⟩⟩
  · rintro ⟨⟨sender, hs⟩, ⟨⟨dest, hd⟩, hlt, hmint, ⟨bh, hb⟩⟩⟩
    obtain ⟨ixs, hi⟩ := transferInstructions_isOk.mpr ⟨hlt, hmint⟩
    exact ⟨_, sender, dest, ixs, bh, hs, hd, hi, hb, rfl⟩

theorem buildTransfer_message {u : UnsignedTx} (hdoc : adapter.sdk.Documented)
    (h : adapter.buildTransfer rpc intent = .ok u) :
    ∃ sender dest m ixs, adapter.sdk.pubkeyFromStr intent.sender = some sender ∧
      adapter.sdk.pubkeyFromStr intent.toAddress = some dest ∧
      adapter.sdk.deserializeMessage u.message = some m ∧ Layout adapter intent sender dest ixs ∧
      (∀ key, key ∈ m.signers ↔ adapter.payer sender = key ∨ sender = key) ∧
      m.movements adapter.sdk = some (ixs.map (·.resolved.movement adapter.sdk)) := by
  obtain ⟨sender, dest, ixs, bh, hs, hd, hi, -, rfl⟩ := buildTransfer_eq_ok.mp h
  have hl := transferInstructions_layout hi
  have hc := hl.compilable (adapter.payer sender)
  refine ⟨sender, dest, _, ixs, hs, hd, hdoc.deserialize_serialize _ _ bh hc, hl, fun key => ?_, ?_⟩
  · exact (hdoc.mem_signers _ _ bh key hc).trans hl.signer_iff
  · simp [Message.movements, hdoc.decompile _ _ bh hc]

end SolanaAdapter

variable {sdk : SolanaSdk} {k : Keypair} {rpc : BuildRpc} {intent : TransferIntent}

theorem authority_of_layout {adapter : SolanaAdapter} {sender dest : Pubkey}
    {ixs : List Instruction}
    (h : adapter.Layout intent sender dest ixs) :
    ∀ mv ∈ ixs.map (·.resolved.movement adapter.sdk), mv.authority = none ∨
    mv.authority = some sender := by
  obtain ⟨-, ⟨-, hm⟩ | ⟨_, _, _, -, -, hm⟩⟩ := h.movements <;> rw [hm] <;> simp [Movement.authority]

theorem sponsorSafe_of_sender_ne (hdoc : sdk.Documented)
    (hne : sdk.pubkeyFromStr intent.sender ≠ some k.pubkey) : SponsorSafe sdk k rpc intent := by
  intro u sig hu hsig
  obtain ⟨sender, dest, m, ixs, hs, -, hm, hl, hsigners, hmoves⟩ :=
    SolanaAdapter.buildTransfer_message hdoc hu
  have hsk : sender ≠ k.pubkey := fun he => hne (he ▸ hs)
  obtain ⟨_, _, _, _, -, -, -, -, rfl⟩ := SolanaAdapter.buildTransfer_eq_ok.mp hu
  refine ⟨by simpa using hsig.symm, m, hm, ⟨sender, (hsigners sender).mpr (.inr rfl), hsk⟩, _,
    hmoves, ?_⟩
  intro mv hmv
  rcases authority_of_layout hl mv hmv with ha | ha
  · simp [ha]
  · simpa [ha] using hsk

/-- A sender that is the paymaster itself gets a fully signed transfer. -/
theorem not_sponsorSafe_of_sender_eq (hdoc : sdk.Documented)
    (heq : sdk.pubkeyFromStr intent.sender = some k.pubkey) (hb : Buildable sdk rpc intent) :
    ¬ SponsorSafe sdk k rpc intent := by
  intro hsafe
  obtain ⟨u, hu⟩ : ∃ u, (SolanaAdapter.mk sdk (some k)).buildTransfer rpc intent = .ok u :=
    SolanaAdapter.buildTransfer_isOk.mpr ⟨⟨_, heq⟩, hb⟩
  obtain ⟨sender, dest, m, ixs, hs, -, hm, -, hsigners, -⟩ :=
    SolanaAdapter.buildTransfer_message hdoc hu
  have hsk : sender = k.pubkey := Option.some.inj (hs.symm.trans heq)
  obtain ⟨_, _, _, _, -, -, -, -, hu'⟩ := SolanaAdapter.buildTransfer_eq_ok.mp hu
  obtain ⟨-, m', hm', ⟨s, hsm, hsne⟩, -⟩ := hsafe u _ hu (by rw [hu']; rfl)
  obtain rfl : m' = m := Option.some.inj (hm'.symm.trans hm)
  have hpayer : SolanaAdapter.payer ⟨sdk, some k⟩ sender = k.pubkey := rfl
  rcases (hsigners s).mp hsm with h | h
  · exact hsne (h.symm.trans hpayer)
  · exact hsne (h.symm.trans hsk)

theorem sponsorSafe_iff (hdoc : sdk.Documented) :
    SponsorSafe sdk k rpc intent ↔
      ¬ (sdk.pubkeyFromStr intent.sender = some k.pubkey ∧ Buildable sdk rpc intent) := by
  constructor
  · exact fun hsafe h => not_sponsorSafe_of_sender_eq hdoc h.1 h.2 hsafe
  · intro h
    by_cases heq : sdk.pubkeyFromStr intent.sender = some k.pubkey
    · intro u sig hu
      exact absurd ⟨heq, (SolanaAdapter.buildTransfer_isOk.mp ⟨u, hu⟩).2⟩ h
    · exact sponsorSafe_of_sender_ne hdoc heq

open Reference

theorem sampleSdk_documented : sampleSdk.Documented := documented _ _

theorem transferIntent_buildable (rebuilt : Bool) :
    Buildable sampleSdk (buildRpc rebuilt) transferIntent where
  dest := ⟨destKey, keyFromStr_dest⟩
  amount := by decide
  mint := by simp [transferIntent]
  blockhash := ⟨blockhash rebuilt, by cases rebuilt <;> rfl⟩

theorem sponsorSafe_iff_sample :
    SponsorSafe sampleSdk senderKeypair (buildRpc true) transferIntent ↔
      ¬ (sampleSdk.pubkeyFromStr transferIntent.sender = some senderKey ∧
        Buildable sampleSdk (buildRpc true) transferIntent) :=
  sponsorSafe_iff sampleSdk_documented

/-- A build request that names the paymaster as its sender. -/
theorem paymaster_drained :
    sampleSdk.Documented ∧ ¬ SponsorSafe sampleSdk senderKeypair (buildRpc false) transferIntent :=
  ⟨sampleSdk_documented, not_sponsorSafe_of_sender_eq sampleSdk_documented keyFromStr_sender
    (transferIntent_buildable false)⟩

end Xend
