import Xend.BuildTransfer

/-! What a message does with value, read back from its instructions the way the
on-chain programs parse them: positionally. -/

namespace Xend

open Framing

inductive Movement where
  | systemTransfer (source dest : Pubkey) (lamports : Nat)
  | transferChecked (source mint dest authority : Pubkey) (amount decimals : Nat)
  | createAta (funder ata owner mint : Pubkey)
  | other (programId : Pubkey)
  deriving DecidableEq

/-- The key whose signature lets the transfer take place. -/
def Movement.authority : Movement → Option Pubkey
  | .systemTransfer source _ _ => some source
  | .transferChecked _ _ _ authority _ _ => some authority
  | _ => none

def ResolvedInstruction.movement (sdk : SolanaSdk) (ix : ResolvedInstruction) : Movement :=
  if ix.programId = sdk.program systemProgramId ∧ ix.data.take 4 = littleEndian 4 2 then
    match ix.accounts with
    | source :: dest :: _ => .systemTransfer source dest (ofLittleEndian ((ix.data.drop 4).take 8))
    | _ => .other ix.programId
  else if ix.programId = sdk.program tokenProgramId ∧ ix.data.head? = some 12 then
    match ix.accounts with
    | source :: mint :: dest :: authority :: _ =>
      .transferChecked source mint dest authority (ofLittleEndian ((ix.data.drop 1).take 8))
        (ofLittleEndian ((ix.data.drop 9).take 1))
    | _ => .other ix.programId
  else if ix.programId = sdk.program associatedTokenProgramId ∧ ix.data = [1] then
    match ix.accounts with
    | funder :: ata :: owner :: mint :: _ => .createAta funder ata owner mint
    | _ => .other ix.programId
  else .other ix.programId

def Message.movements (sdk : SolanaSdk) (m : Message) : Option (List Movement) :=
  m.decompile.map fun ixs => ixs.map (·.movement sdk)

theorem SolanaSdk.systemTransfer_movement {sdk : SolanaSdk} {source dest : Pubkey} {amount : Nat}
    {ix : Instruction} (h : sdk.systemTransfer source dest amount = .ok ix) :
    ix.resolved.movement sdk = .systemTransfer source dest amount := by
  obtain ⟨hlt, rfl⟩ := SolanaSdk.systemTransfer_eq_ok.mp h
  have htake : (littleEndian 4 2 ++ littleEndian 8 amount).take 4 = littleEndian 4 2 := by simp
  have hdrop : ((littleEndian 4 2 ++ littleEndian 8 amount).drop 4).take 8 =
      littleEndian 8 amount := by
    simp [List.take_of_length_le]
  simp only [Instruction.resolved, ResolvedInstruction.movement, htake, hdrop, and_self, if_true,
    AccountMeta.new, List.map_cons, List.map_nil,
    ofLittleEndian_littleEndian (show amount < 256 ^ 8 by omega)]

theorem SolanaSdk.createAtaIdempotent_movement {sdk : SolanaSdk} {funder owner mint ata : Pubkey} :
    (sdk.createAtaIdempotent funder owner mint ata).resolved.movement sdk =
      .createAta funder ata owner mint := by
  simp [createAtaIdempotent, Instruction.resolved, ResolvedInstruction.movement, littleEndian,
    AccountMeta.new, AccountMeta.newReadonly]

theorem SolanaSdk.tokenTransferChecked_movement {sdk : SolanaSdk} {source mint dest owner : Pubkey}
    {amount : Nat} {decimals : UInt8} (h : amount < 2 ^ 64) :
    (sdk.tokenTransferChecked source mint dest owner amount decimals).resolved.movement sdk =
      .transferChecked source mint dest owner amount decimals.toNat := by
  have htake : (littleEndian 8 amount ++ [decimals]).take 8 = littleEndian 8 amount := by simp
  have hdrop : (littleEndian 8 amount ++ [decimals]).drop 8 = [decimals] := by simp
  have hne : ∀ bs, (12 : UInt8) :: bs ≠ littleEndian 4 2 := by simp [littleEndian]
  simp [tokenTransferChecked, Instruction.resolved, ResolvedInstruction.movement, hne,
    AccountMeta.new, AccountMeta.newReadonly, htake, hdrop, ofLittleEndian,
    ofLittleEndian_littleEndian (show amount < 256 ^ 8 by omega)]

namespace SolanaAdapter

variable {adapter : SolanaAdapter} {intent : TransferIntent}

/-- The movements of an accepted intent: one transfer out of the sender, after
the recipient's token account is opened at the payer's cost. -/
theorem Layout.movements {sender dest : Pubkey} {ixs : List Instruction}
    (h : Layout adapter intent sender dest ixs) :
    intent.amount < 2 ^ 64 ∧
      ((intent.mint = none ∧ ixs.map (·.resolved.movement adapter.sdk) =
          [.systemTransfer sender dest intent.amount]) ∨
        ∃ text mint decimals, intent.mint = some text ∧ adapter.sdk.pubkeyFromStr text = some mint ∧
          ixs.map (·.resolved.movement adapter.sdk) =
            [.createAta (adapter.payer sender) (adapter.sdk.associatedTokenAddress dest mint)
              dest mint, .transferChecked (adapter.sdk.associatedTokenAddress sender mint) mint
                (adapter.sdk.associatedTokenAddress dest mint) sender intent.amount decimals]) := by
  cases h with
  | native hm ht =>
    have hlt := (SolanaSdk.systemTransfer_eq_ok.mp ht).1
    exact ⟨hlt, .inl ⟨hm, by simp [SolanaSdk.systemTransfer_movement ht]⟩⟩
  | token decimals hm hmint hlt =>
    refine ⟨hlt, .inr ⟨_, _, decimals.toNat, hm, hmint, ?_⟩⟩
    simp [SolanaSdk.createAtaIdempotent_movement, SolanaSdk.tokenTransferChecked_movement hlt]

end SolanaAdapter

end Xend
