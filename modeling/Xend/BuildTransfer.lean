import Xend.Adapter
import Xend.Solana

/-! `SolanaAdapter::build_transfer`: the two instruction layouts, the fee payer
and its signature. -/

namespace Xend

open Framing

def tokenProgramId : String := "TokenkegQfeZyiNwAJbNbGKPFXCWuBvf9Ss623VQ5DA"

def associatedTokenProgramId : String := "ATokenGPvbdGVxr1b2hvZbsiqW5xWH25efTNsLJA8knL"

def systemProgramId : String := "11111111111111111111111111111111"

structure SolanaAdapter where
  sdk : SolanaSdk
  feePayer : Option Keypair

/-- What the RPC node and the clock answer while one transfer is built. -/
structure BuildRpc where
  latestBlockhash : RpcReply
  tokenSupply : String → RpcReply
  now : Nat

def okOr {α : Type} (o : Option α) (e : AppError) : Except AppError α := o.elim (.error e) .ok

def u64TryFrom (amount : Nat) : Option Nat := if amount < 2 ^ 64 then some amount else none

def latestBlockhash (sdk : SolanaSdk) (reply : RpcReply) : Except AppError Hash := do
  let body ← reply.json
  let blockhash ← okOr (((body.field "result").field "value").field "blockhash").asStr
    (.network "rpc response missing blockhash")
  match sdk.hashFromStr blockhash with
  | .ok hash => .ok hash
  | .error e => .error (.network s!"rpc returned an invalid blockhash: {e}")

def mintDecimals (reply : RpcReply) : Except AppError UInt8 := do
  let body ← reply.json
  let decimals ← okOr (((body.field "result").field "value").field "decimals").asU64
    (.badRequest "mint not found or is not a token mint")
  if decimals < 256 then .ok (UInt8.ofNat decimals) else .error (.network "invalid mint decimals")

namespace SolanaSdk

variable (sdk : SolanaSdk)

def systemTransfer (source dest : Pubkey) (amount : Nat) : Except AppError Instruction := do
  let lamports ← okOr (u64TryFrom amount) (.badRequest "amount exceeds the maximum for SOL")
  .ok
    { programId := sdk.program systemProgramId
      accounts := [.new source true, .new dest false]
      data := littleEndian 4 2 ++ littleEndian 8 lamports }

def associatedTokenAddress (owner mint : Pubkey) : Pubkey :=
  sdk.findProgramAddress [owner.1, (sdk.program tokenProgramId).1, mint.1]
    (sdk.program associatedTokenProgramId)

def createAtaIdempotent (funder owner mint ata : Pubkey) : Instruction where
  programId := sdk.program associatedTokenProgramId
  accounts :=
    [.new funder true, .new ata false, .newReadonly owner false, .newReadonly mint false,
      .newReadonly (sdk.program systemProgramId) false,
      .newReadonly (sdk.program tokenProgramId) false]
  data := [1]

def tokenTransferChecked (source mint destination owner : Pubkey)
    (amount : Nat) (decimals : UInt8) :
    Instruction where
  programId := sdk.program tokenProgramId
  accounts :=
    [.new source false, .newReadonly mint false, .new destination false, .newReadonly owner true]
  data := 12 :: littleEndian 8 amount ++ [decimals]

end SolanaSdk

namespace SolanaAdapter

variable (adapter : SolanaAdapter)

def payer (sender : Pubkey) : Pubkey := (adapter.feePayer.map (·.pubkey)).getD sender

/-- The `instructions` of `build_transfer`. -/
def transferInstructions (rpc : BuildRpc) (intent : TransferIntent) (sender dest : Pubkey) :
    Except AppError (List Instruction) :=
  match intent.mint with
  | none => do
    let transfer ← adapter.sdk.systemTransfer sender dest intent.amount
    .ok [transfer]
  | some mint => do
    let mint ← okOr (adapter.sdk.pubkeyFromStr mint) (.badRequest "invalid mint")
    let amount ← okOr (u64TryFrom intent.amount)
        (.badRequest "amount exceeds the maximum for this token")
    let decimals ← mintDecimals (rpc.tokenSupply (adapter.sdk.pubkeyToString mint))
    let sourceAta := adapter.sdk.associatedTokenAddress sender mint
    let destAta := adapter.sdk.associatedTokenAddress dest mint
    .ok
      [adapter.sdk.createAtaIdempotent (adapter.payer sender) dest mint destAta,
        adapter.sdk.tokenTransferChecked sourceAta mint destAta sender amount decimals]

def buildTransfer (rpc : BuildRpc) (intent : TransferIntent) : Except AppError UnsignedTx := do
  let sender ← okOr (adapter.sdk.pubkeyFromStr intent.sender) (.badRequest "invalid sender address")
  let dest ← okOr (adapter.sdk.pubkeyFromStr intent.toAddress) .invalidRecipient
  let instructions ← adapter.transferInstructions rpc intent sender dest
  let blockhash ← latestBlockhash adapter.sdk rpc.latestBlockhash
  let message := adapter.sdk.newWithBlockhash instructions (adapter.payer sender) blockhash
  let messageBytes := adapter.sdk.serialize message
  .ok
    { message := messageBytes
      validUntil := rpc.now + 90
      feePayerSignature := adapter.feePayer.map (·.signMessage messageBytes) }

end SolanaAdapter

theorem okOr_eq_ok {α : Type} {o : Option α} {e : AppError} {a : α} :
    okOr o e = .ok a ↔ o = some a := by
  cases o <;> simp [okOr]

theorem u64TryFrom_eq_some {amount n : Nat} : u64TryFrom amount = some n ↔
    amount < 2 ^ 64 ∧ n = amount := by
  unfold u64TryFrom
  split <;> simp only [Option.some.injEq, reduceCtorEq, *, true_and, false_and, eq_comm]

theorem ok_eq_ok {α : Type} {a b : α} : (Except.ok a : Except AppError α) = .ok b ↔ b = a := by
  simp [eq_comm]

theorem SolanaSdk.createAtaIdempotent_asksFor {sdk : SolanaSdk}
    {funder owner mint ata key : Pubkey} :
    (sdk.createAtaIdempotent funder owner mint ata).AsksFor key ↔ funder = key := by
  simp [Instruction.AsksFor, createAtaIdempotent, AccountMeta.new, AccountMeta.newReadonly]

theorem SolanaSdk.tokenTransferChecked_asksFor {sdk : SolanaSdk}
    {source mint dest owner key : Pubkey}
    {amount : Nat} {decimals : UInt8} :
    (sdk.tokenTransferChecked source mint dest owner amount decimals).AsksFor key ↔
    owner = key := by
  simp [Instruction.AsksFor, tokenTransferChecked, AccountMeta.new, AccountMeta.newReadonly]

theorem SolanaSdk.systemTransfer_eq_ok {sdk : SolanaSdk} {source dest : Pubkey} {amount : Nat}
    {ix : Instruction} :
    sdk.systemTransfer source dest amount = .ok ix ↔ amount < 2 ^ 64 ∧ ix =
      { programId := sdk.program systemProgramId
        accounts := [.new source true, .new dest false]
        data := littleEndian 4 2 ++ littleEndian 8 amount } := by
  simp only [systemTransfer, bind_eq_ok, okOr_eq_ok, u64TryFrom_eq_some, ok_eq_ok]
  exact ⟨fun ⟨_, ⟨hlt, hn⟩, hix⟩ => ⟨hlt, hn ▸ hix⟩, fun ⟨hlt, hix⟩ => ⟨amount, ⟨hlt, rfl⟩, hix⟩⟩

namespace SolanaAdapter

variable {adapter : SolanaAdapter} {rpc : BuildRpc} {intent : TransferIntent}

/-- The instructions of an accepted intent, in either layout. -/
inductive Layout (adapter : SolanaAdapter) (intent : TransferIntent) (sender dest : Pubkey) :
    List Instruction → Prop where
  | native {transfer : Instruction} :
      intent.mint = none →
      adapter.sdk.systemTransfer sender dest intent.amount = .ok transfer →
      Layout adapter intent sender dest [transfer]
  | token {text : String} {mint : Pubkey} (decimals : UInt8) :
      intent.mint = some text → adapter.sdk.pubkeyFromStr text = some mint →
        intent.amount < 2 ^ 64 →
      Layout adapter intent sender dest
        [adapter.sdk.createAtaIdempotent (adapter.payer sender) dest mint
            (adapter.sdk.associatedTokenAddress dest mint),
          adapter.sdk.tokenTransferChecked (adapter.sdk.associatedTokenAddress sender mint) mint
            (adapter.sdk.associatedTokenAddress dest mint) sender intent.amount decimals]

theorem transferInstructions_layout {sender dest : Pubkey} {ixs : List Instruction}
    (h : adapter.transferInstructions rpc intent sender dest = .ok ixs) :
    Layout adapter intent sender dest ixs := by
  unfold transferInstructions at h
  cases hm : intent.mint with
  | none =>
    simp only [hm, bind_eq_ok, ok_eq_ok] at h
    obtain ⟨transfer, ht, rfl⟩ := h
    exact .native hm ht
  | some text =>
    simp only [hm, bind_eq_ok, okOr_eq_ok, u64TryFrom_eq_some, ok_eq_ok] at h
    obtain ⟨mint, hmint, amount, ⟨hlt, rfl⟩, decimals, -, rfl⟩ := h
    exact .token decimals hm hmint hlt

theorem buildTransfer_eq_ok {u : UnsignedTx} :
    adapter.buildTransfer rpc intent = .ok u ↔
      ∃ sender dest ixs bh, adapter.sdk.pubkeyFromStr intent.sender = some sender ∧
        adapter.sdk.pubkeyFromStr intent.toAddress = some dest ∧
        adapter.transferInstructions rpc intent sender dest = .ok ixs ∧
        latestBlockhash adapter.sdk rpc.latestBlockhash = .ok bh ∧
        u = { message := adapter.sdk.serialize
                (adapter.sdk.newWithBlockhash ixs (adapter.payer sender) bh)
              validUntil := rpc.now + 90
              feePayerSignature := adapter.feePayer.map (·.signMessage
                (adapter.sdk.serialize
                  (adapter.sdk.newWithBlockhash ixs (adapter.payer sender) bh))) } := by
  simp only [buildTransfer, bind_eq_ok, okOr_eq_ok, ok_eq_ok]
  constructor
  · rintro ⟨sender, hs, dest, hd, ixs, hi, bh, hb, rfl⟩
    exact ⟨sender, dest, ixs, bh, hs, hd, hi, hb, rfl⟩
  · rintro ⟨sender, dest, ixs, bh, hs, hd, hi, hb, rfl⟩
    exact ⟨sender, hs, dest, hd, ixs, hi, bh, hb, rfl⟩

theorem Layout.compilable {sender dest : Pubkey} {ixs : List Instruction}
    (h : Layout adapter intent sender dest ixs) (payer : Pubkey) : Compilable ixs payer := by
  cases h with
  | native _ ht =>
    obtain ⟨-, rfl⟩ := SolanaSdk.systemTransfer_eq_ok.mp ht
    simp [Compilable, Instruction.keys]
  | token decimals _ _ _ =>
    constructor
    · simp [Instruction.keys, SolanaSdk.createAtaIdempotent, SolanaSdk.tokenTransferChecked]
    simp only [List.mem_cons, List.not_mem_nil, or_false, forall_eq_or_imp, forall_eq]
    exact ⟨by simp [SolanaSdk.createAtaIdempotent], by simp [SolanaSdk.tokenTransferChecked]⟩

/-- In both layouts the sender and the payer are the only signers asked for. -/
theorem Layout.signer_iff {sender dest key : Pubkey} {ixs : List Instruction}
    (h : Layout adapter intent sender dest ixs) :
    (adapter.payer sender = key ∨ ∃ ix ∈ ixs, ix.AsksFor key) ↔
      adapter.payer sender = key ∨ sender = key := by
  cases h with
  | native _ ht =>
    obtain ⟨-, rfl⟩ := SolanaSdk.systemTransfer_eq_ok.mp ht
    simp [Instruction.AsksFor, AccountMeta.new]
  | token decimals _ _ _ =>
    simp only [List.mem_cons, List.not_mem_nil, or_false, exists_eq_or_imp, exists_eq_left,
      SolanaSdk.createAtaIdempotent_asksFor, SolanaSdk.tokenTransferChecked_asksFor, or_self_left]

end SolanaAdapter

end Xend
