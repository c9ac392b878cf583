import Xend.Framing

/-! The part of `solana-sdk` the adapter is written against. Its data types are
given here; its functions are parameters, with their documented behavior. -/

namespace Xend

open Framing

abbrev Pubkey := {b : Bytes // b.length = 32}

abbrev Hash := {b : Bytes // b.length = 32}

instance : Inhabited Pubkey := ⟨⟨List.replicate 32 0, by simp⟩⟩

structure AccountMeta where
  pubkey : Pubkey
  isSigner : Bool
  isWritable : Bool
  deriving DecidableEq

def AccountMeta.new (pubkey : Pubkey) (isSigner : Bool) : AccountMeta := ⟨pubkey, isSigner, true⟩

def AccountMeta.newReadonly (pubkey : Pubkey) (isSigner : Bool) : AccountMeta :=
  ⟨pubkey, isSigner, false⟩

structure Instruction where
  programId : Pubkey
  accounts : List AccountMeta
  data : Bytes
  deriving DecidableEq

structure MessageHeader where
  numRequiredSignatures : UInt8
  numReadonlySignedAccounts : UInt8
  numReadonlyUnsignedAccounts : UInt8
  deriving DecidableEq

structure CompiledInstruction where
  programIdIndex : UInt8
  accounts : List UInt8
  data : Bytes
  deriving DecidableEq

structure Message where
  header : MessageHeader
  accountKeys : List Pubkey
  recentBlockhash : Hash
  instructions : List CompiledInstruction
  deriving DecidableEq

structure Transaction where
  signatures : List Bytes
  message : Message
  deriving DecidableEq

/-- An instruction with its account indexes resolved and its flags forgotten. -/
structure ResolvedInstruction where
  programId : Pubkey
  accounts : List Pubkey
  data : Bytes
  deriving DecidableEq

def Message.signers (m : Message) : List Pubkey :=
  m.accountKeys.take m.header.numRequiredSignatures.toNat

def Message.resolve (m : Message) (ix : CompiledInstruction) : Option ResolvedInstruction := do
  let programId ← m.accountKeys[ix.programIdIndex.toNat]?
  let accounts ← ix.accounts.mapM fun i => m.accountKeys[i.toNat]?
  some ⟨programId, accounts, ix.data⟩

def Message.decompile (m : Message) : Option (List ResolvedInstruction) :=
  m.instructions.mapM m.resolve

def Instruction.resolved (ix : Instruction) : ResolvedInstruction :=
  ⟨ix.programId, ix.accounts.map (·.pubkey), ix.data⟩

def Instruction.keys (ix : Instruction) : List Pubkey := ix.programId :: ix.accounts.map (·.pubkey)

def Instruction.AsksFor (ix : Instruction) (key : Pubkey) : Prop :=
  ∃ a ∈ ix.accounts, a.pubkey = key ∧ a.isSigner = true

/-- Within the limits of the wire format, so that compiling cannot overflow. -/
def Compilable (instructions : List Instruction) (payer : Pubkey) : Prop :=
  (payer :: instructions.flatMap Instruction.keys).length < 256 ∧
    ∀ ix ∈ instructions, ix.data.length < 0x10000

structure SolanaSdk where
  pubkeyFromStr : String → Option Pubkey
  hashFromStr : String → Except String Hash
  pubkeyToString : Pubkey → String
  findProgramAddress : List Bytes → Pubkey → Pubkey
  newWithBlockhash : List Instruction → Pubkey → Hash → Message
  serialize : Message → Bytes
  deserializeMessage : Bytes → Option Message
  deserializeTransaction : Bytes → Except String Transaction
  verifySignature : Bytes → Pubkey → Bytes → Bool

structure Keypair where
  pubkey : Pubkey
  signMessage : Bytes → Bytes

namespace SolanaSdk

/-- Accounts are deduplicated with their flags joined, the payer first and a
signer, and a compiled message reads back as it was. -/
structure Documented (sdk : SolanaSdk) : Prop where
  nodup : ∀ ixs payer bh, Compilable ixs payer →
    (sdk.newWithBlockhash ixs payer bh).accountKeys.Nodup
  payer_first : ∀ ixs payer bh, Compilable ixs payer →
    (sdk.newWithBlockhash ixs payer bh).signers.head? = some payer
  mem_signers : ∀ ixs payer bh key, Compilable ixs payer →
    (key ∈ (sdk.newWithBlockhash ixs payer bh).signers ↔
      payer = key ∨ ∃ ix ∈ ixs, ix.AsksFor key)
  decompile : ∀ ixs payer bh, Compilable ixs payer →
    (sdk.newWithBlockhash ixs payer bh).decompile = some (ixs.map Instruction.resolved)
  deserialize_serialize : ∀ ixs payer bh, Compilable ixs payer →
    sdk.deserializeMessage (sdk.serialize (sdk.newWithBlockhash ixs payer bh)) =
      some (sdk.newWithBlockhash ixs payer bh)

/-- The signers are among the account keys, and a transaction reads back from its
signatures, behind their number, and its message. -/
structure WireFormat (sdk : SolanaSdk) : Prop where
  required_le : ∀ ixs payer bh, Compilable ixs payer →
    (sdk.newWithBlockhash ixs payer bh).header.numRequiredSignatures.toNat ≤
      (sdk.newWithBlockhash ixs payer bh).accountKeys.length
  deserialize_transaction : ∀ ixs payer bh (signatures : List Bytes), Compilable ixs payer →
    signatures.length < 0x10000 → (∀ s ∈ signatures, s.length = 64) →
    sdk.deserializeTransaction (compactU16 signatures.length ++ signatures.flatten ++
        sdk.serialize (sdk.newWithBlockhash ixs payer bh)) =
      .ok ⟨signatures, sdk.newWithBlockhash ixs payer bh⟩

/-- `Transaction::verify`: the signatures present are paired with the account
keys in order, and every pair has to verify. -/
def verify (sdk : SolanaSdk) (tx : Transaction) : Bool :=
  (tx.signatures.zip tx.message.accountKeys).all fun p =>
    sdk.verifySignature p.1 p.2 (sdk.serialize tx.message)

/-- `Pubkey::from_str(id).expect(..)` on the built-in ids, which all parse. -/
def program (sdk : SolanaSdk) (id : String) : Pubkey := (sdk.pubkeyFromStr id).getD default

end SolanaSdk

end Xend
