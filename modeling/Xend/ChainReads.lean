import Xend.Base64
import Xend.BuildEndpoint
import Xend.SolanaReference

/-! What the adapter reads from the chain: commitment, balances, mint decimals,
domain owners and blockhashes, each from one JSON-RPC reply. How a JSON value
prints and how the name service hashes a label are parameters. -/

namespace Xend

open Framing

inductive Commitment where
  | processed
  | confirmed
  | finalized
  | failed
  deriving DecidableEq

def nameProgramId : String := "namesLPneVptA9Z5rqUDD9tMTWEJwofgaYwp8cawRkX"

def solTldAuthority : String := "58PwtjSDuFHuUkYjH9BYnnQKHfwo9reZhC2zMJv9JPkx"

def snsHashPrefix : String := "SPL Name Service"

def u128SaturatingAdd (a b : Nat) : Nat := min (a + b) (2 ^ 128 - 1)

/-- A signature without a record is reported as processed. -/
def commitmentOf (reply : RpcReply) : Except AppError Commitment := do
  let body ← reply.json
  let value := ((body.field "result").field "value").item 0
  if value.isNull then .ok .processed
  else if (value.field "err").isNull = false then .ok .failed
  else match (value.field "confirmationStatus").asStr with
    | some "finalized" => .ok .finalized
    | some "confirmed" => .ok .confirmed
    | _ => .ok .processed

section Balances

variable (display : Json → String)

def nativeBalance (reply : RpcReply) : Except AppError Nat := do
  let body ← reply.json
  match body.get "error" with
  | some error => .error (.network s!"getBalance failed: {display error}")
  | none =>
    okOr ((body.field "result").field "value").asU64 (.network "getBalance returned no value")

def addTokenAccount (total : Nat) (account : Json) : Except AppError Nat := do
  let info := (((account.field "account").field "data").field "parsed").field "info"
  let amount ← okOr ((info.field "tokenAmount").field "amount").asStr
      (.network "token account missing amount")
  let parsed ← okOr (u128FromStr amount) (.network "token amount is not an integer")
  .ok (u128SaturatingAdd total parsed)

/-- The part of `token_balance` behind its request. -/
def tokenAccountsTotal (reply : RpcReply) : Except AppError Nat := do
  let body ← reply.json
  match body.get "error" with
  | some error => .error (.network s!"getTokenAccountsByOwner failed: {display error}")
  | none => do
    let accounts ← okOr ((body.field "result").field "value").asArray
      (.network "getTokenAccountsByOwner returned no value")
    accounts.foldlM addTokenAccount 0

end Balances

def RpcReply.snsJson : RpcReply → Except AppError Json
  | .transport e => .error (.network s!"sns rpc request failed: {e}")
  | .undecodable e => .error (.network s!"sns rpc decode failed: {e}")
  | .body j => .ok j

/-- The owner is the second field of the account data: parent, owner, class. -/
def ownerField (data : Bytes) : Option Pubkey :=
  if h : ((data.drop 32).take 32).length = 32 then some ⟨(data.drop 32).take 32, h⟩ else none

def snsDomainOwner (reply : RpcReply) : Except AppError Pubkey := do
  let body ← reply.snsJson
  let value := (body.field "result").field "value"
  if value.isNull then .error .invalidRecipient else do
  let encoded ← okOr ((value.field "data").item 0).asStr (.network "sns account has no data")
  let data ← okOr (Base64.decode encoded) (.network "sns account data is not base64")
  okOr (ownerField data) (.network "sns account data is too short")

structure ReadRpc where
  signatureStatuses : String → RpcReply
  balance : String → RpcReply
  tokenAccountsByOwner : String → String → RpcReply
  accountInfo : String → RpcReply

section Operations

variable (sdk : SolanaSdk)

def status (rpc : ReadRpc) (signature : String) : Except AppError Commitment :=
  commitmentOf (rpc.signatureStatuses signature)

def tokenBalance (display : Json → String) (rpc : ReadRpc) (owner mint : String) :
    Except AppError Nat := do
  let _ ← okOr (sdk.pubkeyFromStr mint) (.badRequest "invalid mint")
  tokenAccountsTotal display (rpc.tokenAccountsByOwner owner mint)

def balance (display : Json → String) (rpc : ReadRpc) (address : String) (mint : Option String) :
    Except AppError Nat := do
  let _ ← okOr (sdk.pubkeyFromStr address) (.badRequest "invalid address")
  match mint with
  | none => nativeBalance display (rpc.balance address)
  | some mint => tokenBalance sdk display rpc address mint

def solDomainKey (hashv : List Bytes → Hash) (label : String) : Pubkey :=
  let hashed := hashv [utf8 snsHashPrefix, utf8 label]
  sdk.findProgramAddress [hashed.1, (default : Pubkey).1, (sdk.program solTldAuthority).1]
    (sdk.program nameProgramId)

/-- The one label in front of `.sol`. -/
def solLabel (name : String) : Option String :=
  if ".sol".toList.isSuffixOf name.toList then
    let label := name.toList.take (name.toList.length - 4)
    if label.isEmpty || label.contains '.' then none else some (String.ofList label)
  else none

def resolveName (hashv : List Bytes → Hash) (rpc : ReadRpc) (name : String) :
    Except AppError String := do
  let label ← okOr (solLabel name) .invalidRecipient
  let owner ← snsDomainOwner (rpc.accountInfo (sdk.pubkeyToString (solDomainKey sdk hashv label)))
  .ok (sdk.pubkeyToString owner)

end Operations

/-- The six places where the adapter interprets a reply as a fact. -/
inductive Read where
  | status
  | nativeBalance
  | tokenBalance
  | mintDecimals
  | snsDomainOwner
  | latestBlockhash
  deriving DecidableEq

abbrev Read.Fact : Read → Type
  | status => Commitment
  | nativeBalance => Nat
  | tokenBalance => Nat
  | mintDecimals => UInt8
  | snsDomainOwner => Pubkey
  | latestBlockhash => Hash

def Read.interpret (sdk : SolanaSdk) (display : Json → String) (reply : RpcReply) : (read : Read) →
    Except AppError read.Fact
  | status => commitmentOf reply
  | nativeBalance => Xend.nativeBalance display reply
  | tokenBalance => tokenAccountsTotal display reply
  | mintDecimals => Xend.mintDecimals reply
  | snsDomainOwner => Xend.snsDomainOwner reply
  | latestBlockhash => Xend.latestBlockhash sdk reply

/-- A JSON-RPC failure: an `error` member and no `result`. -/
def RpcReply.IsFailure (reply : RpcReply) : Prop :=
  ∃ body error, reply = .body body ∧ body.get "error" = some error ∧ body.get "result" = none

def Read.Reports (sdk : SolanaSdk) (display : Json → String) (read : Read)
    (reply : RpcReply) : Prop :=
  ∃ detail, read.interpret sdk display reply = .error (.network detail)

/-- The reads whose code looks at the `error` member, or has nothing to fall back on. -/
def Read.Guarded : Read → Prop
  | nativeBalance | tokenBalance | latestBlockhash => True
  | status | mintDecimals | snsDomainOwner => False

@[simp] theorem Json.field_null (key : String) : Json.null.field key = .null := rfl

@[simp] theorem Json.item_null (i : Nat) : Json.null.item i = .null := rfl

section Failures

variable {body : Json}

theorem Json.field_of_get_none {key : String} (h : body.get key = none) :
    body.field key = .null := by
  rw [field, h]
  rfl

theorem commitmentOf_failure (h : body.get "result" = none) :
    commitmentOf (.body body) = .ok .processed := by
  have hresult := Json.field_of_get_none h
  simp only [commitmentOf, RpcReply.json, bind, Except.bind, hresult,
    Json.field_null, Json.item_null]
  rfl

theorem mintDecimals_failure (h : body.get "result" = none) :
    mintDecimals (.body body) = .error (.badRequest "mint not found or is not a token mint") := by
  have hresult := Json.field_of_get_none h
  simp only [mintDecimals, RpcReply.json, bind, Except.bind, hresult, Json.field_null]
  rfl

theorem snsDomainOwner_failure (h : body.get "result" = none) :
    snsDomainOwner (.body body) = .error .invalidRecipient := by
  have hresult := Json.field_of_get_none h
  simp only [snsDomainOwner, RpcReply.snsJson, bind, Except.bind, hresult, Json.field_null]
  rfl

theorem latestBlockhash_failure (sdk : SolanaSdk) (h : body.get "result" = none) :
    latestBlockhash sdk (.body body) = .error (.network "rpc response missing blockhash") := by
  have hresult := Json.field_of_get_none h
  simp only [latestBlockhash, RpcReply.json, bind, Except.bind, hresult, Json.field_null]
  rfl

theorem nativeBalance_failure (display : Json → String) {error : Json}
    (h : body.get "error" = some error) :
    nativeBalance display (.body body) =
      .error (.network s!"getBalance failed: {display error}") := by
  simp only [nativeBalance, RpcReply.json, bind, Except.bind, h]

theorem tokenAccountsTotal_failure (display : Json → String) {error : Json}
    (h : body.get "error" = some error) :
    tokenAccountsTotal display (.body body) =
      .error (.network s!"getTokenAccountsByOwner failed: {display error}") := by
  simp only [tokenAccountsTotal, RpcReply.json, bind, Except.bind, h]

/-- A well-formed name is declared unregistered by any failure of the lookup. -/
theorem resolveName_of_failure {sdk : SolanaSdk} {hashv : List Bytes → Hash} {rpc : ReadRpc}
    {name label : String}
    (hlabel : solLabel name = some label)
    (h : (rpc.accountInfo (sdk.pubkeyToString (solDomainKey sdk hashv label))).IsFailure) :
    resolveName sdk hashv rpc name = .error .invalidRecipient := by
  obtain ⟨body, error, hreply, -, hresult⟩ := h
  simp only [resolveName, hlabel, okOr, Option.elim_some, bind, Except.bind, hreply,
    snsDomainOwner_failure hresult]

/-- A token transfer is refused as one of an unknown mint by any failure of the supply lookup. -/
theorem buildTransfer_of_failure {adapter : SolanaAdapter} {rpc : BuildRpc}
    {intent : TransferIntent} {text : String}
    {sender dest mint : Pubkey} (hsender : adapter.sdk.pubkeyFromStr intent.sender = some sender)
    (hdest : adapter.sdk.pubkeyFromStr intent.toAddress = some dest)
    (hmint : intent.mint = some text)
    (hparse : adapter.sdk.pubkeyFromStr text = some mint) (hamount : intent.amount < 2 ^ 64)
    (h : (rpc.tokenSupply (adapter.sdk.pubkeyToString mint)).IsFailure) :
    adapter.buildTransfer rpc intent =
      .error (.badRequest "mint not found or is not a token mint") := by
  obtain ⟨body, error, hreply, -, hresult⟩ := h
  simp only [SolanaAdapter.buildTransfer, SolanaAdapter.transferInstructions, hsender, hdest,
    hmint, hparse, okOr, u64TryFrom, hamount, if_true, Option.elim_some, bind, Except.bind, hreply,
    mintDecimals_failure hresult]

end Failures

/-- A failed call is reported as one exactly by the guarded reads. -/
theorem reports_iff_guarded {sdk : SolanaSdk} {display : Json → String}
    {read : Read} {reply : RpcReply}
    (h : reply.IsFailure) : read.Reports sdk display reply ↔ read.Guarded := by
  obtain ⟨body, error, rfl, herror, hresult⟩ := h
  cases read with
  | status =>
    refine iff_of_false ?_ id
    rintro ⟨detail, hdetail⟩
    cases (commitmentOf_failure hresult).symm.trans hdetail
  | nativeBalance => exact iff_of_true ⟨_, nativeBalance_failure display herror⟩ trivial
  | tokenBalance => exact iff_of_true ⟨_, tokenAccountsTotal_failure display herror⟩ trivial
  | mintDecimals =>
    refine iff_of_false ?_ id
    rintro ⟨detail, hdetail⟩
    cases (mintDecimals_failure hresult).symm.trans hdetail
  | snsDomainOwner =>
    refine iff_of_false ?_ id
    rintro ⟨detail, hdetail⟩
    cases (snsDomainOwner_failure hresult).symm.trans hdetail
  | latestBlockhash => exact iff_of_true ⟨_, latestBlockhash_failure sdk hresult⟩ trivial

open Reference

def tooManyRequests : RpcReply :=
  .body (.obj [("jsonrpc", .str "2.0"),
    ("error", .obj [("code", .int 429), ("message", .str "Too many requests")]), ("id", .int 1)])

theorem tooManyRequests_isFailure : tooManyRequests.IsFailure := ⟨_, _, rfl, rfl, rfl⟩

theorem reports_iff_guarded_balance :
    Read.Reports sampleSdk (fun _ => "Too many requests") .nativeBalance tooManyRequests ↔
    Read.Guarded .nativeBalance :=
  reports_iff_guarded tooManyRequests_isFailure

/-- Refused, the status of any signature is still reported as processed. -/
theorem refusal_reported_processed :
    commitmentOf tooManyRequests = .ok .processed ∧
      ¬ ∀ (read : Read) (reply : RpcReply), reply.IsFailure →
      read.Reports sampleSdk (fun _ => "Too many requests") reply := by
  refine ⟨rfl, fun h => ?_⟩
  obtain ⟨detail, hdetail⟩ := h .status tooManyRequests tooManyRequests_isFailure
  cases hdetail

end Xend
