import Mathlib.Data.List.Infix
import Xend.Base64
import Xend.BuildTransfer
import Xend.Interleaving
import Xend.Ledger

/-! `POST /v1/tx/submit`: look the key up, claim it, validate, broadcast and
record, one call to the database or the RPC node at a time. -/

namespace Xend

open Framing Interaction

/-- The bytes must parse, and the signatures present must verify. -/
def SolanaSdk.validateSigned (sdk : SolanaSdk) (signed : Bytes) : Except AppError Unit :=
  match sdk.deserializeTransaction signed with
  | .error e => .error (.badRequest s!"malformed signed transaction: {e}")
  | .ok tx =>
    if sdk.verify tx then .ok ()
      else .error (.badRequest "transaction signature verification failed")

def containsText (s t : String) : Bool := decide (t.toList <:+: s.toList)

def mapSendError (error : Json) : AppError :=
  let message := (error.field "message").asStr.getD "transaction rejected"
  let lower := message.toLower
  if containsText lower "blockhash not found" || containsText lower "block height exceeded" then
    .blockhashExpired
  else if containsText lower "insufficient" then .insufficientFunds
  else .chainRejected message

def broadcastResult (reply : RpcReply) : Except AppError String := do
  let body ← reply.json
  match body.get "error" with
  | some error => .error (mapSendError error)
  | none => okOr (body.field "result").asStr (.network "sendTransaction returned no signature")

structure SubmitRequest where
  signed : String
  idempotencyKey : String
  pubkey : Option String
  toAddress : Option String
  amount : Option String
  mint : Option String

structure SubmitResponse where
  signature : String
  status : String
  deriving DecidableEq

inductive Call where
  | findByIdempotency (idempotencyKey : String)
  | findIdByPubkey (pubkey : String)
  | insertPending (walletId : Option Nat) (idempotencyKey : String)
    (toAddress amount mint : Option String)
  | broadcast (signed : Bytes)
  | markSubmitted (idempotencyKey signature : String)
  | upsert (pubkey : String)
  | listForWallet (walletId limit : Nat) (before : Option Int)
  deriving DecidableEq

abbrev Call.Value : Call → Type
  | .findByIdempotency _ => Option Existing
  | .findIdByPubkey _ => Option Nat
  | .insertPending .. => Unit
  | .broadcast _ => String
  | .markSubmitted .. => Unit
  | .upsert _ => Nat
  | .listForWallet .. => List Record

/-- A failed query; its effect may have been applied all the same. -/
structure Outage where
  detail : String
  applied : Bool

/-- What the database, the clock and the network do at one call. The network
accepts a transaction or not, whatever the reply that reaches the backend. -/
structure Verdict where
  outage : Option Outage
  now : Nat
  accepted : Bool
  reply : RpcReply

abbrev Call.Reply (c : Call) : Type := Except AppError c.Value

def Ledger.serve (l : Ledger) (v : Verdict) : (c : Call) → Ledger × c.Reply
  | .findByIdempotency key => (l, .ok (l.findByIdempotency key))
  | .findIdByPubkey pubkey => (l, .ok (l.findIdByPubkey pubkey))
  | .insertPending walletId key toAddress amount mint =>
    (l.insertPending walletId key toAddress amount mint v.now, .ok ())
  | .broadcast _ => (l, broadcastResult v.reply)
  | .markSubmitted key signature =>
    match l.markSubmitted key signature v.now with
    | .ok l' => (l', .ok ())
    | .error e => (l, .error e)
  | .upsert pubkey => ((l.upsert pubkey).1, .ok (l.upsert pubkey).2)
  | .listForWallet walletId limit before => (l, .ok (l.listForWallet walletId limit before))

def Call.isBroadcast : Call → Bool
  | .broadcast _ => true
  | _ => false

def Ledger.execute (l : Ledger) (c : Call) (v : Verdict) : Ledger × c.Reply :=
  match if c.isBroadcast then none else v.outage with
  | none => l.serve v c
  | some o => (if o.applied then (l.serve v c).1 else l, .error (.database o.detail))

abbrev Handler := Fallible Call Call.Value AppError

abbrev query (c : Call) : Handler c.Value := ask c

section Handlers

variable (sdk : SolanaSdk) (req : SubmitRequest) (signed : Bytes)

def record (signature : String) : Handler SubmitResponse := do
  query (.markSubmitted req.idempotencyKey signature)
  return ⟨signature, "submitted"⟩

def relay : Handler SubmitResponse := do
  attempt (sdk.validateSigned signed)
  let signature ← query (.broadcast signed)
  record req signature

def claim (walletId : Option Nat) : Handler SubmitResponse := do
  query (.insertPending walletId req.idempotencyKey req.toAddress req.amount req.mint)
  relay sdk req signed

def lookUp : Handler SubmitResponse := do
  match ← query (.findByIdempotency req.idempotencyKey) with
  | some ⟨some signature, status⟩ => return ⟨signature, status⟩
  | some ⟨none, _⟩ => relay sdk req signed
  | none =>
    match req.pubkey with
    | some pubkey => do
      let walletId ← query (.findIdByPubkey pubkey)
      claim sdk req signed walletId
    | none => claim sdk req signed none

def submit : Handler SubmitResponse := do
  let signed ← attempt
      (okOr (Base64.decode req.signed) (.badRequest "signed transaction is not valid base64"))
  lookUp sdk req signed

end Handlers

/-- Where a handler stands: the call it makes next, or its answer. -/
inductive Phase where
  | lookup
  | findWallet (pubkey : String)
  | insert (walletId : Option Nat)
  | send
  | mark (signature : String)
  | answered (r : Except AppError SubmitResponse)

namespace Phase

variable (sdk : SolanaSdk) (req : SubmitRequest) (signed : Bytes)

def validated : Phase :=
  match sdk.validateSigned signed with
  | .ok _ => send
  | .error e => answered (.error e)

def afterLookup : Except AppError (Option Existing) → Phase
  | .error e => answered (.error e)
  | .ok (some ⟨some signature, status⟩) => answered (.ok ⟨signature, status⟩)
  | .ok (some ⟨none, _⟩) => validated sdk signed
  | .ok none =>
    match req.pubkey with
    | some pubkey => findWallet pubkey
    | none => insert none

def afterFindWallet : Except AppError (Option Nat) → Phase
  | .error e => answered (.error e)
  | .ok walletId => insert walletId

def afterInsert : Except AppError Unit → Phase
  | .error e => answered (.error e)
  | .ok _ => validated sdk signed

def afterSend : Except AppError String → Phase
  | .error e => answered (.error e)
  | .ok signature => mark signature

def afterMark (signature : String) : Except AppError Unit → Phase
  | .error e => answered (.error e)
  | .ok _ => answered (.ok ⟨signature, "submitted"⟩)

def resume : Phase → Prog Call Call.Reply (Except AppError SubmitResponse)
  | lookup => (lookUp sdk req signed).run
  | findWallet pubkey => .call (.findIdByPubkey pubkey) (proceed (claim sdk req signed))
  | insert walletId => (claim sdk req signed walletId).run
  | send => .call (.broadcast signed) (proceed (record req))
  | mark signature => (record req signature).run
  | answered r => .done r

variable {sdk req signed}

@[simp] theorem resume_answered (r : Except AppError SubmitResponse) :
    (answered r).resume sdk req signed = .done r := rfl

theorem run_relay : (relay sdk req signed).run = (validated sdk signed).resume sdk req signed := by
  rw [relay, run_attempt_bind, validated]
  cases sdk.validateSigned signed with
  | error e => rfl
  | ok _ => exact run_ask_bind _ _

theorem resume_lookup : lookup.resume sdk req signed =
    .call (.findByIdempotency req.idempotencyKey) fun r =>
      (afterLookup sdk req signed r).resume sdk req signed := by
  rw [resume, lookUp, run_ask_bind]
  refine congrArg (Prog.call _) (funext fun r => ?_)
  rcases r with e | _ | ⟨_ | s, status⟩
  · rfl
  · simp only [proceed, afterLookup]
    cases req.pubkey with
    | none => rfl
    | some pubkey => exact run_ask_bind _ _
  · exact run_relay
  · rfl

theorem resume_findWallet (pubkey : String) : (findWallet pubkey).resume sdk req signed =
    .call (.findIdByPubkey pubkey) fun r => (afterFindWallet r).resume sdk req signed := by
  refine congrArg (Prog.call _) (funext fun r => ?_)
  cases r <;> rfl

theorem resume_insert (walletId : Option Nat) : (insert walletId).resume sdk req signed =
    .call (.insertPending walletId req.idempotencyKey req.toAddress req.amount req.mint)
      fun r => (afterInsert sdk signed r).resume sdk req signed := by
  rw [resume, claim, run_ask_bind]
  refine congrArg (Prog.call _) (funext fun r => ?_)
  cases r with
  | error e => rfl
  | ok _ => exact run_relay

theorem resume_send : send.resume sdk req signed =
    .call (.broadcast signed) fun r => (afterSend r).resume sdk req signed := by
  refine congrArg (Prog.call _) (funext fun r => ?_)
  cases r <;> rfl

theorem resume_mark (signature : String) : (mark signature).resume sdk req signed =
    .call (.markSubmitted req.idempotencyKey signature) fun r =>
      (afterMark signature r).resume sdk req signed := by
  rw [resume, record, run_ask_bind]
  refine congrArg (Prog.call _) (funext fun r => ?_)
  cases r <;> rfl

end Phase

/-- The bytes a request carries; none of its calls are made when they do not decode. -/
def SubmitRequest.payload (req : SubmitRequest) : Bytes := (Base64.decode req.signed).getD []

def SubmitRequest.begin (req : SubmitRequest) : Phase :=
  if (Base64.decode req.signed).isSome then .lookup
  else .answered (.error (.badRequest "signed transaction is not valid base64"))

theorem run_submit (sdk : SolanaSdk) (req : SubmitRequest) :
    (submit sdk req).run = req.begin.resume sdk req req.payload := by
  rw [submit, run_attempt_bind, SubmitRequest.begin, SubmitRequest.payload]
  cases Base64.decode req.signed <;> rfl

/-- A handler uses the SDK to validate only. -/
theorem lookUp_congr {sdk sdk' : SolanaSdk} {req : SubmitRequest} {signed : Bytes}
    (h : sdk.validateSigned signed = sdk'.validateSigned signed) :
    lookUp sdk req signed = lookUp sdk' req signed := by
  have hrelay : relay sdk req signed = relay sdk' req signed := by
    rw [relay, relay, h]
  have hclaim : claim sdk req signed = claim sdk' req signed := by
    funext walletId
    rw [claim, claim, hrelay]
  rw [lookUp, lookUp, hrelay, hclaim]

theorem run_submit_of_decode {sdk : SolanaSdk} {req : SubmitRequest} {b : Bytes}
    (h : Base64.decode req.signed = some b) :
    (submit sdk req).run = (lookUp sdk req b).run := by
  rw [submit, run_attempt_bind, h]
  rfl

end Xend
