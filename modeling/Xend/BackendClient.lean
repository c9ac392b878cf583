import Xend.SecureSigner

/-! The SDK's HTTP client: how a response becomes a value or a typed error. -/

namespace Xend.Sdk

open Interaction

inductive XendError where
  | networkError (message : String)
  | insufficientFunds
  | userCancelledAuth
  | blockhashExpired
  | invalidRecipient
  | rateLimited (seconds : Int)
  | chainRejected (reason : String)
  | invalidRecoveryPhrase
  | notImplementedYet (what : String)
  deriving DecidableEq

/-- What Dart code throws: errors of the SDK, and those of the language. -/
inductive DartError where
  | xend (e : XendError)
  | formatException
  | typeError
  | argumentError (name message : String)
  deriving DecidableEq

abbrev Dart := Acting DartError

def throwing {α : Type} (r : Except DartError α) : Dart α := attempt (r.mapError .thrown)

mutual

def dartToString : Json → String
  | .null => "null"
  | .bool b => if b then "true" else "false"
  | .int i => toString i
  | .float text => text
  | .str s => s
  | .arr items => "[" ++ ", ".intercalate (itemsToString items) ++ "]"
  | .obj fields => "\x7b" ++ ", ".intercalate (fieldsToString fields) ++ "\x7d"

def itemsToString : List Json → List String
  | [] => []
  | item :: rest => dartToString item :: itemsToString rest

def fieldsToString : List (String × Json) → List String
  | [] => []
  | (key, value) :: rest => (key ++ ": " ++ dartToString value) :: fieldsToString rest

end

/-- White space as `trim` sees it. -/
def isSpace (c : Char) : Bool :=
  (9 ≤ c.toNat && c.toNat ≤ 13) || (0x2000 ≤ c.toNat && c.toNat ≤ 0x200A) ||
    [0x20, 0x85, 0xA0, 0x1680, 0x2028, 0x2029, 0x202F, 0x205F, 0x3000, 0xFEFF].contains c.toNat

/-- What `\s` stands for in the pattern of an integer. -/
def isBlank (c : Char) : Bool := isSpace c && c.toNat != 0x85

def hexDigitValue (c : Char) : Option Nat :=
  if c.isDigit then some (c.toNat - '0'.toNat)
  else if 'a' ≤ c.toLower ∧ c.toLower ≤ 'f' then some (c.toLower.toNat - 'a'.toNat + 10) else none

def unsignedFromChars : List Char → Option Nat
  | [] => none
  | cs@(first :: rest) =>
    if cs.all Char.isDigit then some (Nat.ofDigitChars 10 cs 0)
    else match first, rest with
      | '0', x :: hex =>
        if (x = 'x' ∨ x = 'X') ∧ hex ≠ [] then
          (hex.mapM hexDigitValue).map fun digits => digits.foldl (fun n d => 16 * n + d) 0
        else none
      | _, _ => none

/-- A sign, and decimal digits or hexadecimal ones behind `0x`, between blanks. -/
def bigIntTryParse (s : String) : Option Int :=
  match ((s.toList.dropWhile isBlank).reverse.dropWhile isBlank).reverse with
  | '-' :: cs => (unsignedFromChars cs).map fun n => -(n : Int)
  | '+' :: cs => (unsignedFromChars cs).map fun n => (n : Int)
  | cs => (unsignedFromChars cs).map fun n => (n : Int)

example : bigIntTryParse " -0x1F\n" = some (-31) := by rfl

def bigIntParse (s : String) : Except DartError Int :=
  (bigIntTryParse s).elim (.error .formatException) .ok

namespace BackendClient

def asString : Json → Except DartError String
  | .str s => .ok s
  | _ => .error .typeError

def asStringOrNull : Json → Except DartError (Option String)
  | .null => .ok none
  | j => some <$> asString j

/-- A number outside 64 bits is decoded as a double. -/
def asInt : Json → Except DartError Int
  | .int i => if -2 ^ 63 ≤ i ∧ i < 2 ^ 63 then .ok i else .error .typeError
  | _ => .error .typeError

def asIntOrNull : Json → Except DartError (Option Int)
  | .null => .ok none
  | j => some <$> asInt j

def decoded : Body → Except DartError Json
  | .empty => .ok (.obj [])
  | .malformed => .error .formatException
  | .json (.obj fields) => .ok (.obj fields)
  | .json _ => .error .typeError

def mapCode (status : Nat) (error : Json) (message : String) : Option String →
    Except DartError XendError
  | some "insufficient_funds" => .ok .insufficientFunds
  | some "invalid_recipient" => .ok .invalidRecipient
  | some "blockhash_expired" => .ok .blockhashExpired
  | some "chain_rejected" => .ok (.chainRejected message)
  | some "rate_limited" => do
    let secs ← asIntOrNull (error.field "retry_after")
    .ok (.rateLimited (secs.getD 1))
  | _ => .ok (.networkError ("backend error (" ++ toString status ++ "): " ++ message))

def mapError (status : Nat) (body : Json) : Except DartError XendError :=
  match body.field "error" with
  | .obj fields => do
    let error := Json.obj fields
    let code ← asStringOrNull (error.field "code")
    let message :=
      if (error.field "message").isNull then "" else dartToString (error.field "message")
    mapCode status error message code
  | _ => mapCode status .null "" none

/-- The body is decoded before the status is looked at. -/
def decodeResponse : Option Response → Except DartError Json
  | none => .error (.xend (.networkError "Network unavailable"))
  | some resp => do
    let body ← decoded resp.body
    if 400 ≤ resp.statusCode then do
      let e ← mapError resp.statusCode body
      .error (.xend e)
    else .ok body

def send (request : Request) : Dart Json := do
  let resp ← ask (.http request)
  throwing (decodeResponse resp)

def optional (key : String) (value : Option String) : List (String × Json) :=
  (value.map fun s => (key, Json.str s)).toList

def registerWallet (pubkey : String) (label : Option String) : Dart String := do
  let body ← send (.post "/v1/wallets" (.obj (("pubkey", .str pubkey) :: optional "label" label)))
  throwing (asString (body.field "wallet_id"))

structure Built where
  message : String
  validUntil : Int
  feePayerSignature : Option String

def buildRequest (source dest : String) (amount : Int) (mint : Option String) : Request :=
  .post "/v1/tx/build"
    (.obj ([("from", .str source), ("to", .str dest), ("amount", .str (toString amount))] ++
      optional "mint" mint))

def builtFrom (body : Json) : Except DartError Built := do
  let message ← asString (body.field "message")
  let validUntil ← asInt (body.field "valid_until")
  let feePayerSignature ← asStringOrNull (body.field "fee_payer_signature")
  .ok ⟨message, validUntil, feePayerSignature⟩

def buildTransfer (source dest : String) (amount : Int) (mint : Option String) : Dart Built := do
  let body ← send (buildRequest source dest amount mint)
  throwing (builtFrom body)

structure Submitted where
  signature : String
  status : String

def submitTransaction (signed idempotencyKey : String) (source dest : String) (amount : Int)
    (mint : Option String) :
    Dart Submitted := do
  let body ← send (.post "/v1/tx/submit"
    (.obj ([("signed", .str signed), ("idempotency_key", .str idempotencyKey),
      ("pubkey", .str source), ("to", .str dest),
      ("amount", .str (toString amount))] ++ optional "mint" mint)))
  let signature ← throwing (asString (body.field "signature"))
  let status ← throwing (asString (body.field "status"))
  pure ⟨signature, status⟩

def resolveName (name : String) : Dart String := do
  let body ← send (.get "/v1/resolve" [("name", name)])
  throwing (asString (body.field "address"))

def asList : Json → Except DartError (List Json)
  | .arr items => .ok items
  | _ => .error .typeError

/-- The mint is put into the query as it is. -/
def getBalance (pubkey : String) (mint : Option String) : Dart Int := do
  let query := mint.elim "" fun mint => "?mint=" ++ mint
  let body ← send (.get ("/v1/wallets/" ++ pubkey ++ "/balance" ++ query) [])
  throwing (do
    let amount ← asString (body.field "amount")
    bigIntParse amount)

/-- The elements are cast only where they are read. -/
def getHistory (pubkey : String) (limit : Int) (before : Option String) : Dart (List Json) := do
  let body ← send (.get ("/v1/wallets/" ++ pubkey ++ "/transactions")
    (("limit", toString limit) :: (before.map fun cursor => ("before", cursor)).toList))
  throwing (asList (body.field "transactions"))

def getTransactionStatus (signature : String) : Dart String := do
  let body ← send (.get ("/v1/tx/" ++ signature) [])
  throwing (asString (body.field "status"))

theorem calls_throwing {P : Call → Prop} {α : Type} {r : Except DartError α} :
    (throwing r).run.Calls P := trivial

theorem calls_send {P : Call → Prop} {request : Request} (h : P (.http request)) :
    (send request).run.Calls P :=
  calls_bind (calls_request h) fun _ => calls_throwing

theorem asIntOrNull_int {i : Int} (h : -2 ^ 63 ≤ i ∧ i < 2 ^ 63) :
    asIntOrNull (.int i) = .ok (some i) := by
  have hint : asInt (.int i) = .ok i := if_pos h
  rw [asIntOrNull, hint]
  · rfl
  · exact fun he => Json.noConfusion he

theorem mapCode_rateLimited {status : Nat} {error : Json} {message : String} {seconds : Int}
    (h : -2 ^ 63 ≤ seconds ∧ seconds < 2 ^ 63) (hfield : error.field "retry_after" = .int seconds) :
    mapCode status error message (some "rate_limited") = .ok (.rateLimited seconds) := by
  rw [mapCode, hfield, asIntOrNull_int h]
  rfl

theorem mapError_of_code {status : Nat} {body : Json}
    {fields : List (String × Json)} {code : String}
    (herror : body.field "error" = .obj fields)
    (hcode : (Json.obj fields).field "code" = .str code) :
    ∃ message, mapError status body = mapCode status (.obj fields) message (some code) := by
  have hread : asStringOrNull (.str code) = .ok (some code) := rfl
  simp only [mapError, herror, hcode, hread]
  exact ⟨_, rfl⟩

theorem decodeResponse_of_status {status : Nat} (h : 400 ≤ status) (fields : List (String × Json)) :
    decodeResponse (some ⟨status, .json (.obj fields)⟩) =
      (mapError status (.obj fields)).bind fun e => .error (.xend e) := by
  simp only [decodeResponse, decoded, bind, Except.bind, h, if_true]

/-- What a client gets from one request, and a device that it leaves alone. -/
theorem answered_send {α : Type} (request : Request) (f : Json → Except DartError α)
    (answer : Call → Verdict) (d : Device) :
    (do
      let body ← send request
      throwing (f body) : Dart α).run.answered Device.execute answer d =
      (d, ((do
        let body ← decodeResponse (answer (.http request)).response
        f body : Except DartError α).mapError .thrown)) := by
  rw [send, bind_assoc, run_request_bind, Prog.answered]
  change (throwing (decodeResponse (answer (.http request)).response) >>=
    fun body => throwing (f body)).run.answered _ _ d = _
  rw [throwing, run_attempt_bind]
  cases decodeResponse (answer (.http request)).response with
  | error e => rfl
  | ok body => rfl

theorem calls_registerWallet {P : Call → Prop} (pubkey : String) (label : Option String)
    (h : ∀ request, P (.http request)) : (registerWallet pubkey label).run.Calls P :=
  calls_bind (calls_send (h _)) fun _ => calls_throwing

end BackendClient

end Xend.Sdk
