import Xend.Gateway
import Xend.NameCase
import Xend.FormText
import Xend.Watch
import Xend.WalletEndpoints

/-! The route table: how a request line becomes the call of a handler, and the answer
of the handler a response. -/

namespace Xend

open Framing Interaction
open Sdk (Body Response)

inductive HttpMethod where
  | get
  | head
  | post
  | other
  deriving DecidableEq

/-- A request as it arrives; a JSON body is already parsed. -/
structure HttpRequest where
  method : HttpMethod
  target : List Char
  authorization : Option String
  jsonContentType : Bool
  body : Body

def HttpRequest.path (r : HttpRequest) : List Char := r.target.takeWhile (· != '?')

def HttpRequest.query (r : HttpRequest) : List Char := (r.target.dropWhile (· != '?')).drop 1

def HttpRequest.segments (r : HttpRequest) : List (List Char) := r.path.splitOn '/'

/-- What the handlers use of `bs58`, `chrono` and `uuid`, and of a lossy decoder where the
bytes are no text. -/
structure Web extends TextFormats where
  replaceInvalid : Bytes → String
  uuidToString : Nat → String
  toRfc3339 : Nat → String

def Web.fromUtf8Lossy (w : Web) (bs : Bytes) : String := (ofUtf8 bs).getD (w.replaceInvalid bs)

inductive Endpoint where
  | register
  | balance (pubkey : List Char)
  | history (pubkey : List Char)
  | build
  | submit
  | status (signature : List Char)
  | resolve
  deriving DecidableEq

def Endpoint.method : Endpoint → HttpMethod
  | register | build | submit => .post
  | balance _ | history _ | status _ | resolve => .get

/-- What is there for `GET` answers `HEAD` as well. -/
def Endpoint.accepts (e : Endpoint) (method : HttpMethod) : Bool :=
  method = e.method || (method = .head && e.method = .get)

/-- The routes nested under `/v1`; a fixed segment goes before a parameter, and only the
last one may not be empty. -/
def Endpoint.ofRoute : List (List Char) → Option Endpoint
  | [first] =>
    if first = "wallets".toList then some .register
    else if first = "resolve".toList then some .resolve
    else none
  | [first, second] =>
    if first = "tx".toList then
      if second = "build".toList then some .build
      else if second = "submit".toList then some .submit
      else if second = [] then none
      else some (.status second)
    else none
  | [first, second, third] =>
    if first = "wallets".toList then
      if third = "balance".toList then some (.balance second)
      else if third = "transactions".toList then some (.history second)
      else none
    else none
  | _ => none

def Endpoint.ofSegments : List (List Char) → Option Endpoint
  | [] :: version :: rest => if version = "v1".toList then ofRoute rest else none
  | _ => none

inductive ApiRequest where
  | register (pubkey : String) (label : Option String)
  | balance (pubkey : String) (mint : Option String)
  | history (pubkey : String) (limit : Option Int) (before : Option String)
  | build (req : BuildRequest)
  | submit (req : SubmitRequest)
  | status (signature : String)
  | resolve (name : String)

inductive ApiResponse where
  | wallet (r : WalletResponse)
  | balance (amount : Nat) (mint : Option String)
  | built (r : BuildResponse)
  | submitted (r : SubmitResponse)
  | status (signature text : String)
  | resolved (r : ResolveResponse)

section Extraction

def splitSign : List Char → Bool × List Char
  | '-' :: cs => (true, cs)
  | '+' :: cs => (false, cs)
  | cs => (false, cs)

/-- `str::parse::<i64>`. -/
def i64FromStr (s : String) : Option Int :=
  let (negative, digits) := splitSign s.toList
  if digits = [] ∨ digits.all Char.isDigit = false then none
  else
    let n : Int := Nat.ofDigitChars 10 digits 0
    let value := if negative then -n else n
    if -2 ^ 63 ≤ value ∧ value < 2 ^ 63 then some value else none

/-- What an extractor answers when it cannot read its part of the request: text. -/
def rejection (statusCode : Nat) : Response := ⟨statusCode, .malformed⟩

def extractPath (segment : List Char) : Except Response String :=
  (ofUtf8 (FormText.decode false segment)).elim (.error (rejection 400)) .ok

def queryPairs (w : Web) (query : List Char) : List (String × String) :=
  (FormText.parseForm query).map fun pair => (w.fromUtf8Lossy pair.1, w.fromUtf8Lossy pair.2)

/-- A field of the query; twice is an error. -/
def optionalField (pairs : List (String × String)) (key : String) :
    Except Response (Option String) :=
  match pairs.filter fun pair => pair.1 == key with
  | [] => .ok none
  | [pair] => .ok (some pair.2)
  | _ => .error (rejection 400)

def requiredField (pairs : List (String × String)) (key : String) : Except Response String := do
  let value ← optionalField pairs key
  value.elim (.error (rejection 400)) .ok

def optionalI64 (pairs : List (String × String)) (key : String) : Except Response (Option Int) := do
  match ← optionalField pairs key with
  | none => .ok none
  | some text => (i64FromStr text).elim (.error (rejection 400)) fun i => .ok (some i)

/-- An array with too many items is read before it is found to go on. -/
def extractJson {α : Type} (fields : List String) (ofJson : Json → Option α) (r : HttpRequest) :
    Except Response α :=
  if r.jsonContentType then
    match r.body with
    | .json j =>
      let statusCode := if (ofJson (j.truncated fields.length)).isSome then 400 else 422
      (ofJson j).elim (.error (rejection statusCode)) .ok
    | _ => .error (rejection 400)
  else .error (rejection 415)

def registerFields : List String := ["pubkey", "label"]

def registerOfJson (j : Json) : Option ApiRequest := do
  let [pubkey, label] ← j.record registerFields | none
  some (.register (← requiredStr pubkey) (← optionalStr label))

def SubmitRequest.fields : List String :=
  ["signed", "idempotency_key", "pubkey", "to", "amount", "mint"]

def SubmitRequest.ofJson (j : Json) : Option SubmitRequest := do
  let [signed, idempotencyKey, pubkey, toAddress, amount, mint] ← j.record fields | none
  some ⟨← requiredStr signed, ← requiredStr idempotencyKey, ← optionalStr
    pubkey, ← optionalStr toAddress, ← optionalStr amount, ← optionalStr mint⟩

/-- The extractors of a handler, in the order of its arguments. -/
def Endpoint.extract (w : Web) (r : HttpRequest) : Endpoint → Except Response ApiRequest
  | register => extractJson registerFields registerOfJson r
  | balance pubkey => do
    let pubkey ← extractPath pubkey
    let mint ← optionalField (queryPairs w r.query) "mint"
    .ok (.balance pubkey mint)
  | history pubkey => do
    let pubkey ← extractPath pubkey
    let limit ← optionalI64 (queryPairs w r.query) "limit"
    let before ← optionalField (queryPairs w r.query) "before"
    .ok (.history pubkey limit before)
  | build => do
    let req ← extractJson BuildRequest.fields BuildRequest.ofJson r
    .ok (.build req)
  | submit => do
    let req ← extractJson SubmitRequest.fields SubmitRequest.ofJson r
    .ok (.submit req)
  | status signature => do
    let signature ← extractPath signature
    .ok (.status signature)
  | resolve => do
    let name ← requiredField (queryPairs w r.query) "name"
    .ok (.resolve name)

end Extraction

section Responses

def textOrNull (value : Option String) : Json := value.elim .null .str

variable (w : Web)

def Record.toJson (r : Record) : Json :=
  .obj [("signature", .str r.signature), ("status", .str r.status), ("to", textOrNull r.toAddress),
    ("amount", textOrNull r.amount), ("mint", textOrNull r.mint),
    ("created_at", .str (w.toRfc3339 r.createdAt))]

def ApiResponse.toJson : ApiResponse → Json
  | wallet (.registered walletId pubkey) =>
    .obj [("wallet_id", .str (w.uuidToString walletId)), ("pubkey", .str pubkey)]
  | wallet (.transactions records) => .obj [("transactions", .arr (records.map (Record.toJson w)))]
  | balance amount mint => .obj [("amount", .str amount.repr), ("mint", textOrNull mint)]
  | built r => r.toJson
  | submitted r => .obj [("signature", .str r.signature), ("status", .str r.status)]
  | status signature text => .obj [("signature", .str signature), ("status", .str text)]
  | resolved r => r.toJson

def intoResponse : Except AppError ApiResponse → Response
  | .ok r => ⟨200, .json (r.toJson w)⟩
  | .error e => ⟨e.statusCode, .json e.body⟩

end Responses

/-- What the RPC node and the clock answer while one request is served. -/
structure Upstream where
  build : BuildRpc
  read : ReadRpc

structure Backend where
  adapter : SolanaAdapter
  web : Web
  gateway : Gateway
  hashv : List Bytes → Hash
  display : Json → String

section Handlers

variable (b : Backend) (up : Upstream)

def balanceHandler (pubkey : String) (mint : Option String) : Except AppError ApiResponse := do
  validateSolanaPubkey b.web.bs58 pubkey
  let amount ← balance b.adapter.sdk b.display up.read pubkey mint
  .ok (.balance amount mint)

def statusHandler (signature : String) : Except AppError ApiResponse := do
  let commitment ← status up.read signature
  .ok (.status signature (statusText commitment))

def ApiRequest.handler : ApiRequest → Handler ApiResponse
  | register pubkey _ => ApiResponse.wallet <$> b.web.toTextFormats.register pubkey
  | balance pubkey mint => attempt (balanceHandler b up pubkey mint)
  | history pubkey limit before =>
      ApiResponse.wallet <$> b.web.toTextFormats.history pubkey limit before
  | build req => attempt (Except.map .built (Xend.build b.adapter up.build req))
  | submit req => ApiResponse.submitted <$> Xend.submit b.adapter.sdk req
  | status signature => attempt (statusHandler up signature)
  | resolve name => attempt (Except.map .resolved (Xend.resolve b.adapter.sdk b.hashv up.read name))

end Handlers

structure ServerState where
  windows : FixedWindow.Counters String
  ledger : Ledger

/-- One request as the server meets it: when it arrives, and how its surroundings behave. -/
structure Arrived where
  request : HttpRequest
  time : Nat
  upstream : Upstream
  verdicts : List Verdict

def notFound : Response := ⟨404, .empty⟩

def methodNotAllowed : Response := ⟨405, .empty⟩

namespace Backend

variable (b : Backend)

/-- Behind the gateway; there is no response if the process dies on the way. -/
def endpoint (l : Ledger) (a : Arrived) (e : Endpoint) : Ledger × Option Response :=
  if e.accepts a.request.method = false then (l, some methodNotAllowed)
  else match e.extract b.web a.request with
    | .error response => (l, some response)
    | .ok req =>
      let out := (req.handler b a.upstream).run.run Ledger.execute l a.verdicts
      (out.1, out.2.map (intoResponse b.web))

/-- Health checks and unknown paths do not reach the gateway. -/
def route (s : ServerState) (a : Arrived) : ServerState × Option Response :=
  if a.request.path = "/health".toList then
    (s, some (if a.request.method = .get ∨ a.request.method = .head then ⟨200, .malformed⟩
      else methodNotAllowed))
  else match Endpoint.ofSegments a.request.segments with
    | none => (s, some notFound)
    | some e =>
      match b.gateway.handle s.windows ⟨a.time, a.request.authorization⟩ with
      | (windows, .error error) => (⟨windows, s.ledger⟩, some (intoResponse b.web (.error error)))
      | (windows, .ok _) =>
        let out := b.endpoint s.ledger a e
        (⟨windows, out.1⟩, out.2)

/-- The response to `HEAD` has no body. -/
def serve (s : ServerState) (a : Arrived) : ServerState × Option Response :=
  let out := b.route s a
  (out.1, if a.request.method = .head then out.2.map fun r => { r with body := .empty } else out.2)

def serveAll (s : ServerState) : List Arrived → ServerState × List (Option Response)
  | [] => (s, [])
  | a :: rest =>
    let r := b.serve s a
    let r' := serveAll r.1 rest
    (r'.1, r.2 :: r'.2)

end Backend

end Xend
