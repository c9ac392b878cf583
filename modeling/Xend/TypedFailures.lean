import Xend.Device
import Xend.XendWallet
import Xend.Provisioning

/-! Which answers of the backend make a client method throw an error that is not one of
the SDK's: those it decodes, casts or parses outside the guarded request. -/

namespace Xend.Sdk

open Framing Interaction

def Body.members : Body → Json
  | .json j => j
  | _ => .obj []

def Body.IsMap (body : Body) : Prop := body = .empty ∨ ∃ fields, body = .json (.obj fields)

namespace BackendClient

/-- What becomes of a request: only a thrown `Exception` is caught. -/
inductive Transport where
  | response (r : Response)
  | exception
  | argumentError (name message : String)

inductive Method where
  | registerWallet (pubkey : String) (label : Option String)
  | buildTransfer (source dest : String) (amount : Int) (mint : Option String)
  | submitTransaction (signed idempotencyKey source dest : String) (amount : Int)
    (mint : Option String)
  | resolveName (name : String)
  | getBalance (pubkey : String) (mint : Option String)
  | getHistory (pubkey : String) (limit : Int) (before : Option String)
  | getTransactionStatus (signature : String)

abbrev Method.Result : Method → Type
  | registerWallet _ _ => String
  | buildTransfer _ _ _ _ => Built
  | submitTransaction _ _ _ _ _ _ => Submitted
  | resolveName _ => String
  | getBalance _ _ => Int
  | getHistory _ _ _ => List Json
  | getTransactionStatus _ => String

def Method.program : (m : Method) → Dart m.Result
  | registerWallet pubkey label => BackendClient.registerWallet pubkey label
  | buildTransfer source dest amount mint => BackendClient.buildTransfer source dest amount mint
  | submitTransaction signed idempotencyKey source dest amount mint =>
    BackendClient.submitTransaction signed idempotencyKey source dest amount mint
  | resolveName name => BackendClient.resolveName name
  | getBalance pubkey mint => BackendClient.getBalance pubkey mint
  | getHistory pubkey limit before => BackendClient.getHistory pubkey limit before
  | getTransactionStatus signature => BackendClient.getTransactionStatus signature

/-- A method makes one request; an `Error` of the transport goes through. -/
def Method.outcome (m : Method) (t : Transport) : Except (Halt DartError) m.Result :=
  let answer (response : Option Response) : Verdict :=
    { sampleService.answer .randomSecure with response := response }
  match t with
  | .response r => (m.program.run.answered Device.execute (fun _ => answer (some r)) Device.blank).2
  | .exception => (m.program.run.answered Device.execute (fun _ => answer none) Device.blank).2
  | .argumentError name message => .error (.thrown (.argumentError name message))

/-- It throws nothing but errors of the SDK. -/
def Typed {α : Type} (r : Except (Halt DartError) α) : Prop := ∀ e, r = .error e →
    ∃ x, e = .thrown (.xend x)

def IsText (j : Json) : Prop := ∃ s, j = .str s

def IsInt64 (j : Json) : Prop := ∃ i, j = .int i ∧ -2 ^ 63 ≤ i ∧ i < 2 ^ 63

/-- The code of an error is text, if there is one, and the seconds that go with
`rate_limited` are a number. -/
def ErrorEnvelope (body : Json) : Prop :=
  ∀ fields, body.field "error" = .obj fields →
    ((Json.obj fields).field "code" = .null ∨ IsText ((Json.obj fields).field "code")) ∧
    ((Json.obj fields).field "code" = .str "rate_limited" →
      (Json.obj fields).field "retry_after" = .null ∨
      IsInt64 ((Json.obj fields).field "retry_after"))

/-- The fields the method reads have the types it casts them to. -/
def Method.Answered (body : Json) : Method → Prop
  | registerWallet _ _ => IsText (body.field "wallet_id")
  | buildTransfer _ _ _ _ => IsText (body.field "message") ∧ IsInt64 (body.field "valid_until") ∧
    (body.field "fee_payer_signature" = .null ∨ IsText (body.field "fee_payer_signature"))
  | submitTransaction _ _ _ _ _ _ => IsText (body.field "signature") ∧ IsText (body.field "status")
  | resolveName _ => IsText (body.field "address")
  | getBalance _ _ => ∃ s, body.field "amount" = .str s ∧ bigIntTryParse s ≠ none
  | getHistory _ _ _ => ∃ items, body.field "transactions" = .arr items
  | getTransactionStatus _ => IsText (body.field "status")

def Method.Expects (m : Method) : Transport → Prop
  | .response r => r.body.IsMap ∧
    (400 ≤ r.statusCode → ErrorEnvelope r.body.members) ∧
    (r.statusCode < 400 → m.Answered r.body.members)
  | .exception => True
  | .argumentError _ _ => False

def Method.extract (body : Json) : (m : Method) → Except DartError m.Result
  | registerWallet _ _ => asString (body.field "wallet_id")
  | buildTransfer _ _ _ _ => builtFrom body
  | submitTransaction _ _ _ _ _ _ => do
    let signature ← asString (body.field "signature")
    let status ← asString (body.field "status")
    .ok ⟨signature, status⟩
  | resolveName _ => asString (body.field "address")
  | getBalance _ _ => do
    let amount ← asString (body.field "amount")
    bigIntParse amount
  | getHistory _ _ _ => asList (body.field "transactions")
  | getTransactionStatus _ => asString (body.field "status")

section Outcomes

theorem submitTransaction_eq (signed idempotencyKey source dest : String) (amount : Int)
    (mint : Option String) :
    BackendClient.submitTransaction signed idempotencyKey source dest amount mint = (do
      let body ← send (.post "/v1/tx/submit"
        (.obj ([("signed", .str signed), ("idempotency_key", .str idempotencyKey),
          ("pubkey", .str source), ("to", .str dest),
          ("amount", .str (toString amount))] ++ optional "mint" mint)))
      throwing (do
        let signature ← asString (body.field "signature")
        let status ← asString (body.field "status")
        .ok (⟨signature, status⟩ : Submitted))) := by
  refine congrArg (send _ >>= ·) (funext fun body => ?_)
  cases asString (body.field "signature") with
  | error e => rfl
  | ok signature =>
    cases asString (body.field "status") with
    | error e => rfl
    | ok status => rfl

theorem Method.answered_program (m : Method) (answer : Call → Verdict) (response : Option Response)
    (h : ∀ c, (answer c).response = response) (d : Device) :
    (m.program.run.answered Device.execute answer d).2 =
      (do
        let body ← decodeResponse response
        m.extract body : Except DartError m.Result).mapError .thrown := by
  cases m with
  | submitTransaction signed idempotencyKey source dest amount mint =>
    rw [program, submitTransaction_eq, answered_send, h]
    rfl
  | registerWallet pubkey label =>
    rw [program, BackendClient.registerWallet, answered_send, h]
    rfl
  | buildTransfer source dest amount mint =>
    rw [program, BackendClient.buildTransfer, answered_send, h]
    rfl
  | resolveName name =>
    rw [program, BackendClient.resolveName, answered_send, h]
    rfl
  | getBalance pubkey mint =>
    rw [program, BackendClient.getBalance, answered_send, h]
    rfl
  | getHistory pubkey limit before =>
    rw [program, BackendClient.getHistory, answered_send, h]
    rfl
  | getTransactionStatus signature =>
    rw [program, BackendClient.getTransactionStatus, answered_send, h]
    rfl

end Outcomes

/-- A value where `P` holds, and otherwise an error of the language. -/
def Checks {α : Type} (r : Except DartError α) (P : Prop) : Prop :=
  (P ∧ ∃ a, r = .ok a) ∨ (¬ P ∧ (r = .error .typeError ∨ r = .error .formatException))

section Checks

variable {α β : Type} {r : Except DartError α} {P Q : Prop}

theorem checks_ok (a : α) (h : P) : Checks (.ok a) P := .inl ⟨h, a, rfl⟩

theorem checks_typeError (h : ¬ P) : Checks (.error .typeError : Except DartError α) P :=
  .inr ⟨h, .inl rfl⟩

theorem Checks.congr (h : Checks r P) (hPQ : P ↔ Q) : Checks r Q := by
  rwa [Checks, ← hPQ]

theorem Checks.bind {f : α → Except DartError β} (h : Checks r P)
    (hf : ∀ a, r = .ok a → Checks (f a) Q) :
    Checks (r >>= f) (P ∧ Q) := by
  obtain ⟨hP, a, rfl⟩ | ⟨hP, rfl | rfl⟩ := h
  · exact (hf a rfl).congr ⟨fun hQ => ⟨hP, hQ⟩, fun hPQ => hPQ.2⟩
  · exact .inr ⟨fun hPQ => hP hPQ.1, .inl rfl⟩
  · exact .inr ⟨fun hPQ => hP hPQ.1, .inr rfl⟩

theorem Checks.bind_ok (h : Checks r P) (f : α → β) : Checks (r >>= fun a => .ok (f a)) P :=
  (h.bind (Q := True) fun a _ => checks_ok (f a) trivial).congr (and_iff_left trivial)

theorem Checks.typed_iff (h : Checks r P) : Typed (r.mapError .thrown) ↔ P := by
  obtain ⟨hP, a, rfl⟩ | ⟨hP, rfl | rfl⟩ := h
  · refine iff_of_true ?_ hP
    intro e he
    cases he
  · refine iff_of_false (fun htyped => ?_) hP
    obtain ⟨x, hx⟩ := htyped _ rfl
    cases hx
  · refine iff_of_false (fun htyped => ?_) hP
    obtain ⟨x, hx⟩ := htyped _ rfl
    cases hx

theorem checks_asString (j : Json) : Checks (asString j) (IsText j) := by
  cases j with
  | str s => exact checks_ok s ⟨s, rfl⟩
  | _ => exact checks_typeError (by simp [IsText])

theorem checks_asStringOrNull (j : Json) : Checks (asStringOrNull j) (j = .null ∨ IsText j) := by
  cases j with
  | null => exact checks_ok none (.inl rfl)
  | str s => exact checks_ok (some s) (.inr ⟨s, rfl⟩)
  | _ => exact checks_typeError (by simp [IsText])

theorem checks_asInt (j : Json) : Checks (asInt j) (IsInt64 j) := by
  cases j with
  | int i =>
    by_cases hi : -2 ^ 63 ≤ i ∧ i < 2 ^ 63
    · rw [asInt, if_pos hi]
      exact checks_ok i ⟨i, rfl, hi⟩
    · rw [asInt, if_neg hi]
      exact checks_typeError (by simpa [IsInt64] using hi)
  | _ => exact checks_typeError (by simp [IsInt64])

theorem checks_asIntOrNull (j : Json) : Checks (asIntOrNull j) (j = .null ∨ IsInt64 j) := by
  cases j with
  | null => exact checks_ok none (.inl rfl)
  | int i => exact ((checks_asInt (.int i)).bind_ok some).congr (by simp)
  | _ => exact checks_typeError (by simp [IsInt64])

theorem checks_asList (j : Json) : Checks (asList j) (∃ items, j = .arr items) := by
  cases j with
  | arr items => exact checks_ok items ⟨items, rfl⟩
  | _ => exact checks_typeError (by simp)

theorem checks_bigIntParse (s : String) : Checks (bigIntParse s) (bigIntTryParse s ≠ none) := by
  rw [bigIntParse]
  cases bigIntTryParse s with
  | none => exact .inr ⟨by simp, .inr rfl⟩
  | some n => exact checks_ok n (by simp)

theorem Method.checks_extract (m : Method) (body : Json) :
    Checks (m.extract body) (m.Answered body) := by
  cases m with
  | registerWallet pubkey label => exact checks_asString _
  | buildTransfer source dest amount mint =>
    apply (checks_asString _).bind
    intro message _
    apply (checks_asInt _).bind
    intro validUntil _
    exact (checks_asStringOrNull _).bind_ok _
  | submitTransaction signed idempotencyKey source dest amount mint =>
    apply (checks_asString _).bind
    intro signature _
    exact (checks_asString _).bind_ok _
  | resolveName name => exact checks_asString _
  | getBalance pubkey mint =>
    simp only [extract, Answered]
    cases hj : body.field "amount" with
    | str s => exact (checks_bigIntParse s).congr (by simp)
    | _ => exact checks_typeError (by simp)
  | getHistory pubkey limit before => exact checks_asList _
  | getTransactionStatus signature => exact checks_asString _

theorem checks_mapCode (status : Nat) (error : Json) (message : String) (code : Option String) :
    Checks (mapCode status error message code)
      (code = some "rate_limited" → error.field "retry_after" = .null ∨
        IsInt64 (error.field "retry_after")) := by
  by_cases hrate : code = some "rate_limited"
  · subst hrate
    exact ((checks_asIntOrNull _).bind_ok fun secs => XendError.rateLimited (secs.getD 1)).congr
      (by simp)
  · have hok : ∃ x, mapCode status error message code = .ok x := by
      unfold mapCode
      split
      all_goals first | exact ⟨_, rfl⟩ | exact absurd rfl hrate
    exact .inl ⟨fun h => absurd h hrate, hok⟩

theorem asStringOrNull_eq_ok {j : Json} {code : Option String}
    (h : asStringOrNull j = .ok code) (s : String) :
    code = some s ↔ j = .str s := by
  cases j with
  | null =>
    cases h
    simp
  | str t =>
    cases h
    simp
  | _ => cases h

theorem checks_mapError (status : Nat) (body : Json) :
    Checks (mapError status body) (ErrorEnvelope body) := by
  simp only [mapError, ErrorEnvelope]
  cases herror : body.field "error" with
  | obj fields =>
    have hcode : Checks (asStringOrNull ((Json.obj fields).field "code") >>=
        mapCode status (.obj fields)
        (if ((Json.obj fields).field "message").isNull then ""
          else dartToString ((Json.obj fields).field "message")))
        (((Json.obj fields).field "code" = .null ∨ IsText ((Json.obj fields).field "code")) ∧
          ((Json.obj fields).field "code" = .str "rate_limited" →
            (Json.obj fields).field "retry_after" = .null ∨
            IsInt64 ((Json.obj fields).field "retry_after"))) := by
      apply (checks_asStringOrNull _).bind
      intro code hcode
      exact (checks_mapCode _ _ _ _).congr (by rw [asStringOrNull_eq_ok hcode])
    exact hcode.congr (by simp)
  | _ => exact checks_ok _ (by simp)

theorem checks_decoded (body : Body) : Checks (decoded body) body.IsMap := by
  cases body with
  | empty => exact checks_ok _ (.inl rfl)
  | malformed => exact .inr ⟨by simp [Body.IsMap], .inr rfl⟩
  | json j =>
    cases j with
    | obj fields => exact checks_ok _ (.inr ⟨fields, rfl⟩)
    | _ => exact checks_typeError (by simp [Body.IsMap])

theorem decoded_eq_ok {body : Body} {j : Json} (h : decoded body = .ok j) : j = body.members := by
  cases body with
  | empty =>
    cases h
    rfl
  | malformed => cases h
  | json j' =>
    cases j' with
    | obj fields =>
      cases h
      rfl
    | _ => cases h

end Checks

theorem Method.outcome_response (m : Method) (r : Response) : m.outcome (.response r) =
    (do
      let body ← decodeResponse (some r)
      m.extract body : Except DartError m.Result).mapError .thrown :=
  m.answered_program _ _ (fun _ => rfl) _

theorem typed_thrown {α : Type} (x : XendError) :
    Typed (.error (.thrown (.xend x)) : Except (Halt DartError) α) := by
  intro e he
  cases he
  exact ⟨x, rfl⟩

theorem not_typed {α : Type} {r : Except DartError α}
    (h : r = .error .typeError ∨ r = .error .formatException) :
    ¬ Typed (r.mapError .thrown) := by
  rcases h with rfl | rfl
  · intro htyped
    obtain ⟨x, hx⟩ := htyped _ rfl
    cases hx
  · intro htyped
    obtain ⟨x, hx⟩ := htyped _ rfl
    cases hx

theorem Method.typed_response_iff (m : Method) (r : Response) :
    Typed (m.outcome (.response r)) ↔ m.Expects (.response r) := by
  rw [outcome_response, Expects]
  obtain ⟨hmap, j, hj⟩ | ⟨hmap, herr⟩ := checks_decoded r.body
  · obtain rfl := decoded_eq_ok hj
    by_cases hstatus : 400 ≤ r.statusCode
    · have hdecoded : decodeResponse (some r) = mapError r.statusCode r.body.members >>= fun e =>
          .error (.xend e) := by
        simp only [decodeResponse, bind, Except.bind, hj, hstatus, if_true]
      rw [hdecoded]
      obtain ⟨henvelope, x, hx⟩ | ⟨henvelope, herr⟩ := checks_mapError r.statusCode r.body.members
      · rw [hx]
        refine iff_of_true (typed_thrown x) ⟨hmap, fun _ => henvelope,
          fun hlt => absurd hlt (not_lt.mpr hstatus)⟩
      · refine iff_of_false (not_typed ?_) fun h => henvelope (h.2.1 hstatus)
        rcases herr with herr | herr
        · exact .inl (by rw [herr]; rfl)
        · exact .inr (by rw [herr]; rfl)
    · have hdecoded : decodeResponse (some r) = .ok r.body.members := by
        simp only [decodeResponse, bind, Except.bind, hj, hstatus, if_false]
      rw [hdecoded]
      refine (m.checks_extract r.body.members).typed_iff.trans ?_
      constructor
      · exact fun h => ⟨hmap, fun hge => absurd hge hstatus, fun _ => h⟩
      · exact fun h => h.2.2 (not_le.mp hstatus)
  · refine iff_of_false (not_typed ?_) fun h => hmap h.1
    rcases herr with herr | herr
    · exact .inl (by simp only [decodeResponse, bind, Except.bind, herr])
    · exact .inr (by simp only [decodeResponse, bind, Except.bind, herr])

/-- What a method throws is an error of the SDK, exactly if the request ends in an
`Exception` or a response it expects. -/
theorem failure_typed_iff (m : Method) (t : Transport) : Typed (m.outcome t) ↔ m.Expects t := by
  cases t with
  | response r => exact m.typed_response_iff r
  | exception =>
    have houtcome : m.outcome .exception =
        .error (.thrown (.xend (.networkError "Network unavailable"))) :=
      m.answered_program _ none (fun _ => rfl) _
    rw [houtcome]
    exact iff_of_true (typed_thrown _) trivial
  | argumentError name message =>
    refine iff_of_false (fun htyped => ?_) id
    obtain ⟨x, hx⟩ := htyped _ rfl
    cases hx

def badGateway : Response := ⟨502, .malformed⟩

/-- A page instead of JSON is thrown as a `FormatException`, by every method. -/
theorem badGateway_untyped :
    (∀ m : Method, m.outcome (.response badGateway) = .error (.thrown .formatException)) ∧
      ¬ ∀ (m : Method) (t : Transport), Typed (m.outcome t) := by
  have hformat : ∀ m : Method, m.outcome (.response badGateway) =
      .error (.thrown .formatException) := by
    intro m
    rw [m.outcome_response]
    rfl
  refine ⟨hformat, fun h => ?_⟩
  have htyped :=
    h (.getTransactionStatus "5Jp2XqauvtPbi1AGAt8DtcwJFtSJbimp2vjWN91ee8W3") (.response badGateway)
  rw [hformat] at htyped
  obtain ⟨x, hx⟩ := htyped _ rfl
  cases hx

end BackendClient

end Xend.Sdk
