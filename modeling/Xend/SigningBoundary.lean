import Xend.BuildEndpoint
import Xend.Provisioning
import Xend.Sponsorship
import Xend.XendWallet

/-! What `send` hands over to be signed, and what a backend that runs its own code
makes of it. -/

namespace Xend.Sdk

open Framing Interaction

namespace XendWallet

open BackendClient

/-- A transfer as the user asked for it. -/
structure Intent where
  wallet : XendWallet
  recipient : String
  amount : Int
  mint : Option String

/-- The message to sign, out of the response to the build request. -/
def received (response : Option Response) : Except DartError (Built × Bytes) := do
  let body ← decodeResponse response
  let built ← builtFrom body
  let message ← base64Decode built.message
  .ok (built, message)

/-- `send` from the signature on. -/
def signAndSubmit (kit : Kit) (intent : Intent) (idempotencyKey : Option String)
    (built : Built) (message : Bytes) :
    Dart String := do
  let reason := "Approve sending to " ++ intent.recipient
  let signature ← invoke (.signMessage message reason) (SecureSigner.signMessage kit message reason)
  let sponsor ← throwing (built.feePayerSignature.toList.mapM base64Decode)
  let signed := assembleSignedTransaction (sponsor ++ [signature.1]) message
  let key ← idempotencyKey.elim newIdempotencyKey pure
  let result ← submitTransaction (Base64.encode signed) key intent.wallet.address
      intent.recipient intent.amount
    intent.mint
  pure result.signature

def Intent.request (intent : Intent) : Request :=
  buildRequest intent.wallet.address intent.recipient intent.amount intent.mint

def Intent.send (intent : Intent) (kit : Kit) (idempotencyKey : Option String) : Dart String :=
  XendWallet.send kit intent.wallet intent.recipient intent.amount intent.mint idempotencyKey

variable {kit : Kit} {intent : Intent} {idempotencyKey : Option String}

theorem received_of {response : Option Response} {body : Json} {built : Built} {message : Bytes}
    (hbody : decodeResponse response = .ok body) (hbuilt : builtFrom body = .ok built)
    (hmessage : base64Decode built.message = .ok message) :
    received response = .ok (built, message) := by
  simp only [received, bind, Except.bind, hbody, hbuilt, hmessage]

/-- To a plain address, `send` makes one request before it signs. -/
theorem run_send (hchain : intent.wallet.chain = .solana) (hamount : 0 < intent.amount)
    (hplain : isSolName intent.recipient = false) :
    (intent.send kit idempotencyKey).run = .call (.http intent.request) fun response =>
      proceed (fun p => signAndSubmit kit intent idempotencyKey p.1 p.2)
        ((received response).mapError .thrown) := by
  have hnot : ¬ intent.amount ≤ 0 := not_le.mpr hamount
  simp only [Intent.send, XendWallet.send, requireSolana, hchain, if_true,
    pure_bind, hnot, if_false, XendWallet.resolveName, hplain, Bool.false_eq_true,
    BackendClient.buildTransfer, BackendClient.send, bind_assoc]
  rw [run_request_bind]
  refine congrArg (Prog.call _) (funext fun response => ?_)
  simp only [throwing, run_attempt_bind]
  cases hbody : decodeResponse response with
  | error e =>
    have hreceived : received response = .error e := by
      simp only [received, bind, Except.bind, hbody]
    rw [hreceived]
    rfl
  | ok body =>
    simp only [proceed, Except.mapError, run_attempt_bind]
    cases hbuilt : builtFrom body with
    | error e =>
      have hreceived : received response = .error e := by
        simp only [received, bind, Except.bind, hbody, hbuilt]
      rw [hreceived]
    | ok built =>
      dsimp only
      cases hmessage : base64Decode built.message with
      | error e =>
        have hreceived : received response = .error e := by
          simp only [received, bind, Except.bind, hbody, hbuilt, hmessage]
        rw [hreceived]
      | ok message =>
        rw [received_of hbody hbuilt hmessage]
        rfl

def HandsOver (message : Bytes) (c : Call) : Prop :=
  ∀ m reason, c = .invokeMethod (.signMessage m reason) → m = message

theorem calls_signAndSubmit (kit : Kit) (intent : Intent)
    (idempotencyKey : Option String) (built : Built)
    (message : Bytes) :
    (signAndSubmit kit intent idempotencyKey built message).run.Calls (HandsOver message) := by
  have hother : ∀ c : Call, (∀ method, c ≠ .invokeMethod method) → HandsOver message c :=
    fun c h m reason hc => absurd hc (h _)
  have hnative :
      (SecureSigner.signMessage kit message ("Approve sending to " ++ intent.recipient)).run.Calls
      (HandsOver message) := by
    refine calls_bind (calls_bind (calls_request (hother _ (by simp)))
      fun _ => SecureSigner.calls_found) fun key => ?_
    refine calls_bind (SecureSigner.calls_keychainGet (hother _ (by simp))) fun ciphertext => ?_
    refine calls_bind (SecureSigner.calls_unwrap (hother _ (by simp))) fun plaintext => ?_
    refine calls_bind SecureSigner.calls_rawRepresentation fun signingKey => ?_
    refine calls_bind (calls_request (hother _ (by simp))) fun signature => ?_
    cases signature <;> trivial
  have hinvoke :
      HandsOver message
        (.invokeMethod (.signMessage message ("Approve sending to " ++ intent.recipient))) := by
    intro m reason hc
    simp only [Call.invokeMethod.injEq, MethodCall.signMessage.injEq] at hc
    exact hc.1.symm
  have hkey : (idempotencyKey.elim newIdempotencyKey pure).run.Calls (HandsOver message) := by
    cases idempotencyKey with
    | none => exact calls_bind (calls_request (hother _ (by simp))) fun _ => trivial
    | some key => trivial
  refine calls_bind (calls_invoke hinvoke hnative) fun signature =>
    calls_bind calls_throwing fun sponsor => ?_
  refine calls_bind hkey fun key => calls_bind ?_ fun result => trivial
  refine calls_bind (calls_send (hother _ (by simp))) fun body => ?_
  exact calls_bind calls_throwing fun _ => calls_bind calls_throwing fun _ => trivial

section Steps

variable {d : Device} {vs : List Verdict}

theorem steps_send_of_refused (h : ¬ (intent.wallet.chain = .solana ∧ 0 < intent.amount)) :
    (intent.send kit idempotencyKey).run.steps Device.execute d vs = [] := by
  by_cases hchain : intent.wallet.chain = .solana
  · have hamount : intent.amount ≤ 0 := not_lt.mp fun hlt => h ⟨hchain, hlt⟩
    simp only [Intent.send, XendWallet.send, requireSolana, hchain, if_true, pure_bind, hamount]
    rfl
  · simp only [Intent.send, XendWallet.send, requireSolana, hchain, if_false, run_attempt_bind]
    rfl

/-- What is handed over to be signed is what was received for the request `send`
made for this very transfer. -/
theorem signed_received {t : DeviceStep} {message : Bytes} {reason : String}
    (hplain : isSolName intent.recipient = false)
    (ht : t ∈ (intent.send kit idempotencyKey).run.steps Device.execute d vs)
    (hcall : t.call = .invokeMethod (.signMessage message reason)) :
    0 < intent.amount ∧ ∃ t' ∈ (intent.send kit idempotencyKey).run.steps Device.execute d vs,
      t'.call = .http intent.request ∧
      ∃ built, received t'.verdict.response = .ok (built, message) := by
  by_cases hgo : intent.wallet.chain = .solana ∧ 0 < intent.amount
  · refine ⟨hgo.2, ?_⟩
    rw [run_send hgo.1 hgo.2 hplain] at ht ⊢
    cases vs with
    | nil => simp [Prog.steps] at ht
    | cons v vs =>
      simp only [Prog.steps, List.mem_cons] at ht ⊢
      refine ⟨_, .inl rfl, rfl, ?_⟩
      rcases ht with rfl | ht
      · cases hcall
      · change t ∈ (proceed _ ((received v.response).mapError _)).steps _ _ _ at ht
        change ∃ built, received v.response = .ok (built, message)
        cases hr : received v.response with
        | error e => simp [hr, Except.mapError, proceed, Prog.steps] at ht
        | ok p =>
          simp only [hr, Except.mapError, proceed] at ht
          have hmessage :=
            (calls_signAndSubmit kit intent idempotencyKey p.1 p.2).steps _ _
              t ht message reason hcall
          exact ⟨p.1, by rw [hmessage]⟩
  · rw [steps_send_of_refused hgo] at ht
    cases ht

theorem steps_send {v w : Verdict} {built : Built} {message : Bytes}
    (hchain : intent.wallet.chain = .solana)
    (hamount : 0 < intent.amount) (hplain : isSolName intent.recipient = false)
    (h : received v.response = .ok (built, message)) (d : Device) :
    (intent.send kit idempotencyKey).run.steps Device.execute d [v, w] =
      [⟨d, .http intent.request, v⟩,
        ⟨d, .invokeMethod (.signMessage message ("Approve sending to " ++ intent.recipient)),
          w⟩] := by
  rw [run_send hchain hamount hplain, Prog.steps]
  refine congrArg (List.cons _) ?_
  change (proceed _ ((received v.response).mapError _)).steps _ _ _ = _
  rw [h]
  exact congrArg (List.cons _) (Prog.steps_nil ..)

end Steps

section Honest

variable {adapter : SolanaAdapter}

/-- The answer of a backend that runs the build handler. -/
def buildEndpoint (adapter : SolanaAdapter) (rpc : BuildRpc) (json : Json) : Response :=
  match BuildRequest.ofJson json with
  | none => ⟨422, .malformed⟩
  | some req =>
    match build adapter rpc req with
    | .ok r => ⟨200, .json r.toJson⟩
    | .error e => ⟨e.statusCode, .json e.body⟩

/-- A build request is answered by the handler, or turned down on the way. -/
def AnsweredBy (adapter : SolanaAdapter) (t : DeviceStep) : Prop :=
  ∀ json response, t.call = .http (.post "/v1/tx/build" json) → t.verdict.response = some response →
    400 ≤ response.statusCode ∨ ∃ rpc, response = buildEndpoint adapter rpc json

/-- The message moves value once: the transfer asked for. A token transfer also opens
the recipient's token account, which the fee payer pays for. -/
def Intent.CarriedOutBy (adapter : SolanaAdapter) (intent : Intent) (message : Bytes) : Prop :=
  ∃ m source dest, adapter.sdk.deserializeMessage message = some m ∧
    adapter.sdk.pubkeyFromStr intent.wallet.address = some source ∧
    adapter.sdk.pubkeyFromStr intent.recipient = some dest ∧
    ((intent.mint = none ∧
      m.movements adapter.sdk = some [.systemTransfer source dest intent.amount.toNat]) ∨
      ∃ text mint decimals, intent.mint = some text ∧ adapter.sdk.pubkeyFromStr text = some mint ∧
        m.movements adapter.sdk =
          some [.createAta (adapter.payer source) (adapter.sdk.associatedTokenAddress dest mint)
            dest mint, .transferChecked (adapter.sdk.associatedTokenAddress source mint) mint
              (adapter.sdk.associatedTokenAddress dest mint) source intent.amount.toNat decimals])

theorem decodeResponse_eq_ok {response : Option Response} {body : Json}
    (h : decodeResponse response = .ok body) :
    ∃ r, response = some r ∧ decoded r.body = .ok body ∧ r.statusCode < 400 := by
  cases response with
  | none => cases h
  | some r =>
    simp only [decodeResponse, bind_eq_ok] at h
    obtain ⟨body', hbody, h⟩ := h
    by_cases hs : 400 ≤ r.statusCode
    · rw [if_pos hs, bind_eq_ok] at h
      obtain ⟨e, -, he⟩ := h
      cases he
    · rw [if_neg hs] at h
      obtain rfl : body' = body := Except.ok.inj h
      exact ⟨r, rfl, hbody, not_le.mp hs⟩

theorem asString_eq_ok {j : Json} {s : String} (h : asString j = .ok s) : j = .str s := by
  cases j with
  | str text => rw [Except.ok.inj h]
  | _ => cases h

theorem received_eq_ok {response : Option Response} {built : Built} {message : Bytes}
    (h : received response = .ok (built, message)) :
    ∃ r body text, response = some r ∧ r.statusCode < 400 ∧ decoded r.body = .ok body ∧
      body.field "message" = .str text ∧ base64Decode text = .ok message ∧
      asStringOrNull (body.field "fee_payer_signature") = .ok built.feePayerSignature := by
  simp only [received, bind_eq_ok] at h
  obtain ⟨body, hbody, built', hbuilt, message', hmessage, heq⟩ := h
  obtain ⟨r, hr, hdecoded, hs⟩ := decodeResponse_eq_ok hbody
  simp only [builtFrom, bind_eq_ok] at hbuilt
  obtain ⟨text, htext, _, -, sponsor, hsponsor, hbuilt⟩ := hbuilt
  obtain ⟨rfl, rfl⟩ : built' = built ∧ message' = message := by simpa using heq
  obtain rfl := Except.ok.inj hbuilt
  exact ⟨r, body, text, hr, hs, hdecoded, asString_eq_ok htext, hmessage, hsponsor⟩

theorem ofJson_buildRequest (source dest : String) (amount : Int) (mint : Option String) :
    ∃ json, buildRequest source dest amount mint = .post "/v1/tx/build" json ∧
      BuildRequest.ofJson json = some ⟨source, dest, toString amount, mint⟩ := by
  refine ⟨_, rfl, ?_⟩
  cases mint <;> rfl

theorem builtFrom_eq_ok {body : Json} {message : String} {validUntil : Int}
    {signature : Option String}
    (hmessage : asString (body.field "message") = .ok message)
    (htime : asInt (body.field "valid_until") = .ok validUntil)
    (hsignature : asStringOrNull (body.field "fee_payer_signature") = .ok signature) :
    builtFrom body = .ok ⟨message, validUntil, signature⟩ := by
  rw [builtFrom, hmessage, htime, hsignature]
  rfl

theorem toJson_fields (r : BuildResponse) :
    r.toJson.field "message" = .str r.message ∧ r.toJson.field "valid_until" = .int r.validUntil ∧
      asStringOrNull (r.toJson.field "fee_payer_signature") = .ok r.feePayerSignature := by
  obtain ⟨message, validUntil, signature⟩ := r
  cases signature <;> exact ⟨rfl, rfl, rfl⟩

theorem received_buildEndpoint {rpc : BuildRpc} {json : Json} {req : BuildRequest}
    {amount : Nat} {u : UnsignedTx}
    (hjson : BuildRequest.ofJson json = some req) (hamount : u128FromStr req.amount = some amount)
    (hu : adapter.buildTransfer rpc ⟨req.sender, req.toAddress, amount, req.mint⟩ = .ok u)
    (htime : u.validUntil < 2 ^ 63) :
    ∃ built, received (some (buildEndpoint adapter rpc json)) = .ok (built, u.message) := by
  have hb : build adapter rpc req =
      .ok ⟨Base64.encode u.message, u.validUntil, u.feePayerSignature.map Base64.encode⟩ := by
    simp only [build, bind_eq_ok, okOr_eq_ok]
    exact ⟨amount, hamount, u, hu, rfl⟩
  have hmessage := base64Decode_encode u.message
  simp only [buildEndpoint, hjson, hb]
  generalize Base64.encode u.message = text at hmessage ⊢
  generalize u.feePayerSignature.map Base64.encode = signature
  generalize u.validUntil = time at htime ⊢
  have hint : asInt (.int time) = .ok (time : Int) := by
    rw [asInt, if_pos]
    constructor <;> omega
  obtain ⟨hmessageField, htimeField, hsignatureField⟩ := toJson_fields ⟨text, time, signature⟩
  have hbuilt : builtFrom (BuildResponse.toJson ⟨text, time, signature⟩) =
      .ok ⟨text, time, signature⟩ :=
    builtFrom_eq_ok (by rw [hmessageField, asString]) (by rw [htimeField, hint]) hsignatureField
  have hbody : decodeResponse (some ⟨200, .json (BuildResponse.toJson ⟨text, time, signature⟩)⟩) =
      .ok (BuildResponse.toJson ⟨text, time, signature⟩) := rfl
  exact ⟨_, received_of hbody hbuilt hmessage⟩

theorem toString_of_pos {amount : Int} (h : 0 < amount) : toString amount = amount.toNat.repr := by
  obtain ⟨n, rfl⟩ := Int.eq_ofNat_of_zero_le h.le
  rfl

/-- Where the handler's answer is a message, it has built the transfer that the request
asks for. -/
theorem built_of_received {rpc : BuildRpc} {source dest : String} {amount : Int}
    {mint : Option String} {json : Json}
    {built : Built} {message : Bytes} (hamount : 0 < amount)
    (hrequest : buildRequest source dest amount mint = .post "/v1/tx/build" json)
    (h : received (some (buildEndpoint adapter rpc json)) = .ok (built, message)) :
    ∃ u, adapter.buildTransfer rpc ⟨source, dest, amount.toNat, mint⟩ = .ok u ∧
    message = u.message ∧
      built.feePayerSignature = u.feePayerSignature.map Base64.encode := by
  obtain ⟨json', hjson', hreq⟩ := ofJson_buildRequest source dest amount mint
  obtain rfl : json' = json := by
    rw [hjson'] at hrequest
    exact Request.post.inj hrequest |>.2
  obtain ⟨r, body, text, hr, hs, hdecoded, htext, hmessage, hsponsor⟩ := received_eq_ok h
  obtain rfl := Option.some.inj hr
  simp only [buildEndpoint, hreq] at hs hdecoded
  cases hb : build adapter rpc ⟨source, dest, toString amount, mint⟩ with
  | error e =>
    simp only [hb] at hs
    exact absurd e.statusCode_ge (not_le.mpr hs)
  | ok answer =>
    simp only [hb] at hdecoded
    obtain ⟨n, u, hparse, hu, hanswer⟩ := build_eq_ok hb
    obtain rfl : body = answer.toJson := (Except.ok.inj hdecoded).symm
    obtain ⟨hmessageField, -, hsponsorField⟩ := toJson_fields answer
    rw [toString_of_pos hamount, u128FromStr_repr] at hparse
    obtain ⟨-, rfl⟩ : amount.toNat < 2 ^ 128 ∧ amount.toNat = n := by simpa using hparse
    refine ⟨u, hu, ?_, ?_⟩
    · have ht : text = answer.message := Json.str.inj (htext.symm.trans hmessageField)
      rw [ht, hanswer, base64Decode_encode] at hmessage
      exact (Except.ok.inj hmessage).symm
    · rw [hsponsorField, hanswer] at hsponsor
      exact (Except.ok.inj hsponsor).symm

/-- What the adapter builds for an intent carries it out. -/
theorem carriedOut_of_buildTransfer (hdoc : adapter.sdk.Documented)
    {rpc : BuildRpc} {u : UnsignedTx}
    (hu : adapter.buildTransfer rpc
      ⟨intent.wallet.address, intent.recipient, intent.amount.toNat, intent.mint⟩ = .ok u) :
    intent.CarriedOutBy adapter u.message := by
  obtain ⟨source, dest, m, ixs, hsource, hdest, hm, hl, -, hmoves⟩ :=
    SolanaAdapter.buildTransfer_message hdoc hu
  refine ⟨m, source, dest, hm, hsource, hdest, ?_⟩
  obtain ⟨-, ⟨hmint, hixs⟩ | ⟨name, mint, decimals, hmint, hparse, hixs⟩⟩ := hl.movements
  · exact .inl ⟨hmint, by rw [hmoves, hixs]⟩
  · exact .inr ⟨name, mint, decimals, hmint, hparse, by rw [hmoves, hixs]⟩

/-- The handler's answer, where it is a message, is the transfer that was asked for. -/
theorem carriedOut_of_built {rpc : BuildRpc} {json : Json} {built : Built} {message : Bytes}
    (hdoc : adapter.sdk.Documented) (hamount : 0 < intent.amount)
    (hrequest : intent.request = .post "/v1/tx/build" json)
    (h : received (some (buildEndpoint adapter rpc json)) = .ok (built, message)) :
    intent.CarriedOutBy adapter message := by
  obtain ⟨u, hu, rfl, -⟩ := built_of_received hamount hrequest h
  exact carriedOut_of_buildTransfer hdoc hu

/-- What `send` hands over to be signed is, byte for byte, the message it received for
its own build request; and if build requests are answered by the handler, it carries
out the transfer and nothing else. -/
theorem signs_intended (hdoc : adapter.sdk.Documented)
    (hplain : isSolName intent.recipient = false) (kit : Kit)
    (idempotencyKey : Option String) (d : Device) (vs : List Verdict) :
    ∀ t ∈ (intent.send kit idempotencyKey).run.steps Device.execute d vs, ∀ message reason,
      t.call = .invokeMethod (.signMessage message reason) →
      (∃ t' ∈ (intent.send kit idempotencyKey).run.steps Device.execute d vs, t'.call =
        .http intent.request ∧
        ∃ built, received t'.verdict.response = .ok (built, message)) ∧
      ((∀ t' ∈ (intent.send kit idempotencyKey).run.steps Device.execute d vs,
        AnsweredBy adapter t') →
        intent.CarriedOutBy adapter message) := by
  intro t ht message reason hcall
  obtain ⟨hamount, t', ht', hcall', built, hreceived⟩ := signed_received hplain ht hcall
  refine ⟨⟨t', ht', hcall', built, hreceived⟩, fun hhonest => ?_⟩
  obtain ⟨json, hjson, -⟩ :=
    ofJson_buildRequest intent.wallet.address intent.recipient intent.amount intent.mint
  obtain ⟨r, _, _, hr, hs, -⟩ := received_eq_ok hreceived
  rcases hhonest t' ht' json r (hcall'.trans (congrArg Call.http hjson))
    hr with hfailed | ⟨rpc, rfl⟩
  · exact absurd hfailed (not_le.mpr hs)
  · rw [hr] at hreceived
    exact carriedOut_of_built hdoc hamount hjson hreceived

end Honest

section Samples

open Reference

/-- One million lamports, as the transfer the sample backend builds. -/
def sampleIntent : Intent := ⟨⟨senderAddress, .solana⟩, destAddress, 1000000, none⟩

def sampleAdapter : SolanaAdapter := ⟨sampleSdk, none⟩

/-- A phone that does everything it is asked to, and a backend with one answer. -/
def respond (response : Response) (c : Call) : Verdict :=
  Service.answer ⟨sampleService.reads, sampleService.entropy, some response⟩ c

theorem steps_respond (intent : Intent) {response : Response} {built : Built} {message : Bytes}
    (hchain : intent.wallet.chain = .solana)
    (hamount : 0 < intent.amount) (hplain : isSolName intent.recipient = false)
    (h : received (some response) = .ok (built, message)) :
    (intent.send sampleKit none).run.steps Device.execute Device.blank
        [respond response (.http intent.request), respond response .secRandomCopyBytes] =
      [⟨Device.blank, .http intent.request, respond response (.http intent.request)⟩,
        ⟨Device.blank, .invokeMethod (.signMessage message
          ("Approve sending to " ++ intent.recipient)), respond response .secRandomCopyBytes⟩] :=
  steps_send hchain hamount hplain h Device.blank

def sampleJson : Json :=
  .obj [("from", .str senderAddress), ("to", .str destAddress), ("amount", .str (Nat.repr 1000000))]

theorem sampleIntent_signed :
    ∃ vs message,
    (∃ t ∈ (sampleIntent.send sampleKit none).run.steps Device.execute Device.blank vs, ∃ reason,
      t.call = .invokeMethod (.signMessage message reason)) ∧
      sampleIntent.CarriedOutBy sampleAdapter message := by
  have hplain : isSolName destAddress = false := by rfl
  have hdoc : sampleAdapter.sdk.Documented := sampleSdk_documented
  obtain ⟨u, hu⟩ : ∃ u, sampleAdapter.buildTransfer (buildRpc true) transferIntent = .ok u :=
    SolanaAdapter.buildTransfer_isOk.mpr ⟨⟨senderKey, keyFromStr_sender⟩,
      transferIntent_buildable true⟩
  have htime : u.validUntil < 2 ^ 63 := by
    obtain ⟨_, _, _, _, -, -, -, -, rfl⟩ := SolanaAdapter.buildTransfer_eq_ok.mp hu
    change 0 + 90 < 2 ^ 63
    omega
  have hparse : u128FromStr (Nat.repr 1000000) = some 1000000 := by
    rw [u128FromStr_repr, if_pos (by omega)]
  obtain ⟨built, hreceived⟩ : ∃ built,
      received (some (buildEndpoint sampleAdapter (buildRpc true) sampleJson)) =
      .ok (built, u.message) := received_buildEndpoint rfl hparse hu htime
  have hsteps := steps_respond sampleIntent rfl (show (0 : Int) < 1000000 by omega) hplain hreceived
  refine ⟨_, u.message, ⟨_, hsteps ▸ List.mem_cons_of_mem _ List.mem_cons_self, _, rfl⟩, ?_⟩
  have h :=
    signs_intended hdoc (show isSolName sampleIntent.recipient =
      false from hplain) sampleKit none Device.blank
    [respond (buildEndpoint sampleAdapter (buildRpc true) sampleJson) (.http sampleIntent.request),
      respond (buildEndpoint sampleAdapter (buildRpc true) sampleJson) .secRandomCopyBytes]
  rw [hsteps] at h
  refine (h _ (List.mem_cons_of_mem _ List.mem_cons_self) _ _ rfl).2 fun t ht => ?_
  intro json response hcall hresponse
  simp only [List.mem_cons, List.not_mem_nil, or_false] at ht
  rcases ht with rfl | rfl
  · have hjson := (Request.post.inj (Call.http.inj hcall)).2
    exact .inr ⟨buildRpc true, by rw [← hjson]; exact (Option.some.inj hresponse).symm⟩
  · cases hcall

/-- Where the user sends one lamport, to a backend that is taken over. -/
def otherAddress : String := "4zvwRjXUKGfvwnParsHAS3HuSVzV5cA4McphgmoCtajS"

def deceivedIntent : Intent := ⟨⟨senderAddress, .solana⟩, otherAddress, 1, none⟩

def messageResponse (text : String) : Response :=
  ⟨200, .json (.obj [("message", .str text), ("valid_until", .int 0)])⟩

theorem messageResponse_received (message : Bytes) :
    received (some (messageResponse (Base64.encode message))) =
      .ok (⟨Base64.encode message, 0, none⟩, message) := by
  have hmessage := base64Decode_encode message
  generalize Base64.encode message = text at hmessage ⊢
  have hbody : decodeResponse (some (messageResponse text)) =
      .ok (.obj [("message", .str text), ("valid_until", .int 0)]) := rfl
  have hbuilt : builtFrom (.obj [("message", .str text), ("valid_until", .int 0)]) =
      .ok ⟨text, 0, none⟩ := rfl
  exact received_of hbody hbuilt hmessage

def forgedResponse : Response := messageResponse (Base64.encode (transferMessage false))

/-- A message that moves a million lamports somewhere else is handed over all the same. -/
theorem forgedTransfer_signed :
    sampleSdk.Documented ∧ ¬ ∀ (intent : Intent) (vs : List Verdict),
    isSolName intent.recipient = false →
      ∀ t ∈ (intent.send sampleKit none).run.steps Device.execute Device.blank vs, ∀ message reason,
        t.call = .invokeMethod (.signMessage message reason) →
        intent.CarriedOutBy sampleAdapter message := by
  refine ⟨sampleSdk_documented, fun h => ?_⟩
  have hplain : isSolName otherAddress = false := by rfl
  have hreceived : received (some forgedResponse) = .ok (⟨_, 0, none⟩, transferMessage false) :=
    messageResponse_received _
  have hcarried := h deceivedIntent
    [respond forgedResponse (.http deceivedIntent.request),
      respond forgedResponse .secRandomCopyBytes] hplain
  rw [steps_respond deceivedIntent rfl (show (0 : Int) < 1 by omega) hplain hreceived] at hcarried
  obtain ⟨m, source, dest, hm, -, -, ⟨-, hmoves⟩ | ⟨text, _, _, hmint, -⟩⟩ :=
    hcarried _ (List.mem_cons_of_mem _ List.mem_cons_self) _ _ rfl
  · have hmoved : (sampleAdapter.sdk.deserializeMessage (transferMessage false)).bind
        (·.movements sampleAdapter.sdk) =
        some [.systemTransfer senderKey destKey 1000000] := by
      change (sampleSdk.deserializeMessage (transferMessage false)).bind (·.movements sampleSdk) = _
      rw [deserialize_transfer, Option.bind_some, transfer_movements]
    rw [hm, Option.bind_some, hmoves] at hmoved
    simp [deceivedIntent] at hmoved
  · cases hmint

end Samples

end XendWallet

end Xend.Sdk
