import Xend.Payment

/-! Every run of `send`, also one that fails, is cancelled or dies on the way: nothing is
recorded before the last step, and that one submits what the phone has signed. -/

namespace Xend

open Framing Interaction

section Footprint

/-- The calls a submission makes touch its own key only. -/
def Call.Within (key : String) : Call → Prop
  | .insertPending _ k _ _ _ => k = key
  | .markSubmitted k _ => k = key
  | .upsert _ => False
  | _ => True

theorem within_submit (sdk : SolanaSdk) (req : SubmitRequest) :
    (submit sdk req).run.Calls (Call.Within req.idempotencyKey) := by
  have hquery : ∀ {c : Call}, c.Within req.idempotencyKey →
      (query c).run.Calls (Call.Within req.idempotencyKey) :=
    fun hc => ⟨hc, fun _ => trivial⟩
  have hrelay : ∀ signed, (relay sdk req signed).run.Calls (Call.Within req.idempotencyKey) := by
    intro signed
    refine calls_bind trivial fun _ => calls_bind (hquery trivial) fun signature => ?_
    exact calls_bind (hquery rfl) fun _ => trivial
  have hclaim : ∀ signed walletId,
      (claim sdk req signed walletId).run.Calls (Call.Within req.idempotencyKey) :=
    fun signed walletId => calls_bind (hquery rfl) fun _ => hrelay signed
  refine calls_bind trivial fun signed => calls_bind (hquery trivial) fun existing => ?_
  match existing with
  | some ⟨some signature, status⟩ => trivial
  | some ⟨none, _⟩ => exact hrelay signed
  | none =>
    cases req.pubkey with
    | some pubkey => exact calls_bind (hquery trivial) fun walletId => hclaim signed walletId
    | none => exact hclaim signed none

theorem Ledger.OnlyRow.execute {key : String} {l l' : Ledger} (h : l.OnlyRow key l')
    {c : Call} (hc : c.Within key)
    (v : Verdict) : l.OnlyRow key (l'.execute c v).1 := by
  constructor
  · rw [← h.wallets]
    rcases Ledger.execute_world (l := l') (c := c) (v := v) with hsame | hserved
    · rw [hsame]
    · rw [hserved]
      cases c with
      | upsert pubkey => exact absurd hc id
      | insertPending walletId k toAddress amount mint => exact Ledger.insertPending_wallets
      | markSubmitted k signature =>
        rw [Ledger.serve]
        cases hm : l'.markSubmitted k signature v.now with
        | error e => rfl
        | ok l'' => exact Ledger.markSubmitted_wallets hm
      | _ => rfl
  · intro k hk
    rw [← h.rows k hk]
    rcases Ledger.execute_row l' c v k with hsame | ⟨_, _, _, _, rfl, -⟩ | ⟨_, _, rfl, -⟩
    · exact hsame
    · exact absurd hc hk
    · exact absurd hc hk

/-- However a submission ends, it has touched the row of its key only. -/
theorem onlyRow_submit (sdk : SolanaSdk) (req : SubmitRequest) (l : Ledger) (vs : List Verdict) :
    l.OnlyRow req.idempotencyKey ((submit sdk req).run.run Ledger.execute l vs).1 := by
  have hspec : (submit sdk req).run.Spec Ledger.execute (fun _ => True)
      (l.OnlyRow req.idempotencyKey)
      (fun _ => l.OnlyRow req.idempotencyKey) l :=
    (within_submit sdk req).spec (fun l' c v hc h => h.execute hc v) (fun _ h => h)
      ⟨rfl, fun _ _ => rfl⟩
  exact (hspec.run vs fun _ _ => trivial).1

end Footprint

namespace Sdk

open BackendClient

section Exchange

variable {b : Backend} {apiKey : Option String}

theorem performed_ledger (s : ServerState) (a : Arrived) (asked : ApiRequest) :
    (performed b s a asked).1.ledger = s.ledger ∨
      (performed b s a asked).1.ledger =
        ((asked.handler b a.upstream).run.run Ledger.execute s.ledger a.verdicts).1 := by
  rw [performed]
  generalize b.gateway.handle s.windows ⟨a.time, a.request.authorization⟩ = admitted
  obtain ⟨windows, _ | _⟩ := admitted
  · exact .inl rfl
  · exact .inr rfl

/-- What an exchange does to the ledger, if anything, its handler does. -/
theorem exchange_ledger (b : Backend) (apiKey : Option String) {m : Method} (hm : m.Sendable)
    (s : Deployment) (v : Circumstance) :
    (s.exchange b apiKey v m.request).1.ledger = (s.met b v).ledger ∨
      (s.exchange b apiKey v m.request).1.ledger =
        ((m.asked.handler b v.upstream).run.run Ledger.execute
          (s.met b v).ledger v.verdicts).1 := by
  unfold Deployment.exchange
  cases v.arrives with
  | false => exact .inl rfl
  | true =>
    have hserve :=
      serve_reached (b := b) (s := s.met b v) (a := v.arrived apiKey m.request)
        (m.reaches hm apiKey b.web)
    simp only [if_true, hserve]
    exact performed_ledger _ _ _

theorem onlyRow_exchange {signed key source dest : String} {amount : Int}
    {mint : Option String} (s : Deployment)
    (v : Circumstance) : (s.met b v).ledger.OnlyRow key
      (s.exchange b apiKey v
        (Method.submitTransaction signed key source dest amount mint).request).1.ledger := by
  have hsendable : (Method.submitTransaction signed key source dest amount mint).Sendable := trivial
  rcases exchange_ledger b apiKey hsendable s v with hsame | hran
  · rw [hsame]
    exact ⟨rfl, fun k _ => rfl⟩
  · have honly :=
      onlyRow_submit b.adapter.sdk ⟨signed, key, some source, some dest,
        some (toString amount), mint⟩
      (s.met b v).ledger v.verdicts
    rw [hran]
    simp only [Method.asked, ApiRequest.handler, ExceptT.run_map, Prog.run_map]
    exact honly

/-- The ledger that a call finds: others may have been served in the meantime. -/
def Deployment.found (b : Backend) (s : Deployment) (v : Circumstance) : Call → Ledger
  | .http _ => (s.met b v).ledger
  | _ => s.server.ledger

/-- A step that leaves the ledger as it finds it. -/
def Quiet (b : Backend) (apiKey : Option String) (t : DeployedStep) : Prop :=
  (t.before.execute b apiKey t.call t.verdict).1.server.ledger = t.before.found b t.verdict t.call

/-- A call for nothing that is kept. -/
def Silent (b : Backend) (c : Call) : Prop :=
  ∀ request, c = .http request → ∃ m : Method, m.Sendable ∧ request = m.request ∧
    ∀ up, ∃ r, m.asked.handler b up = attempt r

theorem quiet_of_silent {t : DeployedStep} (h : Silent b t.call) : Quiet b apiKey t := by
  obtain ⟨s, c, v⟩ := t
  by_cases hhttp : ∃ request, c = .http request
  · obtain ⟨request, rfl⟩ := hhttp
    obtain ⟨m, hm, rfl, hhandler⟩ := h request rfl
    obtain ⟨r, hr⟩ := hhandler v.upstream
    change (s.exchange b apiKey v m.request).1.ledger = (s.met b v).ledger
    rcases exchange_ledger b apiKey hm s v with hsame | hran
    · exact hsame
    · rw [hran, hr]
      rfl
  · have hnative : ∀ request, c ≠ .http request := fun request hc => hhttp ⟨request, hc⟩
    have hfound : s.found b v c = s.server.ledger := by
      cases c with
      | http request => exact absurd rfl (hnative request)
      | _ => rfl
    rw [Quiet, s.execute_native hnative v, hfound]

end Exchange

namespace XendWallet

section Traceless

variable {b : Backend} {apiKey : Option String} {kit : Kit} {s : Deployment}
    {vs : List Circumstance} {intent : Intent}
  {idempotencyKey : Option String}

theorem silent_native {c : Call} (h : ∀ request, c ≠ .http request) : Silent b c :=
  fun request hc => absurd hc (h request)

theorem silent_prepare (b : Backend) (kit : Kit) (intent : Intent)
    (idempotencyKey : Option String) :
    (intent.prepare kit idempotencyKey).run.Calls (Silent b) := by
  have hasks : ∀ m : Method, m.Sendable → (∀ up, ∃ r, m.asked.handler b up = attempt r) →
      Silent b (.http m.request) := by
    intro m hm hhandler request hrequest
    obtain rfl := Call.http.inj hrequest
    exact ⟨m, hm, rfl, hhandler⟩
  have hresolve : (XendWallet.resolveName intent.recipient).run.Calls (Silent b) := by
    unfold XendWallet.resolveName
    split
    · exact calls_bind
        (calls_send (hasks (.resolveName intent.recipient) trivial fun up => ⟨_, rfl⟩)) fun _ =>
          calls_throwing
    · trivial
  by_cases hchain : intent.wallet.chain = .solana
  · by_cases hamount : intent.amount ≤ 0
    · simp only [Intent.prepare, requireSolana, hchain, if_true, pure_bind, hamount]
      trivial
    · simp only [Intent.prepare, requireSolana, hchain, if_true, pure_bind, hamount, if_false]
      refine calls_bind hresolve fun recipient => calls_bind (calls_bind (calls_send
        (hasks (.buildTransfer intent.wallet.address recipient intent.amount intent.mint) trivial
          fun up => ⟨_, rfl⟩))
          fun _ => calls_throwing) fun built => ?_
      refine calls_bind calls_throwing fun message =>
        calls_bind (calls_invoke_signMessage fun c hc => silent_native hc)
        fun signature => ?_
      refine calls_bind calls_throwing fun sponsor => calls_bind ?_ fun key => trivial
      cases idempotencyKey with
      | none => exact calls_bind (calls_request (silent_native (by simp))) fun _ => trivial
      | some key => trivial
  · simp only [Intent.prepare, requireSolana, hchain, if_false]
    trivial

theorem run_conclude (intent : Intent) (signed key recipient : String) :
    ∃ f : Option Response → Except (Halt DartError) String,
    (intent.conclude (signed, key, recipient)).run =
      .call (.http
        (Method.submitTransaction signed key intent.wallet.address recipient
          intent.amount intent.mint).request)
        fun response => .done (f response) := by
  refine ⟨fun response =>
    ((Method.submitTransaction signed key intent.wallet.address recipient intent.amount
    intent.mint).read response).map Submitted.signature, ?_⟩
  have hrun :=
    (Method.submitTransaction signed key intent.wallet.address recipient
      intent.amount intent.mint).run_read
  change (submitTransaction signed key intent.wallet.address recipient intent.amount
    intent.mint).run = _ at hrun
  rw [Intent.conclude, run_bind, hrun]
  refine congrArg (Prog.call _) (funext fun response => ?_)
  dsimp only
  cases (Method.submitTransaction signed key intent.wallet.address recipient intent.amount
    intent.mint).read response <;> rfl

/-- The step that submits what was prepared: it touches one row. -/
def Submits (b : Backend) (apiKey : Option String) (intent : Intent)
    (idempotencyKey : Option String)
    (earlier : List DeployedStep) (t : DeployedStep) : Prop :=
  ∃ recipient u signature key, Prepared b intent idempotencyKey earlier recipient u signature key ∧
    t.call = .http (intent.submission recipient u signature key).request ∧
    (t.before.met b t.verdict).ledger.OnlyRow key
      (t.before.execute b apiKey t.call t.verdict).1.server.ledger

/-- However a `send` ends: every step of it is quiet, but perhaps the last one, in which a
transfer is submitted that carries out the intent and that the phone signed before. -/
theorem send_traceless {keys : Option String} (hgateway : b.gateway = .fromEnv keys)
    (hdoc : b.adapter.sdk.Documented)
    (hclock : ∀ t ∈ (intent.send kit idempotencyKey).run.steps (Deployment.execute b apiKey) s vs,
      t.verdict.Timely) :
    ∃ earlier last, (intent.send kit idempotencyKey).run.steps (Deployment.execute b apiKey) s vs =
      earlier ++ last ∧
      (∀ t ∈ earlier, Quiet b apiKey t) ∧
      (last = [] ∨ ∃ t, last = [t] ∧ Submits b apiKey intent idempotencyKey earlier t) := by
  have hquiet : ∀ t ∈ (intent.prepare kit idempotencyKey).run.steps (Deployment.execute b apiKey)
      s vs, Quiet b apiKey t :=
    fun t ht => quiet_of_silent ((silent_prepare b kit intent idempotencyKey).steps s vs t ht)
  rw [send_eq_prepare, run_bind] at hclock ⊢
  rcases Prog.bind_cases (Deployment.execute b apiKey) (intent.prepare kit idempotencyKey).run
    (proceed intent.conclude) s vs with
    ⟨-, -, hsteps⟩ | ⟨prepared, vs', hprepared, -, hsteps⟩
  · exact ⟨_, [], by rw [hsteps, List.append_nil], hquiet, .inl rfl⟩
  · rw [hsteps] at hclock
    refine ⟨_, _, hsteps, hquiet, ?_⟩
    cases prepared with
    | error e => exact .inl rfl
    | ok prepared =>
      obtain ⟨signed, key, recipient⟩ := prepared
      obtain ⟨u, signature, rfl, hready⟩ :=
        prepared_of_run hgateway hdoc (fun t ht => hclock t (by simp [ht]))
        (Prod.ext rfl hprepared)
      obtain ⟨f, hconclude⟩ := run_conclude intent
        (Base64.encode
          (assembleSignedTransaction (u.feePayerSignature.toList ++ [signature.1]) u.message))
            key recipient
      rw [proceed, hconclude]
      cases vs' with
      | nil => exact .inl rfl
      | cons v vs' =>
        refine .inr ⟨_, rfl, recipient, u, signature, key, hready, rfl, ?_⟩
        exact onlyRow_exchange _ v

end Traceless

section Sample

open Reference

/-- Where nobody else is served, a quiet step changes nothing at all. -/
theorem ledger_of_quiet {b : Backend} {apiKey : Option String} {t : DeployedStep}
    (hquiet : Quiet b apiKey t)
    (halone : t.verdict.others = []) :
    (t.before.execute b apiKey t.call t.verdict).1.server.ledger = t.before.server.ledger := by
  have hmet : (t.before.met b t.verdict).ledger = t.before.server.ledger := by
    rw [Deployment.met, halone]
    rfl
  rw [hquiet]
  cases t.call with
  | http request => exact hmet
  | _ => rfl

theorem send_traceless_sample :
    ∃ vs earlier t,
    ((sampleIntent.send sampleKit (some "key")).run.run (Deployment.execute sampleBackend none)
        sampleDeployment vs).2 = some (.ok (signatureText true)) ∧
      (sampleIntent.send sampleKit (some "key")).run.steps (Deployment.execute sampleBackend none)
        sampleDeployment vs =
        earlier ++ [t] ∧ (∀ t ∈ earlier, Quiet sampleBackend none t) ∧
      Submits sampleBackend none sampleIntent (some "key") earlier t := by
  obtain ⟨s', hsent⟩ := sent_sample
  obtain ⟨vs, hrun, hsteps⟩ :=
    Prog.run_answered (Deployment.execute sampleBackend none) (fun _ => sampleCircumstance)
    (sampleIntent.send sampleKit (some "key")).run sampleDeployment
  rw [hsent] at hrun
  have hclock : ∀ t ∈ (sampleIntent.send sampleKit (some "key")).run.steps
      (Deployment.execute sampleBackend none)
      sampleDeployment vs, t.verdict.Timely := by
    intro t ht
    rw [hsteps t ht]
    exact show 0 + 90 < 2 ^ 63 by omega
  obtain ⟨earlier, last, hsplit, hquiet, rfl | ⟨t, rfl, hsubmits⟩⟩ :=
    send_traceless (show sampleBackend.gateway = .fromEnv none from rfl) sampleSdk_documented hclock
  · -- the ledger would be as empty as it was, and it has the signature
    have hempty : s'.server.ledger = .empty ∅ := by
      have hquiets : ∀ t : Step Call Deployment Circumstance,
          Quiet sampleBackend none t ∧ t.verdict.others = [] → t.before.server.ledger = .empty ∅ →
            (t.before.execute sampleBackend none t.call t.verdict).1.server.ledger = .empty ∅ :=
        fun t ht hs => (ledger_of_quiet ht.1 ht.2).trans hs
      have hkept :=
        Prog.run_preserves (J := fun s : Deployment => s.server.ledger = .empty ∅) hquiets
        (sampleIntent.send sampleKit (some "key")).run (s := sampleDeployment) rfl vs fun t ht =>
          ⟨hquiet t (by rwa [hsplit, List.append_nil] at ht), by rw [hsteps t ht]; rfl⟩
      rwa [hrun] at hkept
    obtain ⟨_, _, _, _, _, _, _, _, -, hprepared, haccounted⟩ :=
      paid_of_run (show sampleBackend.gateway =
        .fromEnv none from rfl) sampleSdk_documented hclock hrun
    obtain rfl := hprepared.key_eq "key" rfl
    have hsigned := haccounted.signed
    rw [hempty] at hsigned
    cases hsigned
  · exact ⟨vs, earlier, t, congrArg Prod.snd hrun, hsplit, hquiet, hsubmits⟩

end Sample

end XendWallet

end Sdk

end Xend
