import Xend.Assembly
import Xend.Deployment
import Xend.SubmitRuns

/-! A payment from one end to the other: what `send` asked for, what the backend built,
what the phone signed and what the ledger says in the end. -/

namespace Xend

open Framing Interaction

section Submission

/-- The row a submission claims where its key has none. -/
def SubmitRequest.pending (req : SubmitRequest) (l : Ledger) (now : Nat) : Row :=
  ⟨req.pubkey.bind l.findIdByPubkey, none, "pending", req.toAddress, req.amount, req.mint, now, now⟩

/-- Nothing but the row of one key is different. -/
structure Ledger.OnlyRow (key : String) (l l' : Ledger) : Prop where
  wallets : l'.wallets = l.wallets
  rows : ∀ k, k ≠ key → l'.rows.lookup k = l.rows.lookup k

/-- What a submission that succeeds makes of the ledger it finds. -/
inductive Accounted (sdk : SolanaSdk) (req : SubmitRequest) (l : Ledger) :
    SubmitResponse → Ledger → Prop
  | replayed {signature status : String}
      (h : l.findByIdempotency req.idempotencyKey = some ⟨some signature, status⟩) :
    Accounted sdk req l ⟨signature, status⟩ l
  | marked {signature : String} {l' : Ledger} {claimed : Row} (claimedAt updatedAt : Nat)
    (hrow : l.rows.lookup req.idempotencyKey = some claimed ∧ claimed.signature = none ∨
      l.rows.lookup req.idempotencyKey = none ∧ claimed = req.pending l claimedAt)
    (hvalid : sdk.validateSigned req.payload = .ok ()) (hframe : l.OnlyRow req.idempotencyKey l')
    (hself : l'.rows.lookup req.idempotencyKey =
      some { claimed with
        signature := some signature, status := "submitted", updatedAt := updatedAt }) :
    Accounted sdk req l ⟨signature, "submitted"⟩ l'

theorem Ledger.execute_ok {l : Ledger} {c : Call} {v : Verdict} {x : c.Value}
    (h : (l.execute c v).2 = .ok x) :
    l.execute c v = l.serve v c := by
  cases ho : v.outage with
  | none => exact execute_of_no_outage ho
  | some o =>
    cases hc : c.isBroadcast with
    | true =>
      unfold execute
      rw [hc]
      rfl
    | false =>
      rw [execute_of_outage hc ho] at h
      cases h

/-- If `x` succeeds, then in `Q`. -/
abbrev Succeeds {α : Type} (x : Handler α) (Q : α → Ledger → Prop) (l : Ledger) : Prop :=
  x.run.Spec Ledger.execute (fun _ => True) (fun _ => True) (Ends (fun _ _ => True) Q) l

theorem succeeds_query {c : Call} {Q : c.Value → Ledger → Prop} {l : Ledger}
    (h : ∀ v x l', l.serve v c = (l', .ok x) → Q x l') : Succeeds (query c) Q l := by
  refine ⟨trivial, fun v _ => ⟨trivial, ?_⟩⟩
  cases hr : (l.execute c v).2 with
  | error e => trivial
  | ok x =>
    have hserve := Ledger.execute_ok hr
    rw [hserve] at hr ⊢
    exact h v x _ (Prod.ext rfl hr)

theorem succeeds_attempt {α : Type} {r : Except AppError α} {Q : α → Ledger → Prop} {l : Ledger}
    (h : ∀ a, r = .ok a → Q a l) : Succeeds (attempt r) Q l := by
  refine spec_attempt trivial ?_
  cases r with
  | error e => trivial
  | ok a => exact h a rfl

variable {sdk : SolanaSdk} {req : SubmitRequest}

theorem succeeds_record {l : Ledger} {row : Row}
    (hrow : l.rows.lookup req.idempotencyKey = some row) (signature : String) :
    Succeeds (record req signature) (fun r l' => ∃ updatedAt, r = ⟨signature, "submitted"⟩ ∧
      l.OnlyRow req.idempotencyKey l' ∧
      l'.rows.lookup req.idempotencyKey =
        some { row with
          signature := some signature, status := "submitted", updatedAt := updatedAt }) l := by
  refine spec_bind (spec_mono (succeeds_query fun v x l' h => ?_)
    fun _ l' _ h => spec_pure trivial h)
  rw [Ledger.serve] at h
  cases hmark : l.markSubmitted req.idempotencyKey signature v.now with
  | error e =>
    rw [hmark] at h
    cases h
  | ok l'' =>
    rw [hmark] at h
    obtain rfl : l'' = l' := congrArg Prod.fst h
    rcases Ledger.markSubmitted_row hmark with ⟨hnone, -⟩ | ⟨row', hrow', -, hself, hne⟩
    · rw [hnone] at hrow
      cases hrow
    · obtain rfl := Option.some.inj (hrow'.symm.trans hrow)
      exact ⟨v.now, rfl, ⟨Ledger.markSubmitted_wallets hmark, hne⟩, hself⟩

theorem succeeds_relay {l : Ledger} {row : Row}
    (hrow : l.rows.lookup req.idempotencyKey = some row) :
    Succeeds (relay sdk req req.payload)
      (fun r l' => ∃ updatedAt, sdk.validateSigned req.payload = .ok () ∧
      r.status = "submitted" ∧ l.OnlyRow req.idempotencyKey l' ∧ l'.rows.lookup req.idempotencyKey =
        some { row with
          signature := some r.signature, status := "submitted", updatedAt := updatedAt }) l := by
  refine spec_bind (succeeds_attempt fun _ hvalid => ?_)
  refine spec_bind (spec_mono (succeeds_query (Q := fun _ l' => l' = l) fun v x l' h => ?_)
    fun signature l' _ hl => ?_)
  · exact (congrArg Prod.fst h).symm
  · subst hl
    refine spec_mono (succeeds_record hrow signature) fun r l'' _ h => ?_
    obtain ⟨updatedAt, rfl, hframe, hself⟩ := h
    exact ⟨updatedAt, hvalid, rfl, hframe, hself⟩

theorem succeeds_claim {l : Ledger} (hnone : l.rows.lookup req.idempotencyKey = none) :
    Succeeds (claim sdk req req.payload (req.pubkey.bind l.findIdByPubkey))
      (Accounted sdk req l) l := by
  refine spec_bind (spec_mono (succeeds_query
    (Q := fun _ l' => ∃ now, l.OnlyRow req.idempotencyKey l' ∧
      l'.rows.lookup req.idempotencyKey = some (req.pending l now))
    fun v x l' h => ?_) fun _ l₁ _ h => ?_)
  · obtain rfl := congrArg Prod.fst h
    refine ⟨v.now, ⟨Ledger.insertPending_wallets, fun k hk => ?_⟩, ?_⟩
    · rcases l.insertPending_row (req.pubkey.bind l.findIdByPubkey) req.idempotencyKey req.toAddress
        req.amount req.mint v.now k
        with hsame | ⟨hkey, -⟩
      · exact hsame
      · exact absurd hkey hk
    · have hnot := AList.lookup_eq_none.mp hnone
      change (Ledger.insertPending _ _ _ _ _ _ _).rows.lookup _ = _
      rw [Ledger.insertPending, if_neg hnot]
      exact AList.lookup_insert _
  · obtain ⟨now, hframe, hself⟩ := h
    refine spec_mono (succeeds_relay hself) fun r l₂ _ h => ?_
    obtain ⟨signature, status⟩ := r
    obtain ⟨updatedAt, hvalid, rfl, hframe', hself'⟩ := h
    have hwhole : l.OnlyRow req.idempotencyKey l₂ :=
      ⟨hframe'.wallets.trans hframe.wallets,
        fun k hk => (hframe'.rows k hk).trans (hframe.rows k hk)⟩
    exact .marked now updatedAt (.inr ⟨hnone, rfl⟩) hvalid hwhole hself'

theorem succeeds_submit (l : Ledger) : Succeeds (submit sdk req) (Accounted sdk req l) l := by
  refine spec_bind (succeeds_attempt fun signed hsigned => ?_)
  obtain rfl : req.payload = signed := by
    rw [SubmitRequest.payload, okOr_eq_ok.mp hsigned]
    rfl
  refine spec_bind (spec_mono (succeeds_query
    (Q := fun found l' => found = l.findByIdempotency req.idempotencyKey ∧
      l' = l) fun v x l' h => ?_) fun found l' _ h => ?_)
  · obtain ⟨rfl, hx⟩ := Prod.mk.inj h
    exact ⟨(Except.ok.inj hx).symm, rfl⟩
  · obtain ⟨rfl, hl⟩ := h
    subst hl
    cases hrow : l'.rows.lookup req.idempotencyKey with
    | none =>
      have hfound : l'.findByIdempotency req.idempotencyKey = none := by
        rw [Ledger.findByIdempotency, hrow]; rfl
      have hclaim : Succeeds (claim sdk req req.payload (req.pubkey.bind l'.findIdByPubkey))
          (Accounted sdk req l') l' :=
        succeeds_claim hrow
      rw [hfound]
      dsimp only
      cases hpubkey : req.pubkey with
      | none =>
        rw [hpubkey] at hclaim
        exact hclaim
      | some pubkey =>
        rw [hpubkey] at hclaim
        refine spec_bind (spec_mono (succeeds_query
          (Q := fun walletId l₁ => walletId = l'.findIdByPubkey pubkey ∧
            l₁ = l') fun v x l' h => ?_) fun walletId l' _ h => ?_)
        · obtain ⟨rfl, hx⟩ := Prod.mk.inj h
          exact ⟨(Except.ok.inj hx).symm, rfl⟩
        · obtain ⟨rfl, rfl⟩ := h
          exact hclaim
    | some row =>
      obtain ⟨walletId, signature, status, toAddress, amount, mint, createdAt, updatedAt⟩ := row
      have hfound : l'.findByIdempotency req.idempotencyKey = some ⟨signature, status⟩ := by
        rw [Ledger.findByIdempotency, hrow]
        rfl
      rw [hfound]
      cases signature with
      | some signature => exact spec_pure trivial (.replayed hfound)
      | none =>
        refine spec_mono (succeeds_relay hrow) fun r l' _ h => ?_
        obtain ⟨signature, status⟩ := r
        obtain ⟨updatedAt, hvalid, rfl, hframe, hself⟩ := h
        exact .marked updatedAt updatedAt (.inl ⟨hrow, rfl⟩) hvalid hframe hself

theorem Accounted.signed {l l' : Ledger} {r : SubmitResponse} (h : Accounted sdk req l r l') :
    l'.signatureOf req.idempotencyKey = some r.signature := by
  cases h with
  | replayed h => rw [Ledger.signatureOf, h]; rfl
  | marked _ _ _ _ _ hself => exact Ledger.signatureOf_eq_some.mpr ⟨_, hself, rfl⟩

/-- A submission that succeeds has left its mark. -/
theorem accounted_of_run {l l' : Ledger} {vs : List Verdict} {r : SubmitResponse}
    (h : (submit sdk req).run.run Ledger.execute l vs = (l', some (.ok r))) :
    Accounted sdk req l r l' := by
  have hsucceeds : Succeeds (submit sdk req) (Accounted sdk req l) l := succeeds_submit l
  have hends := (hsucceeds.run vs fun _ _ => trivial).2 _ (congrArg Prod.snd h)
  rw [h] at hends
  exact hends

end Submission

/-- The address that a recipient stands for: its own, or the one its name resolves to. -/
inductive Backend.Means (b : Backend) : String → String → Prop
  | name {name recipient : String} (hname : Sdk.isSolName name = true) (rpc : ReadRpc)
    (h : resolve b.adapter.sdk b.hashv rpc name = .ok ⟨name, recipient⟩) : b.Means name recipient
  | address {recipient : String} (hplain : Sdk.isSolName recipient = false) :
      b.Means recipient recipient

namespace Sdk

namespace XendWallet

open BackendClient

section Payment

variable {b : Backend} {apiKey : Option String} {kit : Kit} {s s' : Deployment}
    {vs : List Circumstance}

theorem calls_invoke_signMessage {P : Call → Prop} {message : Bytes} {reason : String}
    (h : ∀ c : Call, (∀ request, c ≠ .http request) → P c) :
    (invoke (.signMessage message reason) (SecureSigner.signMessage kit message reason)).run.Calls
      P := by
  refine calls_invoke (h _ (by simp))
    (calls_bind (calls_bind (calls_request (h _ (by simp))) fun _ => SecureSigner.calls_found)
      fun key => ?_)
  refine calls_bind (SecureSigner.calls_keychainGet (h _ (by simp))) fun ciphertext => ?_
  refine calls_bind (SecureSigner.calls_unwrap (h _ (by simp))) fun plaintext => ?_
  refine calls_bind SecureSigner.calls_rawRepresentation fun signingKey => ?_
  refine calls_bind (calls_request (h _ (by simp))) fun signature => ?_
  cases signature <;> trivial

/-- A call over the channel that returns is its native function's. -/
theorem run_invoke_ok {α : Type} {method : MethodCall} {x : Native α} {a : α}
    (hrun : (invoke method x).run.run (Deployment.execute b apiKey) s vs = (s', some (.ok a))) :
    ∃ vs', x.run.run (Deployment.execute b apiKey) s vs' = (s', some (.ok a)) ∧
      ∀ t ∈ x.run.steps (Deployment.execute b apiKey) s vs',
      t ∈ (invoke method x).run.steps (Deployment.execute b apiKey) s vs := by
  obtain ⟨_, s₁, vs', hask, hrest, hsteps⟩ := run_bind_ok hrun
  obtain ⟨v, hexecute, -⟩ := run_request_ok hask
  obtain rfl : s = s₁ := congrArg Prod.fst hexecute
  change (Except.mapError acrossChannel <$> x.run).run _ s vs' = _ at hrest
  rw [Prog.run_map] at hrest
  obtain ⟨rfl, hresult⟩ := Prod.mk.inj hrest
  obtain ⟨r, hr, hmapped⟩ := Option.map_eq_some_iff.mp hresult
  refine ⟨vs', ?_, fun t ht => ?_⟩
  · cases r with
    | error e => cases hmapped
    | ok x =>
      obtain rfl := Except.ok.inj hmapped
      exact Prod.ext rfl hr
  · rw [invoke, hsteps]
    refine List.mem_append_right _ ?_
    change t ∈ (Except.mapError acrossChannel <$> x.run).steps _ s vs'
    rwa [Prog.steps_map]

/-- A signature that `signMessage` returns was made over the message, by a key of the phone. -/
theorem signed_of_run {message : Bytes} {reason : String} {signature : Signature}
    (hrun : (invoke (.signMessage message reason)
      (SecureSigner.signMessage kit message reason)).run.run
      (Deployment.execute b apiKey) s vs = (s', some (.ok signature))) :
    ∃ t ∈ (invoke (.signMessage message reason)
      (SecureSigner.signMessage kit message reason)).run.steps
        (Deployment.execute b apiKey) s vs,
      ∃ privateKey, t.call = .signature privateKey message ∧
      t.verdict.native.signature = some signature := by
  obtain ⟨vs₁, hnative, hsteps⟩ := run_invoke_ok hrun
  obtain ⟨enclaveKey, s₂, vs₂, -, hkey, hsteps₁⟩ := run_bind_ok hnative
  obtain ⟨ciphertext, s₃, vs₃, -, hciphertext, hsteps₂⟩ := run_bind_ok hkey
  obtain ⟨plaintext, s₄, vs₄, -, hplaintext, hsteps₃⟩ := run_bind_ok hciphertext
  obtain ⟨signingKey, s₅, vs₅, -, hsigning, hsteps₄⟩ := run_bind_ok hplaintext
  obtain ⟨made, s₆, vs₆, hmade, hanswer, hsteps₅⟩ := run_bind_ok hsigning
  obtain ⟨v, hexecute, hstep⟩ := run_request_ok hmade
  have hsigned : made = some signature := by
    cases made with
    | none => cases hanswer
    | some bytes =>
      obtain ⟨-, hr⟩ := Prod.mk.inj hanswer
      exact congrArg some (Except.ok.inj (Option.some.inj hr))
  have hverdict : v.native.signature = made := congrArg Prod.snd hexecute
  have hmem : ⟨s₅, .signature signingKey.1 message, v⟩ ∈
      (SecureSigner.signMessage kit message reason).run.steps
        (Deployment.execute b apiKey) s vs₁ := by
    rw [SecureSigner.signMessage, hsteps₁, hsteps₂, hsteps₃, hsteps₄, hsteps₅, hstep]
    simp
  exact ⟨_, hsteps _ hmem, signingKey.1, rfl, hverdict.trans hsigned⟩

/-- The submission of a transfer that was signed. -/
def Intent.submission (intent : Intent) (recipient : String) (u : UnsignedTx)
    (signature : Signature) (key : String) : Method :=
  .submitTransaction
    (Base64.encode
      (assembleSignedTransaction (u.feePayerSignature.toList ++ [signature.1]) u.message)) key
    intent.wallet.address recipient intent.amount intent.mint

def Intent.submitted (intent : Intent) (recipient : String) (u : UnsignedTx)
    (signature : Signature) (key : String) :
    SubmitRequest :=
  ⟨Base64.encode (assembleSignedTransaction (u.feePayerSignature.toList ++
    [signature.1]) u.message), key, some intent.wallet.address, some recipient,
    some (toString intent.amount), intent.mint⟩

theorem resolved_of_run {keys : Option String} (hgateway : b.gateway = .fromEnv keys)
    {name recipient : String}
    (hclock : ∀ t ∈ (XendWallet.resolveName name).run.steps (Deployment.execute b apiKey) s vs,
      t.verdict.Timely)
    (hrun : (XendWallet.resolveName name).run.run (Deployment.execute b apiKey) s vs =
      (s', some (.ok recipient))) :
    b.Means name recipient := by
  unfold XendWallet.resolveName at hrun hclock
  cases hname : isSolName name with
  | true =>
    rw [hname, if_pos rfl] at hrun hclock
    obtain ⟨v, answer, -, -, hvalue, hhandler⟩ :=
      method_run hgateway (m := .resolveName name) trivial hclock hrun
    obtain ⟨-, hanswer⟩ := Prod.mk.inj hhandler
    have hresolved :
        Except.map ApiResponse.resolved (resolve b.adapter.sdk b.hashv v.upstream.read name) =
          .ok answer :=
      Option.some.inj hanswer
    cases hr : resolve b.adapter.sdk b.hashv v.upstream.read name with
    | error e =>
      rw [hr] at hresolved
      cases hresolved
    | ok r =>
      rw [hr] at hresolved
      obtain rfl := Except.ok.inj hresolved
      obtain rfl := Option.some.inj hvalue
      obtain ⟨address, haddress, hok⟩ := bind_eq_ok.mp hr
      obtain rfl := Except.ok.inj hok
      exact .name hname v.upstream.read hr
  | false =>
    rw [hname, if_neg Bool.false_ne_true] at hrun
    obtain ⟨-, hr⟩ := Prod.mk.inj hrun
    obtain rfl := Except.ok.inj (Option.some.inj hr)
    exact .address hname

theorem built_of_run {keys : Option String} (hgateway : b.gateway = .fromEnv keys)
    {source dest : String} {amount : Int}
    {mint : Option String} {built : Built} (hamount : 0 < amount)
    (hclock : ∀ t ∈ (BackendClient.buildTransfer source dest amount mint).run.steps
      (Deployment.execute b apiKey) s vs, t.verdict.Timely)
    (hrun : (BackendClient.buildTransfer source dest amount mint).run.run
      (Deployment.execute b apiKey) s vs =
      (s', some (.ok built))) :
    ∃ rpc u, b.adapter.buildTransfer rpc ⟨source, dest, amount.toNat, mint⟩ = .ok u ∧
      built.message = Base64.encode u.message ∧
      built.feePayerSignature = u.feePayerSignature.map Base64.encode := by
  obtain ⟨v, answer, -, -, hvalue, hhandler⟩ :=
    method_run hgateway (m := .buildTransfer source dest amount mint) trivial hclock hrun
  obtain ⟨-, hanswer⟩ := Prod.mk.inj hhandler
  have hbuilt :
      Except.map ApiResponse.built
        (build b.adapter v.upstream.build ⟨source, dest, toString amount, mint⟩) =
      .ok answer := Option.some.inj hanswer
  cases hr : build b.adapter v.upstream.build ⟨source, dest, toString amount, mint⟩ with
  | error e =>
    rw [hr] at hbuilt
    cases hbuilt
  | ok r =>
    rw [hr] at hbuilt
    obtain rfl := Except.ok.inj hbuilt
    obtain rfl := Option.some.inj hvalue
    obtain ⟨n, u, hparse, hu, rfl⟩ := build_eq_ok hr
    rw [toString_of_pos hamount, u128FromStr_repr] at hparse
    obtain ⟨-, rfl⟩ : amount.toNat < 2 ^ 128 ∧ amount.toNat = n := by simpa using hparse
    exact ⟨_, u, hu, rfl, rfl⟩

theorem accounted_of_submission {keys : Option String} (hgateway : b.gateway = .fromEnv keys)
    {signed key source dest : String} {amount : Int} {mint : Option String} {result : Submitted}
    (hclock : ∀ t ∈ (submitTransaction signed key source dest amount mint).run.steps
      (Deployment.execute b apiKey) s vs, t.verdict.Timely)
    (hrun : (submitTransaction signed key source dest amount mint).run.run
      (Deployment.execute b apiKey) s vs =
      (s', some (.ok result))) :
    ∃ v, (submitTransaction signed key source dest amount mint).run.steps
      (Deployment.execute b apiKey) s vs =
        [⟨s, .http (Method.submitTransaction signed key source dest amount mint).request, v⟩] ∧
      Accounted b.adapter.sdk ⟨signed, key, some source, some dest, some (toString amount), mint⟩
        (s.met b v).ledger
        ⟨result.signature, result.status⟩ s'.server.ledger := by
  obtain ⟨v, answer, hsteps, -, hvalue, hhandler⟩ :=
    method_run hgateway (m := .submitTransaction signed key source dest amount mint)
      trivial hclock hrun
  refine ⟨v, hsteps, ?_⟩
  simp only [Method.asked, ApiRequest.handler, ExceptT.run_map, Prog.run_map] at hhandler
  obtain ⟨hledger, hanswer⟩ := Prod.mk.inj hhandler
  obtain ⟨r, hr, hmapped⟩ := Option.map_eq_some_iff.mp hanswer
  cases r with
  | error e => cases hmapped
  | ok r =>
    obtain rfl := Except.ok.inj hmapped
    obtain rfl := Option.some.inj hvalue
    exact accounted_of_run (Prod.ext hledger hr)

/-- `send` up to the submission: the signed transaction, its key and the recipient. -/
def Intent.prepare (kit : Kit) (intent : Intent) (idempotencyKey : Option String) :
    Dart (String × String × String) := do
  requireSolana intent.wallet.chain "XendWallet.send"
  if intent.amount ≤ 0 then
    throwing (.error (.argumentError "amount" "must be greater than zero"))
  else do
  let recipient ← XendWallet.resolveName intent.recipient
  let built ← BackendClient.buildTransfer intent.wallet.address recipient intent.amount intent.mint
  let message ← throwing (base64Decode built.message)
  let reason := "Approve sending to " ++ intent.recipient
  let signature ← invoke (.signMessage message reason) (SecureSigner.signMessage kit message reason)
  let sponsor ← throwing (built.feePayerSignature.toList.mapM base64Decode)
  let key ← idempotencyKey.elim newIdempotencyKey pure
  pure (Base64.encode (assembleSignedTransaction (sponsor ++ [signature.1]) message),
    key, recipient)

/-- The rest of `send`. -/
def Intent.conclude (intent : Intent) : String × String × String → Dart String
  | (signed, key, recipient) => do
    let result ← submitTransaction signed key intent.wallet.address recipient
      intent.amount intent.mint
    pure result.signature

theorem send_eq_prepare (intent : Intent) (idempotencyKey : Option String) :
    intent.send kit idempotencyKey = intent.prepare kit idempotencyKey >>= intent.conclude := by
  by_cases hchain : intent.wallet.chain = .solana
  · by_cases hamount : intent.amount ≤ 0
    · simp only [Intent.send, XendWallet.send, Intent.prepare, requireSolana, hchain,
        if_true, pure_bind, hamount]
      rfl
    · simp only [Intent.send, XendWallet.send, Intent.prepare, requireSolana, hchain, if_true,
        pure_bind, hamount, if_false, bind_assoc, Intent.conclude]
  · simp only [Intent.send, XendWallet.send, Intent.prepare, requireSolana, hchain, if_false]
    rfl

/-- What there is before a transfer is submitted under `key`. -/
structure Prepared (b : Backend) (intent : Intent) (idempotencyKey : Option String)
    (steps : List DeployedStep)
    (recipient : String) (u : UnsignedTx) (signature : Signature) (key : String) : Prop where
  positive : 0 < intent.amount
  means : b.Means intent.recipient recipient
  key_eq : ∀ k ∈ idempotencyKey, key = k
  built : ∃ rpc,
    b.adapter.buildTransfer rpc ⟨intent.wallet.address, recipient, intent.amount.toNat,
      intent.mint⟩ = .ok u
  carriedOut : { intent with recipient := recipient }.CarriedOutBy b.adapter u.message
  signed : ∃ t ∈ steps, ∃ privateKey, t.call = .signature privateKey u.message ∧
    t.verdict.native.signature = some signature

theorem prepared_of_run {keys : Option String} (hgateway : b.gateway = .fromEnv keys)
    (hdoc : b.adapter.sdk.Documented)
    {intent : Intent} {idempotencyKey : Option String} {signed key recipient : String}
    (hclock : ∀ t ∈ (intent.prepare kit idempotencyKey).run.steps (Deployment.execute b apiKey)
      s vs, t.verdict.Timely)
    (hrun : (intent.prepare kit idempotencyKey).run.run (Deployment.execute b apiKey) s vs =
      (s', some (.ok (signed, key, recipient)))) :
    ∃ u signature,
    signed = Base64.encode
      (assembleSignedTransaction (u.feePayerSignature.toList ++ [signature.1]) u.message) ∧
      Prepared b intent idempotencyKey
        ((intent.prepare kit idempotencyKey).run.steps (Deployment.execute b apiKey) s vs)
        recipient u signature key := by
  by_cases hchain : intent.wallet.chain = .solana
  · by_cases hamount : intent.amount ≤ 0
    · simp only [Intent.prepare, requireSolana, hchain, if_true, pure_bind, hamount] at hrun
      cases hrun
    · simp only [Intent.prepare, requireSolana, hchain, if_true, pure_bind, hamount,
        if_false] at hrun hclock ⊢
      obtain ⟨recipient, s₁, vs₁, hresolve, hrest, hsteps⟩ := run_bind_ok hrun
      obtain ⟨built, s₂, vs₂, hbuild, hrest, hsteps₁⟩ := run_bind_ok hrest
      obtain ⟨message, s₃, vs₃, hmessage, hrest, hsteps₂⟩ := run_bind_ok hrest
      obtain ⟨signature, s₄, vs₄, hsign, hrest, hsteps₃⟩ := run_bind_ok hrest
      obtain ⟨sponsor, s₅, vs₅, hsponsor, hrest, -⟩ := run_bind_ok hrest
      obtain ⟨key, s₆, vs₆, hkey, hreturn, -⟩ := run_bind_ok hrest
      rw [hsteps, hsteps₁, hsteps₂, hsteps₃] at hclock ⊢
      have hmeans := resolved_of_run hgateway (fun t ht => hclock t (by simp [ht])) hresolve
      obtain ⟨rpc, u, hu, hbuiltMessage, hbuiltSponsor⟩ :=
        built_of_run hgateway (not_le.mp hamount) (fun t ht => hclock t (by simp [ht])) hbuild
      have hdecoded := (run_attempt_ok hmessage).1
      rw [hbuiltMessage, base64Decode_encode] at hdecoded
      obtain rfl := Except.ok.inj hdecoded
      have hsponsored := (run_attempt_ok hsponsor).1
      rw [hbuiltSponsor, mapM_base64Decode] at hsponsored
      obtain rfl := Except.ok.inj hsponsored
      obtain ⟨t, ht, hsigned⟩ := signed_of_run hsign
      obtain ⟨-, hprepared⟩ := Prod.mk.inj hreturn
      obtain ⟨rfl, hpair⟩ := Prod.mk.inj (Except.ok.inj (Option.some.inj hprepared))
      obtain ⟨rfl, rfl⟩ := Prod.mk.inj hpair
      refine ⟨u, signature, rfl, not_le.mp hamount, hmeans, fun k hk => ?_, ⟨rpc, hu⟩,
        carriedOut_of_buildTransfer hdoc hu, ⟨t, by simp [ht], hsigned⟩⟩
      obtain rfl := Option.mem_def.mp hk
      obtain ⟨-, hr⟩ := Prod.mk.inj hkey
      exact (Except.ok.inj (Option.some.inj hr)).symm
  · simp only [Intent.prepare, requireSolana, hchain, if_false] at hrun
    cases hrun

/-- A `send` that returns has prepared a transfer and ends with its submission. -/
theorem paid_of_run {keys : Option String} (hgateway : b.gateway = .fromEnv keys)
    (hdoc : b.adapter.sdk.Documented)
    {intent : Intent} {idempotencyKey : Option String} {handle : String}
    (hclock : ∀ t ∈ (intent.send kit idempotencyKey).run.steps (Deployment.execute b apiKey) s vs,
      t.verdict.Timely)
    (hrun : (intent.send kit idempotencyKey).run.run (Deployment.execute b apiKey) s vs =
      (s', some (.ok handle))) :
    ∃ earlier s₁ v recipient u signature key status,
      (intent.send kit idempotencyKey).run.steps (Deployment.execute b apiKey) s vs =
        earlier ++ [⟨s₁, .http (intent.submission recipient u signature key).request, v⟩] ∧
      Prepared b intent idempotencyKey earlier recipient u signature key ∧
      Accounted b.adapter.sdk (intent.submitted recipient u signature key)
        (s₁.met b v).ledger ⟨handle, status⟩
        s'.server.ledger := by
  rw [send_eq_prepare] at hrun hclock ⊢
  obtain ⟨⟨signed, key, recipient⟩, s₁, vs₁, hprepare, hrest, hsteps⟩ := run_bind_ok hrun
  obtain ⟨result, s₂, vs₂, hsubmit, hreturn, hsteps₁⟩ := run_bind_ok hrest
  rw [hsteps, Intent.conclude, hsteps₁] at hclock ⊢
  obtain ⟨u, signature, rfl, hprepared⟩ :=
    prepared_of_run hgateway hdoc (fun t ht => hclock t (by simp [ht])) hprepare
  obtain ⟨v, hstep, haccounted⟩ :=
    accounted_of_submission hgateway (fun t ht => hclock t (by simp [ht])) hsubmit
  obtain ⟨rfl, hhandle⟩ := Prod.mk.inj hreturn
  obtain rfl := Except.ok.inj (Option.some.inj hhandle)
  refine ⟨_, s₁, v, recipient, u, signature, key, result.status, ?_, hprepared, haccounted⟩
  rw [hstep]
  rfl

end Payment

section Sample

open Reference

/-- Exchanges that arrive and come back give what the handler gave. -/
theorem answered_method {b : Backend} {apiKey : Option String} {m : Method} (hm : m.Sendable)
    {answer : Call → Circumstance}
    {s : Deployment} {server : ServerState} {value : ApiResponse} {x : m.Result}
    (harrives : (answer (.http m.request)).arrives = true)
    (hreturns : (answer (.http m.request)).returns = true)
    (hperformed : performed b (s.met b (answer (.http m.request)))
      ((answer (.http m.request)).arrived apiKey m.request) m.asked =
      (server, some (.ok value))) (hvalue : m.value b.web value = some x) (hrange : value.InRange) :
    m.program.run.answered (Deployment.execute b apiKey) answer s =
      (⟨s.device, server⟩, .ok x) := by
  have hserve := serve_reached (b := b) (s := s.met b (answer (.http m.request)))
    (a := (answer (.http m.request)).arrived apiKey m.request) (m.reaches hm apiKey b.web)
  have hexchange : s.exchange b apiKey (answer (.http m.request)) m.request =
      (server, some (intoResponse b.web (.ok value))) := by
    rw [Deployment.exchange, harrives, hreturns, hserve, hperformed]
    rfl
  have hread : m.read (some (intoResponse b.web (.ok value))) = .ok x := by
    rw [← Method.outcome_read]
    exact outcome_value hvalue hrange
  have hexecute : s.execute b apiKey (.http m.request) (answer (.http m.request)) =
      (⟨s.device, server⟩, some (intoResponse b.web (.ok value))) := by
    change ((⟨s.device, (s.exchange b apiKey (answer (.http m.request)) m.request).1⟩ : Deployment),
      (s.exchange b apiKey (answer (.http m.request)) m.request).2) = _
    rw [hexchange]
  rw [m.run_read]
  change (((s.execute b apiKey (.http m.request) (answer (.http m.request))).1,
    m.read (s.execute b apiKey (.http m.request) (answer (.http m.request))).2) : Deployment × _) =
      _
  rw [hexecute]
  exact congrArg (Prod.mk _) hread

theorem sample_built {u : UnsignedTx}
    (hu : sampleAdapter.buildTransfer (buildRpc true) transferIntent = .ok u) :
    u = ⟨transferMessage true, 90, none⟩ := by
  obtain ⟨sender, dest, ixs, bh, hs, hd, hi, hb, rfl⟩ := SolanaAdapter.buildTransfer_eq_ok.mp hu
  have hsender : sampleAdapter.sdk.pubkeyFromStr transferIntent.sender = some senderKey :=
    keyFromStr_sender
  have hdest : sampleAdapter.sdk.pubkeyFromStr transferIntent.toAddress = some destKey :=
    keyFromStr_dest
  have hblockhash : latestBlockhash sampleAdapter.sdk (buildRpc true).latestBlockhash =
      .ok (blockhash true) := by rfl
  have hprogram : sampleAdapter.sdk.program systemProgramId = default :=
    congrArg (·.getD default) keyFromStr_systemProgram
  obtain rfl := Option.some.inj (hs.symm.trans hsender)
  obtain rfl := Option.some.inj (hd.symm.trans hdest)
  obtain rfl := Except.ok.inj (hb.symm.trans hblockhash)
  simp only [SolanaAdapter.transferInstructions, transferIntent, bind_eq_ok,
    SolanaSdk.systemTransfer_eq_ok, ok_eq_ok, hprogram] at hi
  obtain ⟨_, ⟨-, rfl⟩, rfl⟩ := hi
  rfl

def sampleSignature : Signature := ⟨base58 (signatureText true), signatureText_size true⟩

def sampleCircumstance : Circumstance where
  native := { sampleService.answer .randomSecure with signature := some sampleSignature }
  others := []
  arrives := true
  returns := true
  time := 0
  upstream := { finalizedUpstream with build := buildRpc true }
  verdicts := List.replicate 5 (landed true)

def sampleDeployment : Deployment := ⟨sampleDevice, ⟨∅, .empty ∅⟩⟩

/-- The sample backend, over any text formats. -/
def backendOn (w : Web) : Backend := { sampleBackend with web := w }

theorem signed_sample (w : Web) (message : Bytes) (reason : String) (server : ServerState) :
    (invoke (.signMessage message reason)
      (SecureSigner.signMessage sampleKit message reason)).run.answered
      (Deployment.execute (backendOn w) none) (fun _ => sampleCircumstance) ⟨sampleDevice, server⟩ =
        (⟨sampleDevice, server⟩, .ok sampleSignature) := by
  rfl

theorem performed_of_run {b : Backend} {s : ServerState} {a : Arrived} {asked : ApiRequest}
    {windows : FixedWindow.Counters String}
    {l : Ledger} {value : ApiResponse}
    (hgateway : b.gateway.handle s.windows ⟨a.time, a.request.authorization⟩ = (windows, .ok ()))
    (hrun : (asked.handler b a.upstream).run.run Ledger.execute s.ledger a.verdicts =
      (l, some (.ok value))) :
    performed b s a asked = (⟨windows, l⟩, some (.ok value)) := by
  rw [performed, hgateway]
  dsimp only
  rw [hrun]

theorem run_submitted {sdk : SolanaSdk} {req : SubmitRequest} {l l' : Ledger}
    {vs : List Xend.Verdict} {r : SubmitResponse}
    (h : (submit sdk req).run.run Ledger.execute l vs = (l', some (.ok r))) :
    (ApiResponse.submitted <$> submit sdk req).run.run Ledger.execute l vs =
      (l', some (.ok (.submitted r))) := by
  rw [ExceptT.run_map, Prog.run_map, h]
  rfl

theorem assembled_sample :
    assembleSignedTransaction ([] ++ [sampleSignature.1]) (transferMessage true) =
      signedTransfer true := by
  have hlength : encodeShortVecLength 1 = compactU16 1 := by
    rw [encodeShortVecLength]
    rfl
  simp only [assembleSignedTransaction, List.nil_append, List.length_singleton,
    List.flatten_singleton, hlength, signedTransfer, sampleSignature]

/-- The limiter's windows after a number of its requests. -/
def sampleWindows : Nat → FixedWindow.Counters String
  | 0 => ∅
  | n + 1 => (sampleBackend.gateway.handle (sampleWindows n) ⟨0, none⟩).1

/-- The limiter lets the next request through. -/
def Admitted (n : Nat) : Prop :=
  (sampleBackend.gateway.handle (sampleWindows n) ⟨0, none⟩).2 = .ok ()

theorem build_sample (w : Web) (l : Ledger) {n : Nat} (hn : Admitted n) :
    (BackendClient.buildTransfer senderAddress destAddress 1000000 none).run.answered
      (Deployment.execute (backendOn w) none)
        (fun _ => sampleCircumstance) ⟨sampleDevice, ⟨sampleWindows n, l⟩⟩ =
      (⟨sampleDevice, ⟨sampleWindows (n + 1), l⟩⟩,
        .ok ⟨Base64.encode (transferMessage true), 90, none⟩) := by
  obtain ⟨u, hu⟩ : ∃ u, sampleAdapter.buildTransfer (buildRpc true) transferIntent = .ok u :=
    SolanaAdapter.buildTransfer_isOk.mpr ⟨⟨senderKey, keyFromStr_sender⟩,
      transferIntent_buildable true⟩
  have hparse : u128FromStr (Nat.repr 1000000) = some 1000000 := by
    rw [u128FromStr_repr, if_pos (by omega)]
  have hbuild : build sampleAdapter (buildRpc true) ⟨senderAddress, destAddress,
      Nat.repr 1000000, none⟩ =
      .ok ⟨Base64.encode (transferMessage true), 90, none⟩ := by
    rw [sample_built hu] at hu
    simp only [build, bind_eq_ok, okOr_eq_ok]
    exact ⟨1000000, hparse, _, hu, rfl⟩
  have hbuilt : performed (backendOn w) ⟨sampleWindows n, l⟩
      (sampleCircumstance.arrived none
        (Method.buildTransfer senderAddress destAddress 1000000 none).request)
      (Method.buildTransfer senderAddress destAddress 1000000 none).asked =
        (⟨sampleWindows (n + 1), l⟩,
          some (.ok (.built ⟨Base64.encode (transferMessage true), 90, none⟩))) := by
    refine performed_of_run (Prod.ext rfl hn) ?_
    change ((attempt (Except.map ApiResponse.built (build sampleAdapter (buildRpc true)
      ⟨senderAddress, destAddress, Nat.repr 1000000,
        none⟩)) : Handler ApiResponse).run.run _ _ _ : _ × _) = _
    rw [hbuild]
    rfl
  exact answered_method (m := .buildTransfer senderAddress destAddress 1000000 none)
    trivial rfl rfl hbuilt rfl
    (show 90 < 2 ^ 63 by omega)

/-- The sample transfer is recorded in a ledger that has no row. -/
theorem submitted_sample (wallets : AList fun _ : String => Nat) :
    ∃ l, (submit sampleSdk (submitTransfer true "key")).run.run Ledger.execute (.empty wallets)
      (List.replicate 5 (landed true)) =
      (l, some (.ok ⟨signatureText true, "submitted"⟩)) := by
  rw [run_submitTransfer]
  exact ⟨_, rfl⟩

section Sent

variable {l l' : Ledger}
    (hsubmit : (submit sampleSdk (submitTransfer true "key")).run.run Ledger.execute l
  (List.replicate 5 (landed true)) = (l', some (.ok ⟨signatureText true, "submitted"⟩)))
include hsubmit

theorem submit_sample (w : Web) {n : Nat} (hn : Admitted n) :
    (submitTransaction (Base64.encode (signedTransfer true)) "key" senderAddress destAddress
      1000000 none).run.answered
        (Deployment.execute (backendOn w) none)
        (fun _ => sampleCircumstance) ⟨sampleDevice, ⟨sampleWindows n, l⟩⟩ =
      (⟨sampleDevice, ⟨sampleWindows (n + 1), l'⟩⟩, .ok ⟨signatureText true, "submitted"⟩) := by
  have hsubmitted : performed (backendOn w) ⟨sampleWindows n, l⟩
      (sampleCircumstance.arrived none
        (Method.submitTransaction (Base64.encode (signedTransfer true)) "key" senderAddress
        destAddress 1000000 none).request)
      (Method.submitTransaction (Base64.encode (signedTransfer true)) "key" senderAddress
        destAddress 1000000 none).asked =
        (⟨sampleWindows (n + 1), l'⟩,
          some (.ok (.submitted ⟨signatureText true, "submitted"⟩))) := by
    have hamount : toString (1000000 : Int) = "1000000" := by rfl
    have hasked :
        (Method.submitTransaction (Base64.encode (signedTransfer true)) "key"
          senderAddress destAddress 1000000
        none).asked = .submit (submitTransfer true "key") := by
      rw [Method.asked, hamount]
      rfl
    rw [hasked]
    exact performed_of_run (Prod.ext rfl hn) (run_submitted hsubmit)
  exact answered_method
    (m := .submitTransaction (Base64.encode (signedTransfer true)) "key"
      senderAddress destAddress 1000000
    none) trivial rfl rfl hsubmitted rfl trivial

theorem send_sample (w : Web) {n : Nat} (hn : Admitted n) (hnext : Admitted (n + 1)) :
    (sampleIntent.send sampleKit (some "key")).run.answered (Deployment.execute (backendOn w) none)
      (fun _ => sampleCircumstance) ⟨sampleDevice, ⟨sampleWindows n, l⟩⟩ =
        (⟨sampleDevice, ⟨sampleWindows (n + 2), l'⟩⟩, .ok (signatureText true)) := by
  have hplain : isSolName destAddress = false := by rfl
  have hresolve : (XendWallet.resolveName destAddress).run.answered
      (Deployment.execute (backendOn w) none)
      (fun _ => sampleCircumstance) ⟨sampleDevice, ⟨sampleWindows n, l⟩⟩ =
        (⟨sampleDevice, ⟨sampleWindows n, l⟩⟩, .ok destAddress) := by
    rw [XendWallet.resolveName, hplain]
    rfl
  have hmessage := base64Decode_encode (transferMessage true)
  have hpositive : ¬ (1000000 : Int) ≤ 0 := by omega
  simp only [Intent.send, XendWallet.send, requireSolana, sampleIntent, if_true,
    pure_bind, hpositive, if_false]
  rw [answered_exceptBind hresolve, answered_exceptBind (build_sample w l hn)]
  dsimp only
  rw [hmessage]
  change (invoke _ _ >>= _).run.answered _ _ _ = _
  rw [answered_exceptBind (signed_sample _ _ _ _)]
  change (submitTransaction
    (Base64.encode (assembleSignedTransaction ([] ++ [sampleSignature.1]) (transferMessage true)))
      "key"
    senderAddress destAddress 1000000 none >>= _).run.answered _ _ _ = _
  rw [assembled_sample, answered_exceptBind (submit_sample hsubmit w hnext)]
  rfl

end Sent

theorem sent_sample :
    ∃ s', (sampleIntent.send sampleKit (some "key")).run.answered
      (Deployment.execute sampleBackend none)
    (fun _ => sampleCircumstance) sampleDeployment = (s', .ok (signatureText true)) := by
  obtain ⟨l, hsubmit⟩ := submitted_sample ∅
  exact ⟨_, send_sample hsubmit sampleWeb (n := 0) rfl rfl⟩

end Sample

end XendWallet

end Sdk

end Xend
