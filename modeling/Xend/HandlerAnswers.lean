import Xend.Routes

/-! What the handlers can answer: a response of their own kind, or an error that is not
the limiter's. -/

namespace Xend

open Framing Interaction

section Errors

/-- No handler answers that a limit was exceeded. -/
def Unlimited {α : Type} (r : Except AppError α) : Prop :=
  ∀ seconds, r ≠ .error (.rateLimited seconds)

theorem unlimited_ok {α : Type} (a : α) : Unlimited (.ok a : Except AppError α) := by
  intro seconds h
  cases h

theorem Unlimited.bind {α β : Type} {r : Except AppError α}
    {f : α → Except AppError β} (h : Unlimited r)
    (hf : ∀ a, Unlimited (f a)) : Unlimited (r >>= f) := by
  cases r with
  | ok a => exact hf a
  | error e =>
    intro seconds he
    exact h seconds (congrArg Except.error (Except.error.inj he))

theorem unlimited_okOr {α : Type} (o : Option α) {e : AppError}
    (he : ∀ seconds, e ≠ .rateLimited seconds) :
    Unlimited (okOr o e) := by
  intro seconds h
  cases o with
  | none => exact he seconds (Except.error.inj h)
  | some a => cases h

theorem unlimited_json (reply : RpcReply) : Unlimited reply.json := by
  intro seconds h
  cases reply <;> cases h

theorem unlimited_validate (bs58 : String → Option Bytes) (pubkey : String) :
    Unlimited (validateSolanaPubkey bs58 pubkey) := by
  intro seconds h
  unfold validateSolanaPubkey at h
  split at h
  · cases h
  · split at h <;> cases h

theorem unlimited_balance (sdk : SolanaSdk) (display : Json → String)
    (rpc : ReadRpc) (address : String)
    (mint : Option String) : Unlimited (balance sdk display rpc address mint) := by
  apply (unlimited_okOr _ (by simp)).bind
  intro _
  cases mint with
  | none =>
    apply (unlimited_json _).bind
    intro body
    cases body.get "error" with
    | none => exact unlimited_okOr _ (by simp)
    | some error => exact fun seconds h => by cases h
  | some mint =>
    apply (unlimited_okOr _ (by simp)).bind
    intro _
    apply (unlimited_json _).bind
    intro body
    cases body.get "error" with
    | some error => exact fun seconds h => by cases h
    | none =>
      apply (unlimited_okOr _ (by simp)).bind
      intro accounts
      have hfold : ∀ total, Unlimited (accounts.foldlM addTokenAccount total) := by
        induction accounts with
        | nil => exact fun total => unlimited_ok total
        | cons account rest ih =>
          intro total
          rw [List.foldlM_cons]
          apply Unlimited.bind
          · apply (unlimited_okOr _ (by simp)).bind
            intro amount
            apply (unlimited_okOr _ (by simp)).bind
            intro parsed
            exact unlimited_ok _
          · exact ih
      exact hfold 0

theorem unlimited_status (rpc : ReadRpc) (signature : String) :
    Unlimited (status rpc signature) := by
  apply (unlimited_json _).bind
  intro body
  dsimp only
  split
  · exact unlimited_ok _
  · split
    · exact unlimited_ok _
    · split <;> exact unlimited_ok _

theorem unlimited_of_answers {α : Type} {r : Except AppError α}
    (h : Sdk.Answers r) : Unlimited r := by
  obtain ⟨a, rfl⟩ | rfl | ⟨detail, rfl⟩ := h
  · exact unlimited_ok a
  · exact fun seconds he => by cases he
  · exact fun seconds he => by cases he

theorem unlimited_resolve (sdk : SolanaSdk) (hashv : List Bytes → Hash)
    (rpc : ReadRpc) (name : String) :
    Unlimited (resolve sdk hashv rpc name) := by
  apply Unlimited.bind
  · apply (unlimited_okOr _ (by simp)).bind
    intro label
    apply (unlimited_of_answers (Sdk.answers_snsDomainOwner _)).bind
    intro owner
    exact unlimited_ok _
  · intro address
    exact unlimited_ok _

theorem unlimited_transferInstructions (adapter : SolanaAdapter) (rpc : BuildRpc)
    (intent : TransferIntent)
    (sender dest : Pubkey) : Unlimited (adapter.transferInstructions rpc intent sender dest) := by
  unfold SolanaAdapter.transferInstructions
  split
  · apply Unlimited.bind
    · apply (unlimited_okOr _ (by simp)).bind
      intro lamports
      exact unlimited_ok _
    · intro transfer
      exact unlimited_ok _
  · apply (unlimited_okOr _ (by simp)).bind
    intro mint
    apply (unlimited_okOr _ (by simp)).bind
    intro amount
    apply Unlimited.bind
    · apply (unlimited_json _).bind
      intro body
      apply (unlimited_okOr _ (by simp)).bind
      intro decimals
      split
      · exact unlimited_ok _
      · exact fun seconds h => by cases h
    · intro decimals
      exact unlimited_ok _

theorem unlimited_build (adapter : SolanaAdapter) (rpc : BuildRpc) (req : BuildRequest) :
    Unlimited (build adapter rpc req) := by
  apply (unlimited_okOr _ (by simp)).bind
  intro amount
  apply Unlimited.bind
  · apply (unlimited_okOr _ (by simp)).bind
    intro sender
    apply (unlimited_okOr _ (by simp)).bind
    intro dest
    apply (unlimited_transferInstructions adapter rpc _ sender dest).bind
    intro instructions
    apply Unlimited.bind
    · apply (unlimited_json _).bind
      intro body
      apply (unlimited_okOr _ (by simp)).bind
      intro blockhash
      split
      · exact unlimited_ok _
      · exact fun seconds h => by cases h
    · intro blockhash
      exact unlimited_ok _
  · intro unsigned
    exact unlimited_ok _

theorem unlimited_broadcastResult (reply : RpcReply) : Unlimited (broadcastResult reply) := by
  apply (unlimited_json _).bind
  intro body
  split
  · intro seconds h
    have herror : mapSendError _ = .rateLimited seconds := Except.error.inj h
    unfold mapSendError at herror
    dsimp only at herror
    split at herror
    · cases herror
    · split at herror <;> cases herror
  · exact unlimited_okOr _ (by simp)

theorem unlimited_execute (l : Ledger) (c : Call) (v : Verdict) : Unlimited (l.execute c v).2 := by
  unfold Ledger.execute
  split
  · cases c with
    | broadcast signed => exact unlimited_broadcastResult v.reply
    | markSubmitted key signature =>
      intro seconds h
      simp only [Ledger.serve] at h
      split at h
      · cases h
      · rename_i e he
        rw [Ledger.markSubmitted_eq_error he] at h
        cases h
    | _ => exact unlimited_ok _
  · exact fun seconds h => by cases h

end Errors

section Programs

/-- Whatever happens on the way, `x` ends in `Q` or in an error that is no limit. -/
abbrev Answering {α : Type} (x : Handler α) (Q : α → Prop) (l : Ledger) : Prop :=
  x.run.Spec Ledger.execute (fun _ => True) (fun _ => True)
    (Ends (fun e _ => ∀ seconds, e ≠ .rateLimited seconds) fun a _ => Q a) l

theorem answering_attempt {α : Type} {r : Except AppError α} {Q : α → Prop}
    {l : Ledger} (h : Unlimited r)
    (hQ : ∀ a, r = .ok a → Q a) : Answering (attempt r) Q l := by
  refine spec_attempt trivial ?_
  cases r with
  | ok a => exact hQ a rfl
  | error e => exact fun seconds he => h seconds (congrArg Except.error he)

theorem answering_query (c : Call) (l : Ledger) : Answering (query c) (fun _ => True) l := by
  refine ⟨trivial, fun v _ => ⟨trivial, ?_⟩⟩
  have h := unlimited_execute l c v
  generalize (l.execute c v).2 = r at h ⊢
  cases r with
  | ok a => trivial
  | error e => exact fun seconds he => h seconds (congrArg Except.error he)

theorem Answering.bind {α β : Type} {x : Handler α} {f : α → Handler β} {P : α → Prop}
    {Q : β → Prop} {l : Ledger}
    (h : Answering x P l) (hf : ∀ a l, P a → Answering (f a) Q l) : Answering (x >>= f) Q l :=
  spec_bind (spec_mono h fun a l _ ha => hf a l ha)

theorem answering_pure {α : Type} {a : α} {Q : α → Prop} {l : Ledger} (h : Q a) :
    Answering (pure a) Q l :=
  spec_pure trivial h

theorem Answering.map {α β : Type} {x : Handler α} (f : α → β) {P : α → Prop}
    {Q : β → Prop} {l : Ledger}
    (h : Answering x P l) (hQ : ∀ a, P a → Q (f a)) : Answering (f <$> x) Q l := by
  rw [Answering, ExceptT.run_map]
  refine Prog.Spec.map (h.mono fun r l _ hr => ?_)
  cases r with
  | ok a => exact hQ a hr
  | error e => exact hr

theorem unlimited_validateSigned (sdk : SolanaSdk) (signed : Bytes) :
    Unlimited (sdk.validateSigned signed) := by
  intro seconds h
  unfold SolanaSdk.validateSigned at h
  split at h
  · cases h
  · split at h <;> cases h

theorem answering_submit (sdk : SolanaSdk) (req : SubmitRequest) (l : Ledger) :
    Answering (submit sdk req) (fun _ => True) l := by
  have hrelay : ∀ signed l, Answering (relay sdk req signed) (fun _ => True) l := by
    intro signed l
    apply (answering_attempt (unlimited_validateSigned sdk signed) fun _ _ => trivial).bind
    intro _ l _
    apply (answering_query _ l).bind
    intro signature l _
    exact (answering_query _ l).bind fun _ l _ => answering_pure trivial
  have hclaim : ∀ signed walletId l, Answering (claim sdk req signed walletId) (fun _ => True) l :=
    fun signed walletId l =>
    (answering_query _ l).bind fun _ l _ => hrelay signed l
  apply (answering_attempt (unlimited_okOr _ (by simp)) fun _ _ => trivial).bind
  intro signed l _
  apply (answering_query _ l).bind
  intro existing l _
  match existing with
  | some ⟨some signature, status⟩ => exact answering_pure trivial
  | some ⟨none, _⟩ => exact hrelay signed l
  | none =>
    cases req.pubkey with
    | some pubkey => exact (answering_query _ l).bind fun walletId l _ => hclaim signed walletId l
    | none => exact hclaim signed none l

end Programs

section Handlers

variable {b : Backend} {up : Upstream} {l : Ledger}

/-- The kind of response that belongs to a request, and what it repeats of it. -/
def ApiRequest.AnsweredBy (up : Upstream) : ApiRequest → ApiResponse → Prop
  | register pubkey _, .wallet (.registered _ p) => p = pubkey
  | balance _ mint, .balance _ m => m = mint
  | history _ _ _, .wallet (.transactions _) => True
  | build _, .built r => r.validUntil = up.build.now + 90
  | submit _, .submitted _ => True
  | status signature, .status s _ => s = signature
  | resolve name, .resolved r => r.name = name
  | _, _ => False

theorem answering_register (formats : TextFormats) (pubkey : String) :
    Answering (formats.register pubkey)
      (fun r => ∃ walletId, r = .registered walletId pubkey) l := by
  apply (answering_attempt (unlimited_validate _ _) fun _ _ => trivial).bind
  intro _ l _
  exact (answering_query _ l).bind fun walletId l _ => answering_pure ⟨walletId, rfl⟩

theorem answering_history (formats : TextFormats) (pubkey : String) (limit : Option Int)
    (before : Option String) :
    Answering (formats.history pubkey limit before)
      (fun r => ∃ records, r = .transactions records) l := by
  have hcursor : Unlimited (formats.parseCursor before) := by
    cases before with
    | none => exact unlimited_ok none
    | some cursor =>
      intro seconds h
      simp only [TextFormats.parseCursor] at h
      split at h <;> cases h
  apply (answering_attempt (unlimited_validate _ _) fun _ _ => trivial).bind
  intro _ l _
  apply (answering_attempt hcursor fun _ _ => trivial).bind
  intro before l _
  apply (answering_query _ l).bind
  intro walletId l _
  cases walletId with
  | none => exact answering_pure ⟨[], rfl⟩
  | some walletId =>
    exact (answering_query _ l).bind fun records l _ => answering_pure ⟨records, rfl⟩

theorem answering_handler (b : Backend) (up : Upstream) (req : ApiRequest) (l : Ledger) :
    Answering (req.handler b up) (req.AnsweredBy up) l := by
  cases req with
  | register pubkey label =>
    apply (answering_register _ pubkey).map
    rintro _ ⟨walletId, rfl⟩
    rfl
  | history pubkey limit before =>
    apply (answering_history _ pubkey limit before).map
    rintro _ ⟨records, rfl⟩
    trivial
  | submit req => exact (answering_submit _ req l).map _ fun _ _ => trivial
  | balance pubkey mint =>
    apply answering_attempt
    · apply (unlimited_validate _ _).bind
      intro _
      exact (unlimited_balance b.adapter.sdk b.display up.read pubkey mint).bind fun amount =>
        unlimited_ok _
    · intro v hv
      obtain ⟨_, -, hrest⟩ := bind_eq_ok.mp hv
      obtain ⟨amount, -, hv⟩ := bind_eq_ok.mp hrest
      cases hv
      rfl
  | status signature =>
    apply answering_attempt
    · exact (unlimited_status up.read signature).bind fun commitment => unlimited_ok _
    · intro v hv
      obtain ⟨commitment, -, hv⟩ := bind_eq_ok.mp hv
      cases hv
      rfl
  | build req =>
    have hunlimited := unlimited_build b.adapter up.build req
    apply answering_attempt
    · intro seconds h
      cases hr : build b.adapter up.build req with
      | ok r => simp [hr, Except.map] at h
      | error e =>
        rw [hr] at h hunlimited
        exact hunlimited seconds (congrArg Except.error (Except.error.inj h))
    · intro v hv
      cases hr : build b.adapter up.build req with
      | error e => simp [hr, Except.map] at hv
      | ok r =>
        rw [hr] at hv
        obtain rfl := Except.ok.inj hv
        obtain ⟨amount, u, -, hu, rfl⟩ := build_eq_ok hr
        obtain ⟨_, _, _, _, -, -, -, -, rfl⟩ := SolanaAdapter.buildTransfer_eq_ok.mp hu
        rfl
  | resolve name =>
    have hunlimited := unlimited_resolve b.adapter.sdk b.hashv up.read name
    apply answering_attempt
    · intro seconds h
      cases hr : resolve b.adapter.sdk b.hashv up.read name with
      | ok r => simp [hr, Except.map] at h
      | error e =>
        rw [hr] at h hunlimited
        exact hunlimited seconds (congrArg Except.error (Except.error.inj h))
    · intro v hv
      cases hr : resolve b.adapter.sdk b.hashv up.read name with
      | error e => simp [hr, Except.map] at hv
      | ok r =>
        rw [hr] at hv
        obtain rfl := Except.ok.inj hv
        obtain ⟨address, -, hr⟩ := bind_eq_ok.mp hr
        cases hr
        rfl

end Handlers

end Xend
