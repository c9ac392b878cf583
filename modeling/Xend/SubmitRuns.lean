import Xend.SolanaReference
import Xend.Submit

/-! Runs of any number of `submit` handlers over one ledger. A handler is
followed through its phases, one `Moves` step for each call. -/

namespace Xend

open Framing Interaction

abbrev SubmitPool (ι : Type) :=
  Pool ι Call Call.Reply Ledger Verdict (Except AppError SubmitResponse)

abbrev SubmitTurn (ι : Type) :=
  Turn ι Call Call.Reply Ledger Verdict (Except AppError SubmitResponse)

abbrev SubmitEntry (ι : Type) := Entry ι Call Verdict

def submits {ι : Type} (sdk : SolanaSdk) (l : Ledger) (reqs : ι → SubmitRequest) : SubmitPool ι :=
  Pool.start l fun i => (submit sdk (reqs i)).run

namespace Ledger

variable {l : Ledger} {c : Call} {v : Verdict}

theorem execute_of_no_outage (h : v.outage = none) : l.execute c v = l.serve v c := by
  cases c <;> simp [execute, h]

theorem execute_of_outage {o : Outage} (hc : c.isBroadcast = false) (h : v.outage = some o) :
    (l.execute c v).2 = .error (.database o.detail) := by
  simp [execute, hc, h]

theorem execute_broadcast (signed : Bytes) :
    l.execute (.broadcast signed) v = (l, broadcastResult v.reply) := rfl

theorem execute_world : (l.execute c v).1 = l ∨ (l.execute c v).1 = (l.serve v c).1 := by
  unfold execute
  split
  · exact .inr rfl
  · rename_i o _
    cases o.applied
    · exact .inl rfl
    · exact .inr rfl

theorem execute_markSubmitted {key signature : String} :
    (l.execute (.markSubmitted key signature) v).1 = l ∨
      l.markSubmitted key signature v.now = .ok (l.execute (.markSubmitted key signature) v).1 := by
  rcases execute_world (l := l) (c := .markSubmitted key signature) (v := v) with h | h
  · exact .inl h
  · rw [h, serve]
    cases l.markSubmitted key signature v.now with
    | error e => exact .inl rfl
    | ok l' => exact .inr rfl

/-- What one call can do to a row: nothing, claim it, or record its signature. -/
theorem execute_row (l : Ledger) (c : Call) (v : Verdict) (k : String) :
    (l.execute c v).1.rows.lookup k = l.rows.lookup k ∨
      (∃ walletId toAddress amount mint, c = .insertPending walletId k toAddress amount mint ∧
        l.rows.lookup k = none ∧
        (l.execute c v).1.rows.lookup k =
          some ⟨walletId, none, "pending", toAddress, amount, mint, v.now, v.now⟩) ∨
      ∃ signature row, c = .markSubmitted k signature ∧ l.rows.lookup k = some row ∧
        (l.execute c v).1.rows.lookup k =
          some { row with
            signature := some signature, status := "submitted", updatedAt := v.now } := by
  rcases execute_world (l := l) (c := c) (v := v) with h | h
  · exact .inl (by rw [h])
  · rw [h]
    cases c with
    | findByIdempotency key => exact .inl rfl
    | findIdByPubkey pubkey => exact .inl rfl
    | broadcast signed => exact .inl rfl
    | upsert pubkey => exact .inl (by rw [serve, upsert_rows])
    | listForWallet => exact .inl rfl
    | insertPending walletId key toAddress amount mint =>
      rcases insertPending_row l walletId key toAddress amount mint v.now
        k with hsame | ⟨rfl, hnone, hrow⟩
      · exact .inl hsame
      · exact .inr (.inl ⟨walletId, toAddress, amount, mint, rfl, hnone, hrow⟩)
    | markSubmitted key signature =>
      simp only [serve]
      cases hm : l.markSubmitted key signature v.now with
      | error e => exact .inl rfl
      | ok l' =>
        rcases markSubmitted_row hm with ⟨-, rfl⟩ | ⟨row, hrow, -, hself, hne⟩
        · exact .inl rfl
        · by_cases hk : k = key
          · subst hk
            exact .inr (.inr ⟨signature, row, rfl, hrow, hself⟩)
          · exact .inl (hne k hk)

/-- A wallet comes into being by its registration, and stays. -/
theorem execute_wallet (l : Ledger) (c : Call) (v : Verdict) (pubkey : String) :
    (l.execute c v).1.findIdByPubkey pubkey = l.findIdByPubkey pubkey ∨
      c = .upsert pubkey ∧ l.findIdByPubkey pubkey = none ∧
        (l.execute c v).1.findIdByPubkey pubkey = some (freshId l.wallets) := by
  rcases execute_world (l := l) (c := c) (v := v) with h | h
  · exact .inl (by rw [h])
  · rw [h]
    cases c with
    | insertPending walletId key toAddress amount mint =>
      exact .inl (by rw [serve, findIdByPubkey, insertPending_wallets, findIdByPubkey])
    | markSubmitted key signature =>
      simp only [serve]
      cases hm : l.markSubmitted key signature v.now with
      | error e => exact .inl rfl
      | ok l' => exact .inl (by rw [findIdByPubkey, markSubmitted_wallets hm, findIdByPubkey])
    | upsert p =>
      rcases l.upsert_findIdByPubkey p pubkey with hkept | ⟨rfl, hnone, hnew⟩
      · exact .inl hkept
      · exact .inr ⟨rfl, hnone, hnew⟩
    | _ => exact .inl rfl

theorem execute_wallet_kept {pubkey : String} {walletId : Nat}
    (h : l.findIdByPubkey pubkey = some walletId) :
    (l.execute c v).1.findIdByPubkey pubkey = some walletId := by
  rcases l.execute_wallet c v pubkey with hkept | ⟨-, hnone, -⟩
  · exact hkept.trans h
  · rw [h] at hnone
    cases hnone

theorem execute_signatureOf (hc : ∀ key s, c ≠ .markSubmitted key s) (k : String) :
    (l.execute c v).1.signatureOf k = l.signatureOf k := by
  rcases execute_world (l := l) (c := c) (v := v) with h | h
  · rw [h]
  · rw [h]
    cases c with
    | markSubmitted key s => exact absurd rfl (hc key s)
    | insertPending => exact insertPending_signatureOf k
    | upsert pubkey => simp only [serve, signatureOf, findByIdempotency, upsert_rows]
    | _ => rfl

theorem execute_markSubmitted_signatureOf {key signature k s : String}
    (h : (l.execute (.markSubmitted key signature) v).1.signatureOf k = some s) :
    l.signatureOf k = some s ∨ (k = key ∧ s = signature) := by
  rcases execute_markSubmitted (l := l) (v := v) with he | he
  · exact .inl (he ▸ h)
  · rcases markSubmitted_eq_ok he with ⟨-, hw⟩ | ⟨-, -, hself, hne⟩
    · exact .inl (hw ▸ h)
    · by_cases hk : k = key
      · subst hk
        rw [signatureOf, hself] at h
        exact .inr ⟨rfl, (Option.some.inj h).symm⟩
      · rw [signatureOf, hne k hk] at h
        exact .inl h

end Ledger

/-- The call made in each phase, and the phase its reply leads to. -/
inductive Moves (sdk : SolanaSdk) (req : SubmitRequest) (signed : Bytes) :
    Phase → (c : Call) → (c.Reply → Phase) → Prop
  | lookup :
      Moves sdk req signed .lookup (.findByIdempotency req.idempotencyKey)
        (Phase.afterLookup sdk req signed)
  | findWallet (pubkey : String) :
    Moves sdk req signed (.findWallet pubkey) (.findIdByPubkey pubkey) Phase.afterFindWallet
  | insert (walletId : Option Nat) :
    Moves sdk req signed (.insert walletId)
      (.insertPending walletId req.idempotencyKey req.toAddress req.amount req.mint)
      (Phase.afterInsert sdk signed)
  | send : Moves sdk req signed .send (.broadcast signed) Phase.afterSend
  | mark (signature : String) :
    Moves sdk req signed (.mark signature) (.markSubmitted req.idempotencyKey signature)
      (Phase.afterMark signature)

theorem Phase.resume_call {sdk : SolanaSdk} {req : SubmitRequest} {signed : Bytes}
    {ph : Phase} {c : Call}
    {k : c.Reply → Prog Call Call.Reply (Except AppError SubmitResponse)}
    (h : ph.resume sdk req signed = .call c k) :
    ∃ next, Moves sdk req signed ph c next ∧ k = fun r => (next r).resume sdk req signed := by
  cases ph with
  | lookup =>
    rw [resume_lookup] at h
    cases h
    exact ⟨_, .lookup, rfl⟩
  | findWallet pubkey =>
    rw [resume_findWallet] at h
    cases h
    exact ⟨_, .findWallet pubkey, rfl⟩
  | insert walletId =>
    rw [resume_insert] at h
    cases h
    exact ⟨_, .insert walletId, rfl⟩
  | send =>
    rw [resume_send] at h
    cases h
    exact ⟨_, .send, rfl⟩
  | mark signature =>
    rw [resume_mark] at h
    cases h
    exact ⟨_, .mark signature, rfl⟩
  | answered r => cases h

theorem Phase.eq_answered {sdk : SolanaSdk} {req : SubmitRequest} {signed : Bytes} {ph : Phase}
    {r : Except AppError SubmitResponse}
    (h : ph.resume sdk req signed = .done r) : ph = .answered r := by
  cases ph with
  | lookup => rw [resume_lookup] at h; cases h
  | findWallet pubkey => rw [resume_findWallet] at h; cases h
  | insert walletId => rw [resume_insert] at h; cases h
  | send => rw [resume_send] at h; cases h
  | mark signature => rw [resume_mark] at h; cases h
  | answered r' => cases h; rfl

theorem Moves.of_broadcast {sdk : SolanaSdk} {req : SubmitRequest} {signed b : Bytes} {ph : Phase}
    {next : (Call.broadcast b).Reply → Phase} (hm : Moves sdk req signed ph (.broadcast b) next) :
    b = signed ∧ ph = .send := by
  cases hm
  exact ⟨rfl, rfl⟩

/-- Where a served call leads: to the next phase, by what it found, or to a failure. -/
inductive Leads (sdk : SolanaSdk) (req : SubmitRequest) (signed : Bytes)
    (l : Ledger) (v : Verdict) :
    Phase → Call → Phase → Prop
  | fails (ph : Phase) (c : Call) (e : AppError) :
      Leads sdk req signed l v ph c (.answered (.error e))
  | replays {signature status : String} (ho : v.outage = none)
    (hfound : l.findByIdempotency req.idempotencyKey = some ⟨some signature, status⟩) :
    Leads sdk req signed l v .lookup (.findByIdempotency req.idempotencyKey)
      (.answered (.ok ⟨signature, status⟩))
  | resumes {status : String} (ho : v.outage = none)
    (hfound : l.findByIdempotency req.idempotencyKey = some ⟨none, status⟩)
    (hvalid : sdk.validateSigned signed = .ok ()) :
    Leads sdk req signed l v .lookup (.findByIdempotency req.idempotencyKey) .send
  | named {pubkey : String} (ho : v.outage = none)
      (hfound : l.findByIdempotency req.idempotencyKey = none)
    (hpub : req.pubkey = some pubkey) :
    Leads sdk req signed l v .lookup (.findByIdempotency req.idempotencyKey) (.findWallet pubkey)
  | unnamed (ho : v.outage = none) (hfound : l.findByIdempotency req.idempotencyKey = none)
      (hpub : req.pubkey = none) :
    Leads sdk req signed l v .lookup (.findByIdempotency req.idempotencyKey) (.insert none)
  | found (pubkey : String) (ho : v.outage = none) :
    Leads sdk req signed l v (.findWallet pubkey) (.findIdByPubkey pubkey)
      (.insert (l.findIdByPubkey pubkey))
  | claimed (walletId : Option Nat) (ho : v.outage = none)
      (hvalid : sdk.validateSigned signed = .ok ()) :
    Leads sdk req signed l v (.insert walletId)
      (.insertPending walletId req.idempotencyKey req.toAddress req.amount req.mint) .send
  | sent {signature : String} (hreply : broadcastResult v.reply = .ok signature) :
    Leads sdk req signed l v .send (.broadcast signed) (.mark signature)
  | marked {signature : String} {l' : Ledger} (ho : v.outage = none)
    (hmark : l.markSubmitted req.idempotencyKey signature v.now = .ok l') :
    Leads sdk req signed l v (.mark signature) (.markSubmitted req.idempotencyKey signature)
      (.answered (.ok ⟨signature, "submitted"⟩))

theorem Phase.validated_cases (sdk : SolanaSdk) (signed : Bytes) :
    (validated sdk signed = send ∧ sdk.validateSigned signed = .ok ()) ∨
      ∃ e, validated sdk signed = answered (.error e) := by
  unfold validated
  cases sdk.validateSigned signed with
  | error e => exact .inr ⟨e, rfl⟩
  | ok _ => exact .inl ⟨rfl, rfl⟩

section Moves

variable {sdk : SolanaSdk} {req : SubmitRequest} {signed : Bytes} {ph : Phase} {c : Call}
  {next : c.Reply → Phase}

theorem Moves.leads_of_no_outage (hm : Moves sdk req signed ph c next) (l : Ledger) {v : Verdict}
    (ho : v.outage = none) :
    Leads sdk req signed l v ph c (next (l.serve v c).2) := by
  cases hm with
  | lookup =>
    simp only [Ledger.serve]
    rcases hfound : l.findByIdempotency req.idempotencyKey with _ | ⟨_ | signature, status⟩
    · cases hpub : req.pubkey with
      | none =>
        simp only [Phase.afterLookup, hpub]
        exact .unnamed ho hfound hpub
      | some pubkey =>
        simp only [Phase.afterLookup, hpub]
        exact .named ho hfound hpub
    · rw [Phase.afterLookup]
      rcases Phase.validated_cases sdk signed with ⟨hh, hvalid⟩ | ⟨e, hh⟩
      · rw [hh]
        exact .resumes ho hfound hvalid
      · rw [hh]
        exact .fails ..
    · exact .replays ho hfound
  | findWallet pubkey => exact .found pubkey ho
  | insert walletId =>
    simp only [Ledger.serve, Phase.afterInsert]
    rcases Phase.validated_cases sdk signed with ⟨hh, hvalid⟩ | ⟨e, hh⟩
    · rw [hh]
      exact .claimed walletId ho hvalid
    · rw [hh]
      exact .fails ..
  | send =>
    simp only [Ledger.serve]
    cases hreply : broadcastResult v.reply with
    | error e => exact .fails ..
    | ok signature => exact .sent hreply
  | mark signature =>
    simp only [Ledger.serve]
    cases hmark : l.markSubmitted req.idempotencyKey signature v.now with
    | error e => exact .fails ..
    | ok l' => exact .marked ho hmark

/-- Every move leads on or fails; an outage fails all calls but a broadcast. -/
theorem Moves.leads (hm : Moves sdk req signed ph c next) (l : Ledger) (v : Verdict) :
    Leads sdk req signed l v ph c (next (l.execute c v).2) := by
  cases ho : v.outage with
  | none =>
    rw [Ledger.execute_of_no_outage ho]
    exact hm.leads_of_no_outage l ho
  | some o =>
    cases hm with
    | send =>
      rw [Ledger.execute_broadcast]
      cases hreply : broadcastResult v.reply with
      | error e => exact .fails ..
      | ok signature => exact .sent hreply
    | lookup =>
      rw [Ledger.execute_of_outage rfl ho]
      exact .fails ..
    | findWallet pubkey =>
      rw [Ledger.execute_of_outage rfl ho]
      exact .fails ..
    | insert walletId =>
      rw [Ledger.execute_of_outage rfl ho]
      exact .fails ..
    | mark signature =>
      rw [Ledger.execute_of_outage rfl ho]
      exact .fails ..

theorem Moves.validated {l : Ledger} {v : Verdict} (hm : Moves sdk req signed ph c next)
    (h : next (l.execute c v).2 = .send) : sdk.validateSigned signed = .ok () := by
  have hl := hm.leads l v
  rw [h] at hl
  cases hl with
  | resumes _ _ hvalid => exact hvalid
  | claimed _ _ hvalid => exact hvalid

end Moves

theorem SubmitRequest.begin_ne_send (req : SubmitRequest) : req.begin ≠ .send := by
  unfold begin
  split <;> simp

section Runs

variable {ι : Type} [DecidableEq ι] {sdk : SolanaSdk} {l : Ledger} {reqs : ι → SubmitRequest}

abbrev Standing (sdk : SolanaSdk) (reqs : ι → SubmitRequest) (φ : ι → Option Phase)
    (p : SubmitPool ι) : Prop :=
  Pool.Tracks (fun i ph => ph.resume sdk (reqs i) (reqs i).payload) φ p

omit [DecidableEq ι] in
theorem submits_standing (sdk : SolanaSdk) (l : Ledger) (reqs : ι → SubmitRequest) :
    Standing sdk reqs (fun i => some (reqs i).begin) (submits sdk l reqs) :=
  Pool.Tracks.start fun i => run_submit sdk (reqs i)

theorem standing_run {J : (ι → Option Phase) → Ledger → List (SubmitEntry ι) → Prop}
    (Ok : SubmitTurn ι → Prop)
    (hmove : ∀ φ (p : SubmitPool ι) i ph c next v, Standing sdk reqs φ p → J φ p.world p.log →
      φ i = some ph → Moves sdk (reqs i) (reqs i).payload ph c next → Ok ⟨p, i, c, v⟩ →
      J (Function.update φ i (some (next (p.world.execute c v).2))) (p.world.execute c v).1
        (p.log ++ [⟨i, c, v⟩]))
    (hcrash : ∀ φ s log i, J φ s log → J (Function.update φ i none) s log)
    {φ : ι → Option Phase} {p : SubmitPool ι} {es : List (ι × Act Verdict)}
    (hst : Standing sdk reqs φ p)
    (hj : J φ p.world p.log) (hok : ∀ t ∈ p.turns Ledger.execute es, Ok t) :
    (∃ φ, Standing sdk reqs φ (p.run Ledger.execute es) ∧
        J φ (p.run Ledger.execute es).world (p.run Ledger.execute es).log) ∧
      ∀ t ∈ p.turns Ledger.execute es, ∃ φ, Standing sdk reqs φ t.pool ∧
      J φ t.pool.world t.pool.log := by
  refine Pool.run_tracked Ok ?_ hcrash hst hj hok
  intro φ p i ph c k v ht hj hi hr hv
  obtain ⟨next, hm, rfl⟩ := Phase.resume_call hr
  exact ⟨_, rfl, hmove φ p i ph c next v ht hj hi hm hv⟩

theorem standing_of_run (es : List (ι × Act Verdict)) :
    ∃ φ, Standing sdk reqs φ ((submits sdk l reqs).run Ledger.execute es) := by
  obtain ⟨φ, hst, -⟩ := (standing_run (J := fun _ _ _ => True) (fun _ => True)
    (fun _ _ _ _ _ _ _ _ _ _ _ _ => trivial) (fun _ _ _ _ _ => trivial)
      (submits_standing sdk l reqs)
    trivial fun t (_ : t ∈ (submits sdk l reqs).turns Ledger.execute es) => trivial).1
  exact ⟨φ, hst⟩

theorem turn_moves {p : SubmitPool ι} {es : List (ι × Act Verdict)} {t : SubmitTurn ι}
    {φ : ι → Option Phase}
    (hst : Standing sdk reqs φ t.pool) (ht : t ∈ p.turns Ledger.execute es) :
    ∃ ph next, φ t.thread = some ph ∧
      Moves sdk (reqs t.thread) (reqs t.thread).payload ph t.call next := by
  obtain ⟨k, hk⟩ := Pool.turns_thread ht
  obtain ⟨ph, hph, hr⟩ := hst.call hk
  obtain ⟨next, hm, -⟩ := Phase.resume_call hr
  exact ⟨ph, next, hph, hm⟩

/-- Whatever is broadcast is the payload of its request, and was validated. -/
theorem broadcast_validated {es : List (ι × Act Verdict)} {t : SubmitTurn ι}
    (ht : t ∈ (submits sdk l reqs).turns Ledger.execute es) {b : Bytes}
    (hc : t.call = .broadcast b) :
    b = (reqs t.thread).payload ∧ sdk.validateSigned b = .ok () := by
  have hrun := (standing_run (J := fun φ _ _ => ∀ i, φ i = some .send →
    sdk.validateSigned (reqs i).payload = .ok ()) (fun _ =>
      True) ?_ ?_ (submits_standing sdk l reqs) ?_
    (fun _ _ => trivial)).2 t ht
  · obtain ⟨φ, hst, hj⟩ := hrun
    obtain ⟨ph, next, hph, hm⟩ := turn_moves hst ht
    obtain ⟨p, i, c, v⟩ := t
    cases hc
    obtain ⟨hb, rfl⟩ := hm.of_broadcast
    exact ⟨hb, hb ▸ hj i hph⟩
  · intro φ p i ph c next v _ hj _ hm _ j hsend
    rw [Function.update_apply] at hsend
    split at hsend
    · subst j
      exact hm.validated (Option.some.inj hsend)
    · exact hj j hsend
  · intro φ _ _ i hj j hsend
    rw [Function.update_apply] at hsend
    split at hsend
    · cases hsend
    · exact hj j hsend
  · intro i hi
    exact absurd (Option.some.inj hi) (SubmitRequest.begin_ne_send _)

theorem logged_validated {es : List (ι × Act Verdict)} {e : SubmitEntry ι}
    (he : e ∈ ((submits sdk l reqs).run Ledger.execute es).log) {b : Bytes}
    (hc : e.call = .broadcast b) :
    b = (reqs e.thread).payload ∧ sdk.validateSigned b = .ok () := by
  rw [Pool.log_run] at he
  obtain ⟨t, ht, rfl⟩ := List.mem_map.mp (List.mem_append.mp he |>.resolve_left List.not_mem_nil)
  exact broadcast_validated ht hc

end Runs

namespace Reference

def submitTransfer (rebuilt : Bool) (key : String) : SubmitRequest where
  signed := Base64.encode (signedTransfer rebuilt)
  idempotencyKey := key
  pubkey := some senderAddress
  toAddress := some destAddress
  amount := some "1000000"
  mint := none

/-- The payment back, posted by the sender that `pubkey` names. -/
def submitReturn (pubkey key : String) : SubmitRequest where
  signed := Base64.encode signedReturn
  idempotencyKey := key
  pubkey := some pubkey
  toAddress := some senderAddress
  amount := some "250000"
  mint := none

theorem payload_submitTransfer (rebuilt : Bool) (key : String) :
    (submitTransfer rebuilt key).payload = signedTransfer rebuilt := by
  simp [SubmitRequest.payload, submitTransfer, Base64.decode_encode]

theorem payload_submitReturn (pubkey key : String) :
    (submitReturn pubkey key).payload = signedReturn := by
  simp [SubmitRequest.payload, submitReturn, Base64.decode_encode]

theorem signatureText_size (rebuilt : Bool) : (base58 (signatureText rebuilt)).length = 64 := by
  cases rebuilt <;> decide +kernel

theorem returnSignatureText_size : (base58 returnSignatureText).length = 64 := by decide +kernel

theorem signatureText_inj {rebuilt : Bool} {text : String}
    (h : base58 (signatureText rebuilt) = base58 text) :
    signatureText rebuilt = text := base58_inj h (signatureText_size rebuilt)

theorem deserialize_signedTransfer (rebuilt : Bool) :
    sampleSdk.deserializeTransaction (signedTransfer rebuilt) =
      .ok ⟨[base58 (signatureText rebuilt)], transfer rebuilt⟩ :=
  deserialize_signed (blockhash rebuilt) (compilable_transfer senderKey destKey 1000000)
    (signatureText_size rebuilt)

theorem blockhash_read (rebuilt : Bool) :
    (readMessage (transferMessage rebuilt)).map (·.1.recentBlockhash.1) =
      some (base58 (blockhashText rebuilt)) := by
  rw [transfer_read]
  rfl

/-- A transaction with one signature is validated by verifying it for the payer. -/
theorem validate_signed {verifySignature : Bytes → Pubkey → Bytes → Bool}
    {ixs : List Instruction} {payer : Pubkey}
    {bh : Hash} {signature : Bytes} (h : Compilable ixs payer) (hsize : signature.length = 64) :
    (sdk (fun _ _ => default) verifySignature).validateSigned
        (compactU16 1 ++ signature ++ serialize (newWithBlockhash ixs payer bh)) =
      if verifySignature signature payer (serialize (newWithBlockhash ixs payer bh)) then .ok ()
      else .error (.badRequest "transaction signature verification failed") := by
  have hverify : (sdk (fun _ _ => default) verifySignature).verify ⟨[signature],
      newWithBlockhash ixs payer bh⟩ =
      verifySignature signature payer (serialize (newWithBlockhash ixs payer bh)) := by
    simp [SolanaSdk.verify, sdk, newWithBlockhash, accountKeys]
  rw [SolanaSdk.validateSigned, ← hverify]
  simp only [sdk, deserialize_signed bh h hsize]

theorem validate_signedTransfer (rebuilt : Bool) :
    sampleSdk.validateSigned (signedTransfer rebuilt) = .ok () := by
  refine (validate_signed (compilable_transfer senderKey destKey 1000000)
    (signatureText_size rebuilt)).trans (if_pos ?_)
  cases rebuilt <;> simp [transferMessage]

theorem validate_signedReturn : sampleSdk.validateSigned signedReturn = .ok () := by
  refine (validate_signed (compilable_transfer destKey senderKey 250000)
    returnSignatureText_size).trans (if_pos ?_)
  simp [returnMessage]

/-- Takes all bytes for an unsigned transaction, with nothing to verify. Runs of
valid payloads are evaluated under it. -/
def lenientSdk : SolanaSdk :=
  { sampleSdk with deserializeTransaction := fun _ => .ok ⟨[], ⟨⟨0, 0, 0⟩, [], default, []⟩⟩ }

theorem run_submitTransfer (rebuilt : Bool) (key : String) :
    (submit sampleSdk (submitTransfer rebuilt key)).run =
      (lookUp lenientSdk (submitTransfer rebuilt key) (signedTransfer rebuilt)).run := by
  have hdecode : Base64.decode (submitTransfer rebuilt key).signed =
      some (signedTransfer rebuilt) := Base64.decode_encode _
  have hvalid : sampleSdk.validateSigned (signedTransfer rebuilt) =
      lenientSdk.validateSigned (signedTransfer rebuilt) :=
    validate_signedTransfer rebuilt
  rw [run_submit_of_decode hdecode, lookUp_congr hvalid]

theorem run_submitReturn (pubkey key : String) :
    (submit sampleSdk (submitReturn pubkey key)).run =
      (lookUp lenientSdk (submitReturn pubkey key) signedReturn).run := by
  have hdecode : Base64.decode (submitReturn pubkey key).signed = some signedReturn :=
    Base64.decode_encode _
  have hvalid : sampleSdk.validateSigned signedReturn = lenientSdk.validateSigned signedReturn :=
    validate_signedReturn
  rw [run_submit_of_decode hdecode, lookUp_congr hvalid]

def served : Verdict := ⟨none, 0, false, .transport "connection refused"⟩

def landed (rebuilt : Bool) : Verdict :=
  ⟨none, 0, true, .body (.obj [("result", .str (signatureText rebuilt))])⟩

def refused (message : String) : Verdict :=
  ⟨none, 0, false, .body (.obj [("error", .obj [("message", .str message)])])⟩

end Reference

end Xend
