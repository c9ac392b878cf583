import Xend.SubmitRuns

/-! Submitting again the bytes of a transaction that has landed. -/

namespace Xend

open Framing Interaction

/-- The backend has said that the bytes landed with the signature. -/
def Landed {ι : Type} (b : Bytes) (s : String) (log : List (SubmitEntry ι)) : Prop :=
  ∃ e ∈ log, e.call = .broadcast b ∧ broadcastResult e.verdict.reply = .ok s

/-- The call finds the signature `s`, or nothing in its way: no other signature
under the key, no error from the node, no other row with `s`. -/
def Faithful (s : String) (l : Ledger) (v : Verdict) : Call → Prop
  | .findByIdempotency key => ∀ s', l.signatureOf key = some s' → s' = s
  | .broadcast _ => broadcastResult v.reply = .ok s
  | .markSubmitted key signature => l.findByIdempotency key = none ∨ ¬ l.Taken key signature
  | _ => True

def Phase.OnTrack (s : String) : Phase → Prop
  | .mark signature => signature = s
  | .answered r => ∃ status, r = .ok ⟨s, status⟩
  | _ => True

/-- One move of a handler with a valid payload stays on track to answer `s`
exactly if its call is faithful to `s`. -/
theorem Moves.onTrack_iff {sdk : SolanaSdk} {req : SubmitRequest} {signed : Bytes}
    {ph : Phase} {c : Call}
    {next : c.Reply → Phase} {l : Ledger} {v : Verdict} {s : String}
    (hm : Moves sdk req signed ph c next)
    (hv : sdk.validateSigned signed = .ok ()) (ho : v.outage = none) :
    (next (l.execute c v).2).OnTrack s ↔ ph.OnTrack s ∧ Faithful s l v c := by
  have hsend : Phase.validated sdk signed = .send := by
    unfold Phase.validated
    rw [hv]
  rw [Ledger.execute_of_no_outage ho]
  cases hm with
  | lookup =>
    simp only [Ledger.serve, Faithful, Ledger.signatureOf]
    rcases l.findByIdempotency req.idempotencyKey with _ | ⟨_ | s', status⟩
    · simp only [Phase.afterLookup]
      cases req.pubkey <;> simp [Phase.OnTrack]
    · simp [Phase.afterLookup, hsend, Phase.OnTrack]
    · simp [Phase.afterLookup, Phase.OnTrack]
  | findWallet pubkey => simp [Ledger.serve, Faithful, Phase.afterFindWallet, Phase.OnTrack]
  | insert walletId => simp [Ledger.serve, Faithful, Phase.afterInsert, hsend, Phase.OnTrack]
  | send =>
    simp only [Ledger.serve, Faithful]
    cases broadcastResult v.reply with
    | error e => simp [Phase.afterSend, Phase.OnTrack]
    | ok s' => simp [Phase.afterSend, Phase.OnTrack]
  | mark signature =>
    simp only [Ledger.serve, Faithful, ← Ledger.markSubmitted_isOk v.now]
    cases l.markSubmitted req.idempotencyKey signature v.now with
    | error e => simp [Phase.afterMark, Phase.OnTrack]
    | ok l' => simp [Phase.afterMark, Phase.OnTrack]

section Runs

variable {ι : Type} [DecidableEq ι] {sdk : SolanaSdk} {l : Ledger} {reqs : ι → SubmitRequest}

theorem Standing.begin {φ : ι → Option Phase} {p : SubmitPool ι} {i : ι} {b : Bytes}
    (hst : Standing sdk reqs φ p) (hi : p.thread i = some (submit sdk (reqs i)).run)
    (hb : Base64.decode (reqs i).signed = some b) :
    Standing sdk reqs (Function.update φ i (some .lookup)) p := by
  intro j
  rw [Function.update_apply]
  split
  · subst j
    rw [hi, run_submit, SubmitRequest.begin, hb]
    rfl
  · exact hst j

/-- A later submit of landed bytes that no database outage cuts short returns
their signature exactly if each of its calls was faithful to it. -/
theorem resubmission_iff {es es' : List (ι × Act Verdict)} {i : ι} {b : Bytes} {s : String}
    {r : Except AppError SubmitResponse} {p : SubmitPool ι}
    (hp : p = (submits sdk l reqs).run Ledger.execute es) (hl : Landed b s p.log)
    (hi : p.thread i = some (submit sdk (reqs i)).run) (hb : Base64.decode (reqs i).signed = some b)
    (ho : ∀ t ∈ p.turns Ledger.execute es', t.thread = i → t.verdict.outage = none)
    (hr : (p.run Ledger.execute es').answer i = some r) :
    (∃ status, r = .ok ⟨s, status⟩) ↔
      ∀ t ∈ p.turns Ledger.execute es', t.thread = i →
      Faithful s t.pool.world t.verdict t.call := by
  have hpay : (reqs i).payload = b := by
    rw [SubmitRequest.payload, hb]
    rfl
  have hv : sdk.validateSigned (reqs i).payload = .ok () := by
    obtain ⟨e, he, hc, -⟩ := hl
    rw [hpay]
    exact (logged_validated (hp ▸ he) hc).2
  obtain ⟨φ, hst⟩ : ∃ φ, Standing sdk reqs φ p := hp ▸ standing_of_run es
  have hst' := hst.begin hi hb
  obtain ⟨φ', hst'', hφ'⟩ := Pool.Tracks.outcome_iff (G := Phase.OnTrack s) (i := i)
    (M := fun t : SubmitTurn ι => Faithful s t.pool.world t.verdict t.call)
    (A := fun t => t.verdict.outage = none)
    (fun p ph c k v hk ho => by
      obtain ⟨next, hm, rfl⟩ := Phase.resume_call hk
      exact ⟨_, rfl, hm.onTrack_iff hv ho⟩)
    (fun p j ph c k v hk => by
      obtain ⟨next, -, rfl⟩ := Phase.resume_call hk
      exact ⟨_, rfl⟩) hst' ho
  obtain ⟨ph', hph', hdone⟩ :=
    Option.map_eq_some_iff.mp ((hst'' i).symm.trans (Pool.answer_eq_some.mp hr))
  obtain ⟨ph, hph, hiff⟩ := hφ' ph' hph'
  rw [Function.update_self] at hph
  cases hph
  obtain rfl := Phase.eq_answered hdone
  simpa [Phase.OnTrack] using hiff

end Runs

open Reference

/-- Lands, and dies before the signature is recorded. -/
def unrecordedSend : List (Bool × Act Verdict) :=
  [(false, .step served), (false, .step served), (false, .step served),
    (false, .step (landed false)), (false, .crash)]

def resubmitted (answer : Verdict) : List (Bool × Act Verdict) :=
  [(true, .step served), (true, .step answer), (true, .step served)]

abbrev sameSend : SubmitPool Bool :=
  submits sampleSdk (.empty ∅) fun _ => submitTransfer false "send-1"

theorem sameSend_landed :
    Landed (signedTransfer false) (signatureText false)
      (sameSend.run Ledger.execute unrecordedSend).log := by
  refine ⟨⟨false, .broadcast (signedTransfer false), landed false⟩,
    List.mem_of_getElem? (i := 3) ?_, rfl, rfl⟩
  simp only [sameSend, submits, run_submitTransfer]
  rfl

theorem sameSend_answer :
    ((sameSend.run Ledger.execute unrecordedSend).run Ledger.execute
      (resubmitted (landed false))).answer true =
      some (.ok ⟨signatureText false, "submitted"⟩) := by
  simp only [sameSend, submits, run_submitTransfer]
  rfl

theorem resubmission_iff_sample :
    (∃ status, (.ok ⟨signatureText false, "submitted"⟩ : Except AppError SubmitResponse) =
        .ok ⟨signatureText false, status⟩) ↔
      ∀ t ∈ (sameSend.run Ledger.execute unrecordedSend).turns Ledger.execute
        (resubmitted (landed false)),
        t.thread = true → Faithful (signatureText false) t.pool.world t.verdict t.call := by
  refine resubmission_iff rfl sameSend_landed (Pool.thread_run (by simp [unrecordedSend]))
    (Base64.decode_encode (signedTransfer false)) (fun t ht _ => ?_) sameSend_answer
  have hevent := Pool.turns_event ht
  simp only [resubmitted, List.mem_cons, Prod.mk.injEq, Act.step.injEq,
    List.not_mem_nil, or_false] at hevent
  rcases hevent with ⟨-, hv⟩ | ⟨-, hv⟩ | ⟨-, hv⟩ <;> rw [hv] <;> rfl

/-- The node remembers the transaction, and the retry is told it was rejected. -/
theorem landedRetry_rejected :
    Landed (signedTransfer false) (signatureText false)
      (sameSend.run Ledger.execute unrecordedSend).log ∧
      ((sameSend.run Ledger.execute unrecordedSend).run Ledger.execute
          (resubmitted (refused "This transaction has already been processed"))).answer true =
        some (.error (.chainRejected "This transaction has already been processed")) := by
  refine ⟨sameSend_landed, ?_⟩
  simp only [sameSend, submits, run_submitTransfer]
  decide +kernel

end Xend
