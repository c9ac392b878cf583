import Xend.SubmitRuns

/-! How many transactions the network accepts for one idempotency key. -/

namespace Xend

open Framing Interaction

/-- The calls between the lookup and the answer of the network. -/
def Call.inFlight : Call → Bool
  | .findIdByPubkey _ | .insertPending .. | .broadcast _ => true
  | _ => false

def Phase.InFlight : Phase → Prop
  | .findWallet _ | .insert _ | .send => True
  | _ => False

section Entries

variable {ι τ : Type}

def acceptedBy (e : SubmitEntry ι) : Option Bytes :=
  match e.call with
  | .broadcast signed => if e.verdict.accepted then some signed else none
  | _ => none

def acceptedFor (reqs : ι → SubmitRequest) (key : String)
    (log : List (SubmitEntry ι)) : List Bytes :=
  (log.filter fun e => (reqs e.thread).idempotencyKey = key).filterMap acceptedBy

/-- At most one distinct transaction was accepted on behalf of the key. -/
def SentOnce (txid : Bytes → τ) (reqs : ι → SubmitRequest) (key : String)
    (log : List (SubmitEntry ι)) : Prop :=
  ∀ b ∈ acceptedFor reqs key log, ∀ b' ∈ acceptedFor reqs key log, txid b = txid b'

def HasSent (log : List (SubmitEntry ι)) (i : ι) : Prop :=
  ∃ e ∈ log, e.thread = i ∧ (acceptedBy e).isSome

def MaySend (p : SubmitPool ι) (i : ι) : Prop :=
  ∃ c k, p.thread i = some (.call c k) ∧ c.inFlight = true

/-- A lookup that finds no signature under the key meets no other transaction:
whatever was or may still be sent for the key is what its own request carries. -/
def Undisputed (sdk : SolanaSdk) (txid : Bytes → τ) (reqs : ι → SubmitRequest) (key : String)
    (t : SubmitTurn ι) : Prop :=
  t.call = .findByIdempotency key → t.verdict.outage = none → t.pool.world.signatureOf key = none →
    sdk.validateSigned (reqs t.thread).payload = .ok () →
    ∀ j, (reqs j).idempotencyKey = key → sdk.validateSigned (reqs j).payload = .ok () →
      MaySend t.pool j ∨ HasSent t.pool.log j → txid (reqs j).payload = txid (reqs t.thread).payload

theorem mem_acceptedFor {reqs : ι → SubmitRequest} {key : String}
    {log : List (SubmitEntry ι)} {b : Bytes} :
    b ∈ acceptedFor reqs key log ↔
      ∃ e ∈ log, (reqs e.thread).idempotencyKey = key ∧ acceptedBy e = some b := by
  simp [acceptedFor, and_assoc]

theorem acceptedBy_eq_some {e : SubmitEntry ι} {b : Bytes} (h : acceptedBy e = some b) :
    e.call = .broadcast b := by
  unfold acceptedBy at h
  split at h
  · rename_i signed hc
    split at h
    · cases h
      exact hc
    · cases h
  · cases h

end Entries

theorem Moves.inFlight {sdk : SolanaSdk} {req : SubmitRequest} {signed : Bytes}
    {ph : Phase} {c : Call}
    {next : c.Reply → Phase} {l : Ledger} {v : Verdict} (hm : Moves sdk req signed ph c next)
    (h : (next (l.execute c v).2).InFlight) :
    ph.InFlight ∨
      (c = .findByIdempotency req.idempotencyKey ∧ v.outage = none ∧
        l.signatureOf req.idempotencyKey = none) := by
  have hl := hm.leads l v
  generalize next (l.execute c v).2 = ph' at h hl
  cases hl with
  | resumes ho hfound => exact .inr ⟨rfl, ho, by simp [Ledger.signatureOf, hfound]⟩
  | named ho hfound => exact .inr ⟨rfl, ho, by simp [Ledger.signatureOf, hfound]⟩
  | unnamed ho hfound => exact .inr ⟨rfl, ho, by simp [Ledger.signatureOf, hfound]⟩
  | found => exact .inl trivial
  | claimed => exact .inl trivial
  | fails => exact absurd h id
  | replays => exact absurd h id
  | sent => exact absurd h id
  | marked => exact absurd h id

section Runs

variable {ι τ : Type} [DecidableEq ι] {sdk : SolanaSdk} {txid : Bytes → τ}
    {reqs : ι → SubmitRequest} {key : String}

/-- A claim that was or may still be sent. -/
def Live (φ : ι → Option Phase) (log : List (SubmitEntry ι)) (i : ι) : Prop :=
  (∃ ph, φ i = some ph ∧ ph.InFlight) ∨ HasSent log i

/-- The live claims of the key agree, and the log holds validated payloads only. -/
structure Agreement (sdk : SolanaSdk) (txid : Bytes → τ) (reqs : ι → SubmitRequest) (key : String)
    (φ : ι → Option Phase) (log : List (SubmitEntry ι)) : Prop where
  live : ∀ i j, (reqs i).idempotencyKey = key → (reqs j).idempotencyKey = key →
    sdk.validateSigned (reqs i).payload = .ok () → sdk.validateSigned (reqs j).payload = .ok () →
    Live φ log i → Live φ log j → txid (reqs i).payload = txid (reqs j).payload
  sent : ∀ e ∈ log, ∀ b, e.call = .broadcast b → b = (reqs e.thread).payload ∧
    sdk.validateSigned (reqs e.thread).payload = .ok ()
  send : ∀ i, φ i = some .send → sdk.validateSigned (reqs i).payload = .ok ()

omit [DecidableEq ι] in
theorem Agreement.sentOnce {φ : ι → Option Phase} {log : List (SubmitEntry ι)}
    (h : Agreement sdk txid reqs key φ log) : SentOnce txid reqs key log := by
  intro b hb b' hb'
  obtain ⟨e, he, hk, ha⟩ := mem_acceptedFor.mp hb
  obtain ⟨e', he', hk', ha'⟩ := mem_acceptedFor.mp hb'
  obtain ⟨rfl, hv⟩ := h.sent e he b (acceptedBy_eq_some ha)
  obtain ⟨rfl, hv'⟩ := h.sent e' he' b' (acceptedBy_eq_some ha')
  exact h.live _ _ hk hk' hv hv' (.inr ⟨e, he, rfl, by simp [ha]⟩)
    (.inr ⟨e', he', rfl, by simp [ha']⟩)

omit [DecidableEq ι] in
theorem Live.pool {φ : ι → Option Phase} {p : SubmitPool ι} {i : ι} (hst : Standing sdk reqs φ p)
    (h : Live φ p.log i) : MaySend p i ∨ HasSent p.log i := by
  refine h.imp_left ?_
  rintro ⟨ph, hph, hf⟩
  have hi := hst i
  rw [hph] at hi
  cases ph with
  | findWallet pubkey =>
    exact ⟨_, _, hi.trans (congrArg some (Phase.resume_findWallet pubkey)), rfl⟩
  | insert walletId => exact ⟨_, _, hi.trans (congrArg some (Phase.resume_insert walletId)), rfl⟩
  | send => exact ⟨_, _, hi.trans (congrArg some Phase.resume_send), rfl⟩
  | _ => exact absurd hf id

theorem Live.of_move {φ : ι → Option Phase} {p : SubmitPool ι} {i j : ι} {ph : Phase} {c : Call}
    {next : c.Reply → Phase} {v : Verdict} (hi : φ i = some ph)
    (hm : Moves sdk (reqs i) (reqs i).payload ph c next)
    (h : Live (Function.update φ i (some (next (p.world.execute c v).2)))
      (p.log ++ [⟨i, c, v⟩]) j) :
    Live φ p.log j ∨ (j = i ∧ c = .findByIdempotency (reqs i).idempotencyKey ∧ v.outage = none ∧
      p.world.signatureOf (reqs i).idempotencyKey = none) := by
  rcases h with ⟨ph', hph', hf⟩ | ⟨e, he, hej, ha⟩
  · rw [Function.update_apply] at hph'
    split at hph'
    · subst j
      cases hph'
      rcases hm.inFlight hf with hl | hl
      · exact .inl (.inl ⟨ph, hi, hl⟩)
      · exact .inr ⟨rfl, hl⟩
    · exact .inl (.inl ⟨ph', hph', hf⟩)
  · rcases List.mem_append.mp he with he | he
    · exact .inl (.inr ⟨e, he, hej, ha⟩)
    · obtain rfl := List.mem_singleton.mp he
      obtain ⟨b, hb⟩ := Option.isSome_iff_exists.mp ha
      have hc := acceptedBy_eq_some hb
      simp only at hc hej
      subst hc hej
      obtain ⟨-, rfl⟩ := hm.of_broadcast
      exact .inl (.inl ⟨_, hi, trivial⟩)

theorem Agreement.move {φ : ι → Option Phase} {p : SubmitPool ι} {i : ι} {ph : Phase} {c : Call}
    {next : c.Reply → Phase} {v : Verdict} (hst : Standing sdk reqs φ p)
    (h : Agreement sdk txid reqs key φ p.log) (hi : φ i = some ph)
    (hm : Moves sdk (reqs i) (reqs i).payload ph c next)
    (hok : Undisputed sdk txid reqs key ⟨p, i, c, v⟩) :
    Agreement sdk txid reqs key (Function.update φ i (some (next (p.world.execute c v).2)))
      (p.log ++ [⟨i, c, v⟩]) := by
  refine ⟨fun a b hka hkb hva hvb ha hb => ?_, fun e he b hb => ?_, fun j hj => ?_⟩
  · -- a claim just made agrees with every live one, because the lookup was undisputed
    have hnew : ∀ j, (reqs i).idempotencyKey = key → sdk.validateSigned (reqs i).payload = .ok () →
        (reqs j).idempotencyKey = key → sdk.validateSigned (reqs j).payload = .ok () →
        Live φ p.log j →
        c = .findByIdempotency (reqs i).idempotencyKey → v.outage = none →
        p.world.signatureOf (reqs i).idempotencyKey = none →
        txid (reqs j).payload = txid (reqs i).payload := by
      intro j hki hvi hkj hvj hj hc ho hs
      rw [hki] at hc hs
      exact hok hc ho hs hvi j hkj hvj (hj.pool hst)
    rcases ha.of_move hi hm with hla | ⟨rfl, hc, ho, hs⟩
    · rcases hb.of_move hi hm with hlb | ⟨rfl, hc, ho, hs⟩
      · exact h.live a b hka hkb hva hvb hla hlb
      · exact hnew a hkb hvb hka hva hla hc ho hs
    · rcases hb.of_move hi hm with hlb | ⟨rfl, -⟩
      · exact (hnew b hka hva hkb hvb hlb hc ho hs).symm
      · rfl
  · rcases List.mem_append.mp he with he | he
    · exact h.sent e he b hb
    · obtain rfl := List.mem_singleton.mp he
      simp only at hb
      subst hb
      obtain ⟨hb, rfl⟩ := hm.of_broadcast
      exact ⟨hb, h.send i hi⟩
  · rw [Function.update_apply] at hj
    split at hj
    · subst j
      exact hm.validated (Option.some.inj hj)
    · exact h.send j hj

theorem Agreement.crash {φ : ι → Option Phase} {log : List (SubmitEntry ι)} (i : ι)
    (h : Agreement sdk txid reqs key φ log) :
    Agreement sdk txid reqs key (Function.update φ i none) log := by
  have hphase : ∀ j ph, Function.update φ i none j = some ph → φ j = some ph := by
    intro j ph hj
    rw [Function.update_apply] at hj
    split at hj
    · cases hj
    · exact hj
  have hlive : ∀ j, Live (Function.update φ i none) log j → Live φ log j :=
    fun j hj => hj.imp_left fun ⟨ph, hph, hf⟩ => ⟨ph, hphase j ph hph, hf⟩
  exact ⟨fun a b hka hkb hva hvb ha hb => h.live a b hka hkb hva hvb (hlive a ha) (hlive b hb),
    h.sent, fun j hj => h.send j (hphase j _ hj)⟩

/-- With undisputed lookups, every run sends at most one transaction for the key. -/
theorem sentOnce_of_undisputed (l : Ledger) (es : List (ι × Act Verdict))
    (hok : ∀ t ∈ (submits sdk l reqs).turns Ledger.execute es, Undisputed sdk txid reqs key t) :
    SentOnce txid reqs key ((submits sdk l reqs).run Ledger.execute es).log := by
  have hbegin : ∀ i, ¬ (reqs i).begin.InFlight := by
    intro i hf
    unfold SubmitRequest.begin at hf
    split at hf <;> exact hf
  have hlive : ∀ i, ¬ Live (fun i => some (reqs i).begin) ([] : List (SubmitEntry ι)) i := by
    rintro i (⟨ph, hph, hf⟩ | ⟨e, he, -⟩)
    · cases hph
      exact hbegin i hf
    · cases he
  obtain ⟨φ, -, hj⟩ := (standing_run (J := fun φ _ log => Agreement sdk txid reqs key φ log)
    (Undisputed sdk txid reqs key) (fun φ p i ph c next v hst hj hi hm hv => hj.move hst hi hm hv)
    (fun φ _ _ i hj => hj.crash i) (submits_standing sdk l reqs)
    ⟨fun i _ _ _ _ _ hi _ => absurd hi (hlive i), by simp [submits, Pool.start],
      fun i hi => absurd (Option.some.inj hi) (SubmitRequest.begin_ne_send _)⟩ hok).1
  exact hj.sentOnce

end Runs

open Reference

def SolanaSdk.transactionId (sdk : SolanaSdk) (b : Bytes) : Option Bytes :=
  match sdk.deserializeTransaction b with
  | .ok tx => tx.signatures.head?
  | .error _ => none

/-- A send whose first attempt lands but dies before it is recorded, and the
retry under the same key: the same bytes, or rebuilt on a fresh blockhash. -/
def retriedSend (rebuilt : Bool) : List (Bool × Act Verdict) :=
  [(false, .step served), (false, .step served), (false, .step served),
    (false, .step (landed false)), (false, .crash), (true, .step served),
    (true, .step (landed rebuilt)), (true, .step served)]

/-- The same bytes land again, and are the same transaction. -/
theorem sentOnce_retriedSend :
    let log :=
      ((submits sampleSdk (.empty ∅) fun _ : Bool => submitTransfer false "send-1").run
        Ledger.execute (retriedSend false)).log
    acceptedFor (fun _ : Bool => submitTransfer false "send-1") "send-1" log =
      [signedTransfer false, signedTransfer false] ∧
      SentOnce sampleSdk.transactionId
        (fun _ : Bool => submitTransfer false "send-1") "send-1" log := by
  refine ⟨?_, sentOnce_of_undisputed _ _ fun _ _ _ _ _ _ _ _ _ _ => rfl⟩
  simp only [submits, run_submitTransfer]
  rfl

theorem transactionId_signedTransfer (rebuilt : Bool) :
    sampleSdk.transactionId (signedTransfer rebuilt) = some (base58 (signatureText rebuilt)) := by
  rw [SolanaSdk.transactionId, deserialize_signedTransfer]
  rfl

theorem rebuiltRetry_sends_twice :
    ¬ SentOnce sampleSdk.transactionId (fun rebuilt => submitTransfer rebuilt "send-1") "send-1"
      ((submits sampleSdk (.empty ∅) fun rebuilt => submitTransfer rebuilt "send-1").run
        Ledger.execute
        (retriedSend true)).log := by
  have haccepted : acceptedFor (fun rebuilt => submitTransfer rebuilt "send-1") "send-1"
      ((submits sampleSdk (.empty ∅) fun rebuilt => submitTransfer rebuilt "send-1").run
        Ledger.execute
        (retriedSend true)).log = [signedTransfer false, signedTransfer true] := by
    simp only [submits, run_submitTransfer]
    rfl
  intro h
  have hsame :=
    h (signedTransfer false) (by simp [haccepted]) (signedTransfer true) (by simp [haccepted])
  rw [transactionId_signedTransfer, transactionId_signedTransfer] at hsame
  exact absurd (signatureText_inj (Option.some.inj hsame)) (by decide)

end Xend
