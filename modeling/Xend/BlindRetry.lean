import Xend.Provenance

/-! Retries of one signed transaction under one key, at any time and in any
number: what they answer, and what the row of the key can become. -/

namespace Xend

open Framing Interaction

/-- Every request under the key that decodes carries the bytes `b`. -/
def Carries {ι : Type} (reqs : ι → SubmitRequest) (key : String) (b : Bytes) : Prop :=
  ∀ i, (reqs i).idempotencyKey = key → ∀ b', Base64.decode (reqs i).signed = some b' → b' = b

/-- A broadcast of `b` that succeeds returns its id. -/
def Answers {ι : Type} (b : Bytes) (txid : String) (t : SubmitTurn ι) : Prop :=
  t.call = .broadcast b → ∀ s, broadcastResult t.verdict.reply = .ok s → s = txid

def Row.Records (row : Row) (txid : String) : Prop :=
  row.signature = none ∨ row.signature = some txid ∧ row.status = "submitted"

/-- While requests under one key carry the same bytes: the threads and the row of the key. -/
structure Retried {ι : Type} (reqs : ι → SubmitRequest) (key txid : String)
    (φ : ι → Option Phase) (l : Ledger)
    (log : List (SubmitEntry ι)) : Prop where
  decoded : ∀ i ph, φ i = some ph → Base64.decode (reqs i).signed = none → ∃ r, ph = .answered r
  fresh : ∀ i ph, φ i = some ph → (∀ e ∈ log, e.thread ≠ i) → ph = (reqs i).begin
  row : ∀ row, l.rows.lookup key = some row → row.Records txid
  mark : ∀ i s, (reqs i).idempotencyKey = key → φ i = some (.mark s) → s = txid
  answer : ∀ i s status, (reqs i).idempotencyKey = key →
    φ i = some (.answered (.ok ⟨s, status⟩)) → s = txid

/-- Once `row` is signed: it stays but for its time stamp, and the threads in
`late`, which have not looked it up before, send nothing. -/
structure Settled {ι : Type} (reqs : ι → SubmitRequest) (key : String) (row : Row) (late : ι → Prop)
    (φ : ι → Option Phase) (l : Ledger) (log : List (SubmitEntry ι)) : Prop where
  kept : ∃ updatedAt, l.rows.lookup key = some { row with updatedAt := updatedAt }
  idle : ∀ i ph, late i → (reqs i).idempotencyKey = key → φ i = some ph → ph = .lookup ∨
    ∃ r, ph = .answered r
  quiet : ∀ e ∈ log, late e.thread → (reqs e.thread).idempotencyKey = key →
    e.call.isBroadcast = false

section Step

variable {ι : Type} [DecidableEq ι] {sdk : SolanaSdk} {reqs : ι → SubmitRequest}
    {key txid : String} {b : Bytes}
  {φ : ι → Option Phase} {l : Ledger} {log : List (SubmitEntry ι)} {i : ι} {ph : Phase} {c : Call}
  {next : c.Reply → Phase} {v : Verdict}

omit [DecidableEq ι] in
theorem Retried.row_signed (h : Retried reqs key txid φ l log) {s : String}
    (hs : l.signatureOf key = some s) :
    s = txid := by
  obtain ⟨row, hrow, hsig⟩ := Ledger.signatureOf_eq_some.mp hs
  rcases h.row row hrow with hnone | ⟨hsome, -⟩
  · rw [hsig] at hnone
    cases hnone
  · exact Option.some.inj (hsig.symm.trans hsome)

theorem Retried.move (h : Retried reqs key txid φ l log) (hi : φ i = some ph)
    (hm : Moves sdk (reqs i) (reqs i).payload ph c next)
    (hnet : (reqs i).idempotencyKey = key → ∀ b, c = .broadcast b →
      ∀ s, broadcastResult v.reply = .ok s → s = txid) :
    Retried reqs key txid (Function.update φ i (some (next (l.execute c v).2))) (l.execute c v).1
      (log ++ [⟨i, c, v⟩]) := by
  refine ⟨fun j ph' hj hd => ?_, fun j ph' hj hlog => ?_, fun row hrow => ?_, fun j s hk hj => ?_,
    fun j s status hk hj => ?_⟩
  · exact Opened.move h.decoded hi hm j ph' hj hd
  · rcases update_cases hj with ⟨rfl, -⟩ | ⟨-, hj⟩
    · exact absurd rfl (hlog _ (List.mem_append_right _ List.mem_cons_self))
    · exact h.fresh j ph' hj fun e he => hlog e (List.mem_append_left _ he)
  · rcases l.execute_row c v key with hkept | ⟨walletId, toAddress, amount, mint, -, -,
      hnew⟩ | ⟨s, old, rfl, -, hnew⟩
    · exact h.row row (hkept ▸ hrow)
    · rw [hnew] at hrow
      cases hrow
      exact .inl rfl
    · obtain ⟨hkey, rfl⟩ := hm.of_markSubmitted
      rw [hnew] at hrow
      cases hrow
      exact .inr ⟨congrArg some (h.mark i s hkey.symm hi), rfl⟩
  · rcases update_cases hj with ⟨rfl, hnext⟩ | ⟨-, hj⟩
    · obtain ⟨rfl, hs⟩ := hm.of_mark hnext.symm
      exact hnet hk _ rfl s hs
    · exact h.mark j s hk hj
  · rcases update_cases hj with ⟨rfl, hnext⟩ | ⟨-, hj⟩
    · rcases hm.of_answer hnext.symm with hs | rfl
      · rw [hk] at hs
        exact h.row_signed hs
      · exact h.mark j s hk hi
    · exact h.answer j s status hk hj

omit [DecidableEq ι] in
theorem Retried.carried (hsame : Carries reqs key b) (h : Retried reqs key txid φ l log)
    (hi : φ i = some ph)
    (hm : Moves sdk (reqs i) (reqs i).payload ph c next)
    (hk : (reqs i).idempotencyKey = key) {b' : Bytes}
    (hc : c = .broadcast b') : c = .broadcast b := by
  subst hc
  rw [hm.of_broadcast.1, hsame i hk _ (Opened.payload h.decoded hi hm)]

omit [DecidableEq ι] in
theorem Retried.begin (wallets : AList fun _ : String => Nat) :
    Retried reqs key txid (fun i => some (reqs i).begin) (.empty wallets) [] := by
  refine ⟨Opened.begin reqs, fun i ph hi _ => (Option.some.inj hi).symm, fun row hrow => ?_,
    fun i s _ hi => ?_, fun i s status _ hi => ?_⟩
  · simp [Ledger.empty] at hrow
  · simp only [SubmitRequest.begin, Option.some.injEq] at hi
    split at hi <;> cases hi
  · simp only [SubmitRequest.begin, Option.some.injEq] at hi
    split at hi <;> cases hi

theorem Retried.crash (h : Retried reqs key txid φ l log) (i : ι) :
    Retried reqs key txid (Function.update φ i none) l log :=
  ⟨fun j ph hj => h.decoded j ph (crash_cases hj), fun j ph hj => h.fresh j ph (crash_cases hj),
    h.row, fun j s hk hj => h.mark j s hk (crash_cases hj),
    fun j s status hk hj => h.answer j s status hk (crash_cases hj)⟩

variable {row : Row} {late : ι → Prop}

theorem Moves.lookup_signed {req : SubmitRequest} {signed : Bytes} {s : String}
    (hm : Moves sdk req signed .lookup c next) (hs : l.signatureOf req.idempotencyKey = some s) :
    c.isBroadcast = false ∧ ∃ r, next (l.execute c v).2 = .answered r := by
  have hl := hm.leads l v
  generalize next (l.execute c v).2 = ph' at hl
  cases hl with
  | fails => cases hm; exact ⟨rfl, _, rfl⟩
  | replays => exact ⟨rfl, _, rfl⟩
  | resumes _ hfound => simp [Ledger.signatureOf, hfound] at hs
  | named _ hfound => simp [Ledger.signatureOf, hfound] at hs
  | unnamed _ hfound => simp [Ledger.signatureOf, hfound] at hs

theorem Settled.move (hsigned : row.signature = some txid ∧ row.status = "submitted")
    (hretried : Retried reqs key txid φ l log) (h : Settled reqs key row late φ l log)
    (hi : φ i = some ph) (hm : Moves sdk (reqs i) (reqs i).payload ph c next) :
    Settled reqs key row late (Function.update φ i (some (next (l.execute c v).2)))
      (l.execute c v).1
      (log ++ [⟨i, c, v⟩]) := by
  obtain ⟨stamp, hrow⟩ := h.kept
  have hfound : l.signatureOf key = some txid := Ledger.signatureOf_eq_some.mpr ⟨_, hrow, hsigned.1⟩
  have hlate : late i → (reqs i).idempotencyKey = key →
      c.isBroadcast = false ∧ ∃ r, next (l.execute c v).2 = .answered r := by
    intro hl hk
    rcases h.idle i ph hl hk hi with rfl | ⟨r, rfl⟩
    · exact hm.lookup_signed (hk ▸ hfound)
    · exact absurd rfl (hm.not_answered r)
  refine ⟨?_, fun j ph' hl hk hj => ?_, fun e he hl hk => ?_⟩
  · rcases l.execute_row c v key with hkept | ⟨_, _, _, _, -, hnone, -⟩ | ⟨s, old, rfl, hold, hnew⟩
    · exact ⟨stamp, hkept.trans hrow⟩
    · rw [hrow] at hnone
      cases hnone
    · obtain ⟨hkey, rfl⟩ := hm.of_markSubmitted
      obtain rfl := hretried.mark i s hkey.symm hi
      rw [hrow] at hold
      cases hold
      refine ⟨v.now, hnew.trans ?_⟩
      rw [← hsigned.1, ← hsigned.2]
  · rcases update_cases hj with ⟨rfl, rfl⟩ | ⟨-, hj⟩
    · exact .inr (hlate hl hk).2
    · exact h.idle j ph' hl hk hj
  · rcases List.mem_append.mp he with he | he
    · exact h.quiet e he hl hk
    · obtain rfl := List.mem_singleton.mp he
      exact (hlate hl hk).1

theorem Settled.crash (h : Settled reqs key row late φ l log) (i : ι) :
    Settled reqs key row late (Function.update φ i none) l log :=
  ⟨h.kept, fun j ph hl hk hj => h.idle j ph hl hk (crash_cases hj), h.quiet⟩

end Step

section Runs

variable {ι : Type} [DecidableEq ι] {sdk : SolanaSdk} {wallets : AList fun _ : String => Nat}
  {reqs : ι → SubmitRequest} {key txid : String} {b : Bytes} {es es' : List (ι × Act Verdict)}

theorem retried_run (hsame : Carries reqs key b)
    (hnet : ∀ t ∈ (submits sdk (.empty wallets) reqs).turns Ledger.execute es, Answers b txid t) :
    ∃ φ, Standing sdk reqs φ ((submits sdk (.empty wallets) reqs).run Ledger.execute es) ∧
      Retried reqs key txid φ ((submits sdk (.empty wallets) reqs).run Ledger.execute es).world
        ((submits sdk (.empty wallets) reqs).run Ledger.execute es).log :=
  (standing_run (J := Retried reqs key txid) (Answers b txid)
    (fun _ _ _ _ _ _ _ _ hj hi hm hok => hj.move hi hm
      fun hk _ hc => hok (hj.carried hsame hi hm hk hc)) (fun _ _ _ i hj => hj.crash i)
    (submits_standing sdk _ reqs) (Retried.begin wallets) hnet).1

/-- Under one key, the same signed bytes can be submitted blindly. -/
theorem blindRetries_safe (hsame : Carries reqs key b)
    (hnet : ∀ t ∈ (submits sdk (.empty wallets) reqs).turns Ledger.execute (es ++ es'),
      Answers b txid t) :
    let p := (submits sdk (.empty wallets) reqs).run Ledger.execute es
    let p' := p.run Ledger.execute es'
    (∀ i r, (reqs i).idempotencyKey = key → p.answer i = some (.ok r) → r.signature = txid) ∧
      (∀ row, p.world.rows.lookup key = some row → row.signature = none ∨
        row.signature = some txid) ∧
      (∀ row, p.world.rows.lookup key = some row → row.signature ≠ none →
        ∃ updatedAt, p'.world.rows.lookup key = some { row with updatedAt := updatedAt }) ∧
      ∀ i, (reqs i).idempotencyKey = key → p.world.signatureOf key ≠ none →
      (∀ e ∈ p.log, e.thread ≠ i) →
        ∀ e ∈ p'.log, e.thread = i → e.call.isBroadcast = false := by
  intro p p'
  rw [Pool.turns_append] at hnet
  obtain ⟨φ, hst, hj⟩ := retried_run hsame fun t ht => hnet t (List.mem_append_left _ ht)
  have hsettled : ∀ row, p.world.rows.lookup key = some row → row.signature ≠ none →
      ∃ φ', Settled reqs key row (fun i => ∀ e ∈ p.log, e.thread ≠ i) φ' p'.world p'.log := by
    intro row hrow hne
    have hsigned := (hj.row row hrow).resolve_left hne
    have hstart : Settled reqs key row (fun i => ∀ e ∈ p.log, e.thread ≠ i) φ p.world p.log := by
      refine ⟨⟨row.updatedAt, hrow⟩, fun i ph hl _ hi => ?_, fun e he hl _ => absurd rfl (hl e he)⟩
      rw [hj.fresh i ph hi hl, SubmitRequest.begin]
      split
      · exact .inl rfl
      · exact .inr ⟨_, rfl⟩
    obtain ⟨φ', -, -, hend⟩ := (standing_run
      (J := fun φ l log => Retried reqs key txid φ l log ∧
        Settled reqs key row (fun i => ∀ e ∈ p.log, e.thread ≠ i) φ l log) (Answers b txid)
      (fun _ _ _ _ _ _ _ _ hj hi hm hok =>
        ⟨hj.1.move hi hm fun hk _ hc => hok (hj.1.carried hsame hi hm hk hc),
          hj.2.move hsigned hj.1 hi hm⟩)
      (fun _ _ _ i hj => ⟨hj.1.crash i, hj.2.crash i⟩) hst ⟨hj, hstart⟩
      fun t ht => hnet t (List.mem_append_right _ ht)).1
    exact ⟨φ', hend⟩
  refine ⟨fun i r hk hr => ?_, fun row hrow => ?_, fun row hrow hne => ?_,
    fun i hk hs hl e he hi => ?_⟩
  · rw [Pool.answer_eq_some, hst i] at hr
    obtain ⟨ph, hph, hdone⟩ := Option.map_eq_some_iff.mp hr
    obtain rfl := Phase.eq_answered hdone
    exact hj.answer i r.signature r.status hk hph
  · exact (hj.row row hrow).imp_right And.left
  · obtain ⟨φ', hend⟩ := hsettled row hrow hne
    exact hend.kept
  · obtain ⟨s, hs⟩ := Option.ne_none_iff_exists'.mp hs
    obtain ⟨row, hrow, hsig⟩ := Ledger.signatureOf_eq_some.mp hs
    obtain ⟨φ', hend⟩ := hsettled row hrow (by rw [hsig]; exact Option.some_ne_none s)
    exact hend.quiet e he (hi ▸ hl) (hi ▸ hk)

end Runs

open Reference

/-- Two attempts that both look the key up before either is recorded; the first is
recorded at time zero. -/
def overlappingRetries : List (Bool × Act Verdict) :=
  [(false, .step served), (true, .step served), (false, .step served), (false, .step served),
    (true, .step served), (true, .step served), (false, .step (landed false)),
    (true, .step (landed false)), (false, .step served)]

def secondRecord : List (Bool × Act Verdict) := [(true, .step { served with now := 7 })]

theorem carries_submitTransfer :
    Carries (fun _ : Bool => submitTransfer false "send-1") "send-1" (signedTransfer false) := by
  intro i _ b' hb
  have hpayload := payload_submitTransfer false "send-1"
  rw [SubmitRequest.payload, hb, Option.getD_some] at hpayload
  exact hpayload

theorem answers_landed {es : List (Bool × Act Verdict)}
    (hes : ∀ e ∈ es, e.2 = .step served ∨ e.2 = .step { served with now := 7 } ∨
      e.2 = .step (landed false)) :
    ∀ t ∈ (submits sampleSdk (.empty ∅) fun _ : Bool => submitTransfer false "send-1").turns
      Ledger.execute es,
      Answers (signedTransfer false) (signatureText false) t := by
  intro t ht _ s hs
  rcases hes _ (Pool.turns_event ht) with he | he | he
  · rw [(Act.step.inj he)] at hs
    cases hs
  · rw [(Act.step.inj he)] at hs
    cases hs
  · rw [(Act.step.inj he)] at hs
    exact (Except.ok.inj hs).symm

theorem overlapping_events : ∀ e ∈ overlappingRetries ++ secondRecord,
    e.2 = .step served ∨ e.2 = .step { served with now := 7 } ∨ e.2 = .step (landed false) := by
  simp [overlappingRetries, secondRecord]

theorem blindRetries_safe_overlapping :
    Carries (fun _ : Bool => submitTransfer false "send-1") "send-1" (signedTransfer false) ∧
      ∀ row, ((submits sampleSdk (.empty ∅) fun _ : Bool => submitTransfer false "send-1").run
        Ledger.execute
          overlappingRetries).world.rows.lookup "send-1" = some row →
        row.signature = none ∨ row.signature = some (signatureText false) :=
  ⟨carries_submitTransfer,
    (blindRetries_safe carries_submitTransfer (answers_landed overlapping_events)).2.1⟩

def recordedRow (updatedAt : Nat) : Row :=
  ⟨none, some (signatureText false), "submitted", some destAddress,
    some "1000000", none, 0, updatedAt⟩

/-- The second attempt leaves its time in the row that the first has signed. -/
theorem secondRecord_touches_row :
    let p := (submits sampleSdk (.empty ∅) fun _ : Bool => submitTransfer false "send-1").run
      Ledger.execute
      overlappingRetries
    Carries (fun _ : Bool => submitTransfer false "send-1") "send-1" (signedTransfer false) ∧
      (∀ t ∈ (submits sampleSdk (.empty ∅) fun _ : Bool => submitTransfer false "send-1").turns
        Ledger.execute
        (overlappingRetries ++ secondRecord),
        Answers (signedTransfer false) (signatureText false) t) ∧
      ¬ ∀ row, p.world.rows.lookup "send-1" = some row → row.signature ≠ none →
        (p.run Ledger.execute secondRecord).world.rows.lookup "send-1" = some row := by
  refine ⟨carries_submitTransfer, answers_landed overlapping_events, fun h => ?_⟩
  have hfirst :
      ((submits sampleSdk (.empty ∅) fun _ : Bool => submitTransfer false "send-1").run
        Ledger.execute
      overlappingRetries).world.rows.lookup "send-1" = some (recordedRow 0) := by
    simp only [submits, run_submitTransfer]
    rfl
  have hsecond :
      ((submits sampleSdk (.empty ∅) fun _ : Bool => submitTransfer false "send-1").run
        Ledger.execute
      (overlappingRetries ++ secondRecord)).world.rows.lookup "send-1" = some (recordedRow 7) := by
    simp only [submits, run_submitTransfer]
    rfl
  have hkept := h _ hfirst (by simp [recordedRow])
  rw [← Pool.run_append, hsecond] at hkept
  exact absurd (congrArg Row.updatedAt (Option.some.inj hkept)) (by simp [recordedRow])

end Xend
