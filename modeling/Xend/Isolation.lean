import Xend.Provenance

/-! Whether the requests of one sender can tell that others submit too. The
kept requests are one sender's; the rest are everybody else's. -/

namespace Xend

open Framing Interaction

/-- The others use none of the kept keys and obtain none of the kept signatures. -/
structure Separate {ι : Type} (net : Bytes → RpcReply) (reqs : ι → SubmitRequest)
    (keep : ι → Bool) : Prop where
  keys : ∀ i j, keep i = true → keep j = false → (reqs i).idempotencyKey ≠ (reqs j).idempotencyKey
  signatures : ∀ i j s, keep i = true → keep j = false →
    broadcastResult (net (reqs i).payload) = .ok s →
    broadcastResult (net (reqs j).payload) ≠ .ok s

/-- The kept requests get the same answers and make the same calls as in the run
without the others, and an answered signature is that of a kept broadcast. -/
structure Isolated {ι : Type} (reqs : ι → SubmitRequest) (keep : ι → Bool)
    (full alone : SubmitPool ι) : Prop where
  answers : ∀ i, keep i = true → full.answer i = alone.answer i
  calls : alone.log = full.log.filter fun e => keep e.thread
  own : ∀ i s status, keep i = true → full.answer i = some (.ok ⟨s, status⟩) →
    ∃ e ∈ full.log, keep e.thread = true ∧ e.call = .broadcast (reqs e.thread).payload ∧
      broadcastResult e.verdict.reply = .ok s

/-- Two ledgers that agree wherever a kept request looks. -/
structure Alike {ι : Type} (reqs : ι → SubmitRequest) (keep : ι → Bool) (l l' : Ledger) : Prop where
  wallets : l.wallets = l'.wallets
  row : ∀ i, keep i = true →
    l.findByIdempotency (reqs i).idempotencyKey = l'.findByIdempotency (reqs i).idempotencyKey

section Steps

variable {ι : Type} {sdk : SolanaSdk} {reqs : ι → SubmitRequest} {keep : ι → Bool}
    {l l' : Ledger} {i : ι}
  {ph : Phase} {c : Call} {next : c.Reply → Phase} {v : Verdict}

theorem Moves.find_ne (hm : Moves sdk (reqs i) (reqs i).payload ph c next) {key : String}
    (hk : key ≠ (reqs i).idempotencyKey) :
    (l.execute c v).1.findByIdempotency key = l.findByIdempotency key := by
  rcases Ledger.execute_world (l := l) (c := c) (v := v) with h | h
  · rw [h]
  · rw [h]
    cases hm with
    | insert walletId => exact Ledger.insertPending_find_ne hk
    | mark signature =>
      simp only [Ledger.serve]
      cases hs : l.markSubmitted (reqs i).idempotencyKey signature v.now with
      | error e => rfl
      | ok l' =>
        rcases Ledger.markSubmitted_eq_ok hs with ⟨-, rfl⟩ | ⟨-, -, -, hne⟩
        · rfl
        · exact hne key hk
    | _ => rfl

theorem Moves.wallets (hm : Moves sdk (reqs i) (reqs i).payload ph c next) :
    (l.execute c v).1.wallets = l.wallets := by
  rcases Ledger.execute_world (l := l) (c := c) (v := v) with h | h
  · rw [h]
  · rw [h]
    cases hm with
    | insert walletId => exact Ledger.insertPending_wallets
    | mark signature =>
      simp only [Ledger.serve]
      cases hs : l.markSubmitted (reqs i).idempotencyKey signature v.now with
      | error e => rfl
      | ok l' => exact Ledger.markSubmitted_wallets hs
    | _ => rfl

theorem Alike.drop (h : Alike reqs keep l l')
    (hkeys : ∀ j, keep j = true → (reqs j).idempotencyKey ≠ (reqs i).idempotencyKey)
    (hm : Moves sdk (reqs i) (reqs i).payload ph c next) : Alike reqs keep (l.execute c v).1 l' :=
  ⟨hm.wallets.trans h.wallets, fun j hj => (hm.find_ne (hkeys j hj)).trans (h.row j hj)⟩

theorem Alike.mark (h : Alike reqs keep l l') {s : String}
    (ht : l.Taken (reqs i).idempotencyKey s ↔ l'.Taken (reqs i).idempotencyKey s)
    (hi : keep i = true) :
    (l.serve v (.markSubmitted (reqs i).idempotencyKey s)).2 =
      (l'.serve v (.markSubmitted (reqs i).idempotencyKey s)).2 := by
  have hrow := h.row i hi
  have hok : (∃ m, l.markSubmitted (reqs i).idempotencyKey s v.now = .ok m) ↔
      ∃ m, l'.markSubmitted (reqs i).idempotencyKey s v.now = .ok m := by
    rw [Ledger.markSubmitted_isOk, Ledger.markSubmitted_isOk, hrow, ht]
  simp only [Ledger.serve]
  cases hs : l.markSubmitted (reqs i).idempotencyKey s v.now with
  | ok m =>
    obtain ⟨m', hm'⟩ := hok.mp ⟨m, hs⟩
    rw [hm']
  | error e =>
    cases hs' : l'.markSubmitted (reqs i).idempotencyKey s v.now with
    | ok m' =>
      obtain ⟨m, hm⟩ := hok.mpr ⟨m', hs'⟩
      rw [hm] at hs
      cases hs
    | error e' => rw [Ledger.markSubmitted_eq_error hs, Ledger.markSubmitted_eq_error hs']

theorem Alike.serve (h : Alike reqs keep l l') (hi : keep i = true)
    (hm : Moves sdk (reqs i) (reqs i).payload ph c next)
    (ht : ∀ s, ph = .mark s →
      (l.Taken (reqs i).idempotencyKey s ↔ l'.Taken (reqs i).idempotencyKey s)) :
    (l.serve v c).2 = (l'.serve v c).2 ∧
      (l.serve v c).1.findByIdempotency (reqs i).idempotencyKey =
        (l'.serve v c).1.findByIdempotency (reqs i).idempotencyKey := by
  have hrow := h.row i hi
  cases hm with
  | lookup => exact ⟨congrArg Except.ok hrow, hrow⟩
  | findWallet pubkey =>
    refine ⟨?_, hrow⟩
    simp only [Ledger.serve, Ledger.findIdByPubkey, h.wallets]
  | insert walletId =>
    refine ⟨rfl, ?_⟩
    simp only [Ledger.serve, Ledger.insertPending_find_self, hrow]
  | send => exact ⟨rfl, hrow⟩
  | mark s =>
    have hreply := h.mark (v := v) (ht s rfl) hi
    refine ⟨hreply, ?_⟩
    simp only [Ledger.serve] at hreply ⊢
    cases hs : l.markSubmitted (reqs i).idempotencyKey s v.now with
    | error e =>
      rw [hs] at hreply
      cases hs' : l'.markSubmitted (reqs i).idempotencyKey s v.now with
      | error e' => exact hrow
      | ok m' =>
        rw [hs'] at hreply
        cases hreply
    | ok m =>
      rw [hs] at hreply
      cases hs' : l'.markSubmitted (reqs i).idempotencyKey s v.now with
      | error e' =>
        rw [hs'] at hreply
        cases hreply
      | ok m' =>
        rcases Ledger.markSubmitted_eq_ok hs with ⟨hnone, rfl⟩ | ⟨⟨e, hsome⟩, -, hself, -⟩
        · rcases Ledger.markSubmitted_eq_ok hs' with ⟨-, rfl⟩ | ⟨⟨e', hsome'⟩, -⟩
          · exact hrow
          · rw [← hrow, hnone] at hsome'
            cases hsome'
        · rcases Ledger.markSubmitted_eq_ok hs' with ⟨hnone', -⟩ | ⟨-, -, hself', -⟩
          · rw [← hrow, hsome] at hnone'
            cases hnone'
          · exact hself.trans hself'.symm

theorem Alike.move (h : Alike reqs keep l l') (hi : keep i = true)
    (hm : Moves sdk (reqs i) (reqs i).payload ph c next)
    (ht : ∀ s, ph = .mark s →
      (l.Taken (reqs i).idempotencyKey s ↔ l'.Taken (reqs i).idempotencyKey s)) :
    (l.execute c v).2 = (l'.execute c v).2 ∧
    Alike reqs keep (l.execute c v).1 (l'.execute c v).1 := by
  have hserve := h.serve (v := v) hi hm ht
  have hself : (l.execute c v).2 = (l'.execute c v).2 ∧
      (l.execute c v).1.findByIdempotency (reqs i).idempotencyKey =
        (l'.execute c v).1.findByIdempotency (reqs i).idempotencyKey := by
    unfold Ledger.execute
    cases if c.isBroadcast then none else v.outage with
    | none => exact hserve
    | some o =>
      refine ⟨rfl, ?_⟩
      by_cases ha : o.applied = true
      · simp only [ha, if_true]
        exact hserve.2
      · simp only [ha]
        exact h.row i hi
  refine ⟨hself.1, ⟨?_, fun j hj => ?_⟩⟩
  · rw [hm.wallets, hm.wallets, h.wallets]
  · by_cases hk : (reqs j).idempotencyKey = (reqs i).idempotencyKey
    · rw [hk]
      exact hself.2
    · rw [hm.find_ne hk, hm.find_ne hk]
      exact h.row j hj

end Steps

section Runs

variable {ι : Type} [DecidableEq ι] {sdk : SolanaSdk} {net : Bytes → RpcReply}
    {reqs : ι → SubmitRequest}
  {keep : ι → Bool}

/-- The network answers a broadcast by its bytes alone. -/
def AnswersBy (net : Bytes → RpcReply) (log : List (SubmitEntry ι)) : Prop :=
  ∀ e ∈ log, ∀ b, e.call = .broadcast b → e.verdict.reply = net b

/-- The whole pool beside the pool of the kept requests alone. -/
structure Mirrors (sdk : SolanaSdk) (net : Bytes → RpcReply)
    (reqs : ι → SubmitRequest) (keep : ι → Bool)
    (φ φ' : ι → Option Phase) (p p' : SubmitPool ι) : Prop where
  standing : Standing sdk reqs φ p
  standing' : Standing sdk reqs φ' p'
  phase : ∀ i, keep i = true → φ i = φ' i
  sourced : Sourced reqs φ p.world p.log
  sourced' : Sourced reqs φ' p'.world p'.log
  alike : Alike reqs keep p.world p'.world
  log : p'.log = p.log.filter fun e => keep e.thread
  net : AnswersBy net p.log

variable {φ φ' : ι → Option Phase} {p p' : SubmitPool ι}

omit [DecidableEq ι] in
theorem Separate.obtained (hsep : Separate net reqs keep) {i : ι} (hi : keep i = true) {s : String}
    (ho : Obtained reqs p.log (reqs i).idempotencyKey s) :
    ∃ e ∈ p.log, keep e.thread = true ∧ e.call = .broadcast (reqs e.thread).payload ∧
      broadcastResult e.verdict.reply = .ok s := by
  obtain ⟨e, he, hk, hc, hs⟩ := ho
  refine ⟨e, he, ?_, hc, hs⟩
  by_contra hkeep
  exact hsep.keys i e.thread hi (by simpa using hkeep) hk.symm

omit [DecidableEq ι] in
theorem Mirrors.taken (h : Mirrors sdk net reqs keep φ φ' p p')
    (hsep : Separate net reqs keep) {i : ι}
    (hi : keep i = true) {s : String} (hm : φ i = some (.mark s)) :
    p.world.Taken (reqs i).idempotencyKey s ↔ p'.world.Taken (reqs i).idempotencyKey s := by
  have hrow : ∀ j, keep j = true →
      p.world.signatureOf (reqs j).idempotencyKey =
        p'.world.signatureOf (reqs j).idempotencyKey := by
    intro j hj
    rw [Ledger.signatureOf, Ledger.signatureOf, h.alike.row j hj]
  constructor
  · rintro ⟨k, hk, hs⟩
    obtain ⟨e, he, rfl, hc, hes⟩ := h.sourced.row k s hs
    refine ⟨_, hk, ?_⟩
    cases hkeep : keep e.thread with
    | true => exact (hrow _ hkeep).symm.trans hs
    | false =>
      obtain ⟨e', he', hkeep', hc', hes'⟩ := hsep.obtained hi (h.sourced.mark i s hm)
      rw [h.net e he _ hc] at hes
      rw [h.net e' he' _ hc'] at hes'
      exact absurd hes (hsep.signatures _ _ s hkeep' hkeep hes')
  · rintro ⟨k, hk, hs⟩
    obtain ⟨e, he, rfl, -⟩ := h.sourced'.row k s hs
    rw [h.log, List.mem_filter] at he
    exact ⟨_, hk, (hrow _ he.2).trans hs⟩

theorem Mirrors.crash (h : Mirrors sdk net reqs keep φ φ' p p') (i : ι) :
    Mirrors sdk net reqs keep (Function.update φ i none) (Function.update φ' i none)
      (p.crash i) (p'.crash i) where
  standing := h.standing.crash i
  standing' := h.standing'.crash i
  phase j hj := by rw [Function.update_apply, Function.update_apply, h.phase j hj]
  sourced := h.sourced.crash i
  sourced' := h.sourced'.crash i
  alike := h.alike
  log := h.log
  net := h.net

theorem Mirrors.crash_other (h : Mirrors sdk net reqs keep φ φ' p p') {i : ι}
    (hi : keep i = false) :
    Mirrors sdk net reqs keep (Function.update φ i none) φ' (p.crash i) p' where
  standing := h.standing.crash i
  standing' := h.standing'
  phase j hj := by
    rw [Function.update_of_ne (fun he => by rw [he, hi] at hj; cases hj)]
    exact h.phase j hj
  sourced := h.sourced.crash i
  sourced' := h.sourced'
  alike := h.alike
  log := h.log
  net := h.net

omit [DecidableEq ι] in
theorem AnswersBy.append {log : List (SubmitEntry ι)} (h : AnswersBy net log) {e : SubmitEntry ι}
    (he : ∀ b, e.call = .broadcast b → e.verdict.reply = net b) : AnswersBy net (log ++ [e]) := by
  intro e' he' b hb
  rcases List.mem_append.mp he' with hm | hm
  · exact h e' hm b hb
  · obtain rfl := List.mem_singleton.mp hm
    exact he b hb

theorem Mirrors.perform (h : Mirrors sdk net reqs keep φ φ' p p')
    (hsep : Separate net reqs keep) {i : ι}
    {ph : Phase} {c : Call} {next : c.Reply → Phase} {v : Verdict} (hi : keep i = true)
    (hph : φ i = some ph)
    (hm : Moves sdk (reqs i) (reqs i).payload ph c next)
    (hnet : ∀ b, c = .broadcast b → v.reply = net b) :
    let k := fun r => (next r).resume sdk (reqs i) (reqs i).payload
    Mirrors sdk net reqs keep (Function.update φ i (some (next (p.world.execute c v).2)))
      (Function.update φ' i (some (next (p'.world.execute c v).2)))
      (p.perform Ledger.execute i c k v) (p'.perform Ledger.execute i c k v) := by
  have hmove := h.alike.move (v := v) hi hm fun s hs => h.taken hsep hi (by rw [hph, hs])
  exact {
    standing := h.standing.perform rfl
    standing' := h.standing'.perform rfl
    phase := fun j hj => by rw [Function.update_apply, Function.update_apply, h.phase j hj, hmove.1]
    sourced := h.sourced.move hph hm
    sourced' := h.sourced'.move ((h.phase i hi).symm.trans hph) hm
    alike := hmove.2
    log := by simp [Pool.perform, h.log, hi]
    net := h.net.append hnet }

theorem Mirrors.perform_other (h : Mirrors sdk net reqs keep φ φ' p p')
    (hsep : Separate net reqs keep) {i : ι}
    {ph : Phase} {c : Call} {next : c.Reply → Phase} {v : Verdict} (hi : keep i = false)
    (hph : φ i = some ph)
    (hm : Moves sdk (reqs i) (reqs i).payload ph c next)
    (hnet : ∀ b, c = .broadcast b → v.reply = net b) :
    Mirrors sdk net reqs keep (Function.update φ i (some (next (p.world.execute c v).2))) φ'
      (p.perform Ledger.execute i c (fun r => (next r).resume sdk (reqs i) (reqs i).payload) v)
        p' where
  standing := h.standing.perform rfl
  standing' := h.standing'
  phase j hj := by
    rw [Function.update_of_ne (fun he => by rw [he, hi] at hj; cases hj)]
    exact h.phase j hj
  sourced := h.sourced.move hph hm
  sourced' := h.sourced'
  alike := h.alike.drop (fun j hj => hsep.keys j i hj hi) hm
  log := by simp [Pool.perform, h.log, hi]
  net := h.net.append hnet

/-- Requests whose keys and signatures nobody else has are isolated, however
their calls interleave with those of the others. -/
theorem isolated_of_separate (wallets : AList fun _ : String => Nat) (es : List (ι × Act Verdict))
    (hsep : Separate net reqs keep)
    (hnet : ∀ t ∈ (submits sdk (.empty wallets) reqs).turns Ledger.execute es, ∀ b,
      t.call = .broadcast b → t.verdict.reply = net b) :
    Isolated reqs keep ((submits sdk (.empty wallets) reqs).run Ledger.execute es)
      ((submits sdk (.empty wallets) reqs).run Ledger.execute (es.filter fun e => keep e.1)) := by
  have hst := submits_standing sdk (.empty wallets) reqs
  have hrun : ∃ φ φ', Mirrors sdk net reqs keep φ φ'
      ((submits sdk (.empty wallets) reqs).run Ledger.execute es)
      ((submits sdk (.empty wallets) reqs).run Ledger.execute (es.filter fun e => keep e.1)) :=
        Pool.run_filter
    (T := fun p p' => ∃ φ φ', Mirrors sdk net reqs keep φ φ' p p')
    (fun t => ∀ b, t.call = .broadcast b → t.verdict.reply = net b) ?_ ?_
    ⟨_, _, hst, hst, fun _ _ => rfl, .begin wallets, .begin wallets, ⟨rfl, fun _ _ => rfl⟩, rfl,
      fun e he => absurd he List.not_mem_nil⟩ hnet
  · obtain ⟨φ, φ', h⟩ := hrun
    refine ⟨fun i hi => ?_, h.log, fun i s status hi ha => ?_⟩
    · rw [Pool.answer, Pool.answer, h.standing i, h.standing' i, h.phase i hi]
    · obtain ⟨ph, hph, hdone⟩ := Option.map_eq_some_iff.mp
        ((h.standing i).symm.trans (Pool.answer_eq_some.mp ha))
      obtain rfl := Phase.eq_answered hdone
      exact hsep.obtained hi (h.sourced.answer i s status hph)
  · rintro p p' ⟨i, a⟩ hk hok ⟨φ, φ', h⟩
    have hthread : p.thread i = p'.thread i := by
      rw [h.standing i, h.standing' i, h.phase i hk]
    cases a with
    | crash => exact ⟨_, _, h.crash i⟩
    | step v =>
      by_cases hc : ∃ c k, p.thread i = some (.call c k)
      · obtain ⟨c, k, hc⟩ := hc
        obtain ⟨ph, hph, hr⟩ := h.standing.call hc
        obtain ⟨next, hm, rfl⟩ := Phase.resume_call hr
        rw [Pool.next_of_call v hc, Pool.next_of_call v (hthread ▸ hc)]
        rw [Pool.turn_of_call v hc] at hok
        exact ⟨_, _, h.perform hsep hk hph hm (hok _ List.mem_cons_self)⟩
      · have hidle : ∀ c k, p.thread i ≠ some (.call c k) := fun c k hck => hc ⟨c, k, hck⟩
        rw [Pool.next_of_idle v hidle, Pool.next_of_idle v (hthread ▸ hidle)]
        exact ⟨φ, φ', h⟩
  · rintro p p' e hk hok ⟨φ, φ', h⟩
    rcases Pool.next_cases Ledger.execute p e with ⟨hn, -⟩ | ⟨hn, -⟩ | ⟨c, k, v, hc, hn, ht⟩
    · rw [hn]
      exact ⟨φ, φ', h⟩
    · rw [hn]
      exact ⟨_, φ', h.crash_other hk⟩
    · obtain ⟨ph, hph, hr⟩ := h.standing.call hc
      obtain ⟨next, hm, rfl⟩ := Phase.resume_call hr
      rw [ht] at hok
      rw [hn]
      exact ⟨_, φ', h.perform_other hsep hk hph hm (hok _ List.mem_cons_self)⟩

end Runs

open Reference

def sampleNet (b : Bytes) : RpcReply :=
  .body (.obj
    [("result", .str (if b = signedReturn then returnSignatureText else signatureText false))])

theorem sampleNet_transfer :
    sampleNet (signedTransfer false) = .body (.obj [("result", .str (signatureText false))]) := by
  have hne : signedTransfer false ≠ signedReturn := by
    intro h
    simp only [signedTransfer, signedReturn, List.append_assoc] at h
    have hsize : (base58 (signatureText false)).length = (base58 returnSignatureText).length :=
      (signatureText_size false).trans returnSignatureText_size.symm
    have hsignature := (List.append_inj (List.append_cancel_left h) hsize).1
    exact absurd (signatureText_inj hsignature) (by decide)
  rw [sampleNet, if_neg hne]

theorem sampleNet_return :
    sampleNet signedReturn = .body (.obj [("result", .str returnSignatureText)]) := by
  rw [sampleNet, if_pos rfl]

/-- Five calls of one request, then five of the other; the node answers each by
its payload. -/
def oneAfterOther (reqs : Bool → SubmitRequest) : List (Bool × Act Verdict) :=
  [false, false, false, false, false, true, true, true, true, true].map fun i =>
    (i, .step ⟨none, 0, true, sampleNet (reqs i).payload⟩)

abbrev together (reqs : Bool → SubmitRequest) : SubmitPool Bool :=
  (submits sampleSdk (.empty ∅) reqs).run Ledger.execute (oneAfterOther reqs)

abbrev secondAlone (reqs : Bool → SubmitRequest) : SubmitPool Bool :=
  (submits sampleSdk (.empty ∅) reqs).run Ledger.execute
    ((oneAfterOther reqs).filter fun e => id e.1)

def twoSenders (key key' : String) : Bool → SubmitRequest
  | false => submitTransfer false key
  | true => submitReturn destAddress key'

/-- The second sender's transaction, posted by somebody else first. -/
def copied (key key' : String) : Bool → SubmitRequest
  | false => submitReturn senderAddress key
  | true => submitReturn destAddress key'

theorem answersBy_sampleNet (reqs : Bool → SubmitRequest) :
    ∀ t ∈ (submits sampleSdk (.empty ∅) reqs).turns Ledger.execute (oneAfterOther reqs), ∀ b,
      t.call = .broadcast b → t.verdict.reply = sampleNet b := by
  intro t ht b hc
  obtain ⟨rfl, -⟩ := broadcast_validated ht hc
  obtain ⟨i, -, hi⟩ := List.mem_map.mp (Pool.turns_event ht)
  simp only [Prod.mk.injEq, Act.step.injEq] at hi
  rw [← hi.2, ← hi.1]

theorem separate_twoSenders : Separate sampleNet (twoSenders "a" "b") id := by
  refine ⟨fun i j hi hj => ?_, fun i j s hi hj hs hs' => ?_⟩
  · obtain rfl : i = true := hi
    obtain rfl : j = false := hj
    decide
  · obtain rfl : i = true := hi
    obtain rfl : j = false := hj
    rw [twoSenders, payload_submitReturn, sampleNet_return] at hs
    rw [twoSenders, payload_submitTransfer, sampleNet_transfer] at hs'
    exact absurd (Except.ok.inj (hs.trans hs'.symm)) (by decide)

theorem twoSenders_isolated :
    Isolated (twoSenders "a" "b") id (together (twoSenders "a" "b"))
      (secondAlone (twoSenders "a" "b")) :=
  isolated_of_separate ∅ _ separate_twoSenders (answersBy_sampleNet _)

theorem twoSenders_answers :
    (together (twoSenders "a" "a")).answer true ≠
      (secondAlone (twoSenders "a" "a")).answer true := by
  have hrun : ∀ i, (submit sampleSdk (twoSenders "a" "a" i)).run =
      (lookUp lenientSdk (twoSenders "a" "a" i)
        (if i then signedReturn else signedTransfer false)).run := by
    rintro (_ | _)
    · exact run_submitTransfer false "a"
    · exact run_submitReturn destAddress "a"
  have hreply : ∀ i, sampleNet (twoSenders "a" "a" i).payload =
      .body (.obj [("result", .str (if i then returnSignatureText else signatureText false))]) := by
    rintro (_ | _)
    · rw [twoSenders, payload_submitTransfer, sampleNet_transfer]
      rfl
    · rw [twoSenders, payload_submitReturn, sampleNet_return]
      rfl
  simp only [together, secondAlone, oneAfterOther, submits, hrun, hreply]
  decide +kernel

theorem copied_answers :
    (together (copied "a" "b")).answer true ≠ (secondAlone (copied "a" "b")).answer true := by
  have hrun : ∀ i, (submit sampleSdk (copied "a" "b" i)).run =
      (lookUp lenientSdk (copied "a" "b" i) signedReturn).run := by
    rintro (_ | _) <;> exact run_submitReturn _ _
  have hreply : ∀ i, sampleNet (copied "a" "b" i).payload =
      .body (.obj [("result", .str returnSignatureText)]) := by
    rintro (_ | _) <;> rw [copied, payload_submitReturn, sampleNet_return]
  simp only [together, secondAlone, oneAfterOther, submits, hrun, hreply]
  decide +kernel

/-- Under a shared key the second sender is answered with the first one's
signature; a sender whose bytes were posted before gets an internal error. -/
theorem senders_interfere :
    ¬ Isolated (twoSenders "a" "a") id (together (twoSenders "a" "a"))
      (secondAlone (twoSenders "a" "a")) ∧
      ¬ Isolated (copied "a" "b") id (together (copied "a" "b")) (secondAlone (copied "a" "b")) :=
  ⟨fun h => twoSenders_answers (h.answers true rfl), fun h => copied_answers (h.answers true rfl)⟩

end Xend
