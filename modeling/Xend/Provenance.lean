import Xend.SubmitRuns

/-! Where the signatures in the ledger and in the answers come from. -/

namespace Xend

open Framing Interaction

/-- A request under the key broadcast its own payload, and the network answered
with the signature. -/
def Obtained {ι : Type} (reqs : ι → SubmitRequest) (log : List (SubmitEntry ι))
    (key s : String) : Prop :=
  ∃ e ∈ log, (reqs e.thread).idempotencyKey = key ∧ e.call = .broadcast (reqs e.thread).payload ∧
    broadcastResult e.verdict.reply = .ok s

/-- Every signature in play was obtained for its key. -/
structure Sourced {ι : Type} (reqs : ι → SubmitRequest) (φ : ι → Option Phase) (l : Ledger)
    (log : List (SubmitEntry ι)) : Prop where
  row : ∀ key s, l.signatureOf key = some s → Obtained reqs log key s
  mark : ∀ i s, φ i = some (.mark s) → Obtained reqs log (reqs i).idempotencyKey s
  answer : ∀ i s status, φ i = some (.answered (.ok ⟨s, status⟩)) →
    Obtained reqs log (reqs i).idempotencyKey s

section Moves

variable {sdk : SolanaSdk} {req : SubmitRequest} {signed : Bytes} {ph : Phase} {c : Call}
  {next : c.Reply → Phase} {l : Ledger} {v : Verdict}

theorem Moves.not_answered (hm : Moves sdk req signed ph c next)
    (r : Except AppError SubmitResponse) :
    ph ≠ .answered r := by
  cases hm <;> simp

theorem Moves.of_insertPending {walletId : Option Nat} {key : String}
    {toAddress amount mint : Option String}
    {next : (Call.insertPending walletId key toAddress amount mint).Reply → Phase}
    (hm : Moves sdk req signed ph (.insertPending walletId key toAddress amount mint) next) :
    ph = .insert walletId ∧ key = req.idempotencyKey ∧ toAddress = req.toAddress ∧
    amount = req.amount ∧
      mint = req.mint := by
  cases hm
  exact ⟨rfl, rfl, rfl, rfl, rfl⟩

theorem Moves.of_mark {s : String} (hm : Moves sdk req signed ph c next)
    (h : next (l.execute c v).2 = .mark s) : c = .broadcast signed ∧
    broadcastResult v.reply = .ok s := by
  have hl := hm.leads l v
  rw [h] at hl
  cases hl with
  | sent hreply => exact ⟨rfl, hreply⟩

theorem Moves.of_answer {s status : String} (hm : Moves sdk req signed ph c next)
    (h : next (l.execute c v).2 = .answered (.ok ⟨s, status⟩)) :
    l.signatureOf req.idempotencyKey = some s ∨ ph = .mark s := by
  have hl := hm.leads l v
  rw [h] at hl
  cases hl with
  | replays _ hfound =>
    left
    rw [Ledger.signatureOf, hfound]
    rfl
  | marked => exact .inr rfl

theorem Moves.of_markSubmitted {key s : String} {next : (Call.markSubmitted key s).Reply → Phase}
    (hm : Moves sdk req signed ph (.markSubmitted key s) next) : key = req.idempotencyKey ∧
    ph = .mark s := by
  cases hm
  exact ⟨rfl, rfl⟩

end Moves

section Runs

variable {ι : Type} {sdk : SolanaSdk} {l : Ledger} {reqs : ι → SubmitRequest}

def Opened (reqs : ι → SubmitRequest) (φ : ι → Option Phase) : Prop :=
  ∀ i ph, φ i = some ph → Base64.decode (reqs i).signed = none → ∃ r, ph = .answered r

theorem Opened.payload {φ : ι → Option Phase} {i : ι} {ph : Phase} {c : Call}
    {next : c.Reply → Phase}
    (h : Opened reqs φ) (hi : φ i = some ph) (hm : Moves sdk (reqs i) (reqs i).payload ph c next) :
    Base64.decode (reqs i).signed = some (reqs i).payload := by
  unfold SubmitRequest.payload
  cases hd : Base64.decode (reqs i).signed with
  | none =>
    obtain ⟨r, hr⟩ := h i ph hi hd
    exact absurd hr (hm.not_answered r)
  | some b => rfl

theorem Opened.begin (reqs : ι → SubmitRequest) : Opened reqs fun i => some (reqs i).begin := by
  intro i ph hi hd
  rw [Option.some.injEq, SubmitRequest.begin, hd] at hi
  exact ⟨_, hi.symm⟩

theorem Obtained.append {log : List (SubmitEntry ι)} {key s : String} (h : Obtained reqs log key s)
    (e : SubmitEntry ι) : Obtained reqs (log ++ [e]) key s := by
  obtain ⟨e', he', hh⟩ := h
  exact ⟨e', List.mem_append_left _ he', hh⟩

variable [DecidableEq ι]

theorem Opened.move {φ : ι → Option Phase} {i : ι} {ph ph' : Phase} {c : Call}
    {next : c.Reply → Phase}
    (h : Opened reqs φ) (hi : φ i = some ph) (hm : Moves sdk (reqs i) (reqs i).payload ph c next) :
    Opened reqs (Function.update φ i (some ph')) := by
  intro j ph'' hj hd
  rcases update_cases hj with ⟨rfl, -⟩ | ⟨-, hj⟩
  · rw [h.payload hi hm] at hd
    cases hd
  · exact h j ph'' hj hd

theorem Opened.crash {φ : ι → Option Phase} (h : Opened reqs φ) (i : ι) :
    Opened reqs (Function.update φ i none) :=
  fun j ph hj => h j ph (crash_cases hj)

theorem Sourced.move {φ : ι → Option Phase} {log : List (SubmitEntry ι)} {i : ι}
    {ph : Phase} {c : Call}
    {next : c.Reply → Phase} {v : Verdict} (h : Sourced reqs φ l log) (hi : φ i = some ph)
    (hm : Moves sdk (reqs i) (reqs i).payload ph c next) :
    Sourced reqs (Function.update φ i (some (next (l.execute c v).2))) (l.execute c v).1
      (log ++ [⟨i, c, v⟩]) := by
  refine ⟨fun key s hs => ?_, fun j s hj => ?_, fun j s status hj => ?_⟩
  · by_cases hc : ∃ key' s', c = .markSubmitted key' s'
    · obtain ⟨key', s', rfl⟩ := hc
      obtain ⟨rfl, rfl⟩ := hm.of_markSubmitted
      rcases Ledger.execute_markSubmitted_signatureOf hs with hold | ⟨rfl, rfl⟩
      · exact (h.row key s hold).append _
      · exact (h.mark i s hi).append _
    · rw [Ledger.execute_signatureOf fun key' s' he => hc ⟨key', s', he⟩] at hs
      exact (h.row key s hs).append _
  · rw [Function.update_apply] at hj
    split at hj
    · subst j
      obtain ⟨rfl, hs⟩ := hm.of_mark (Option.some.inj hj)
      exact ⟨_, List.mem_append_right _ List.mem_cons_self, rfl, rfl, hs⟩
    · exact (h.mark j s hj).append _
  · rw [Function.update_apply] at hj
    split at hj
    · subst j
      rcases hm.of_answer (Option.some.inj hj) with hs | rfl
      · exact (h.row _ s hs).append _
      · exact (h.mark i s hi).append _
    · exact (h.answer j s status hj).append _

theorem Sourced.crash {φ : ι → Option Phase} {log : List (SubmitEntry ι)}
    (h : Sourced reqs φ l log) (i : ι) :
    Sourced reqs (Function.update φ i none) l log := by
  refine ⟨h.row, fun j s hj => ?_, fun j s status hj => ?_⟩
  · rw [Function.update_apply] at hj
    split at hj
    · cases hj
    · exact h.mark j s hj
  · rw [Function.update_apply] at hj
    split at hj
    · cases hj
    · exact h.answer j s status hj

omit [DecidableEq ι] in
theorem Sourced.begin (wallets : AList fun _ : String => Nat) :
    Sourced reqs (fun i => some (reqs i).begin) (.empty wallets) [] := by
  refine ⟨fun key s hs => ?_, fun i s hi => ?_, fun i s status hi => ?_⟩
  · simp [Ledger.signatureOf, Ledger.findByIdempotency, Ledger.empty] at hs
  · simp only [SubmitRequest.begin, Option.some.injEq] at hi
    split at hi <;> cases hi
  · simp only [SubmitRequest.begin, Option.some.injEq] at hi
    split at hi <;> cases hi

end Runs

end Xend
