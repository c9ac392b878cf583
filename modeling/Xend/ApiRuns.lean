import Xend.SubmitRuns
import Xend.WalletEndpoints

/-! Runs of the whole API over one ledger: submissions, registrations and reads of
history, interleaved call by call. -/

namespace Xend

open Framing Interaction

abbrev ApiAnswer := Except AppError (SubmitResponse ⊕ WalletResponse)

abbrev ApiPool (ι κ : Type) := Pool (ι ⊕ κ) Call Call.Reply Ledger Verdict ApiAnswer

abbrev ApiTurn (ι κ : Type) := Turn (ι ⊕ κ) Call Call.Reply Ledger Verdict ApiAnswer

variable {ι κ : Type}

def submissions (log : List (Entry (ι ⊕ κ) Call Verdict)) : List (SubmitEntry ι) :=
  log.filterMap fun e => e.thread.getLeft?.map fun i => ⟨i, e.call, e.verdict⟩

def apiProgram (sdk : SolanaSdk) (formats : TextFormats) (reqs : ι → SubmitRequest)
    (others : κ → WalletRequest) :
    ι ⊕ κ → Prog Call Call.Reply ApiAnswer
  | .inl i => Except.map .inl <$> (submit sdk (reqs i)).run
  | .inr k => Except.map .inr <$> (formats.handle (others k)).run

def api (sdk : SolanaSdk) (formats : TextFormats) (l : Ledger) (reqs : ι → SubmitRequest)
    (others : κ → WalletRequest) :
    ApiPool ι κ :=
  Pool.start l (apiProgram sdk formats reqs others)

/-- Where a served call of the other two handlers leads. -/
inductive WalletLeads (l : Ledger) : WalletPhase → Call → WalletPhase → Prop
  | fails (ph : WalletPhase) (c : Call) (e : AppError) : WalletLeads l ph c (.answered (.error e))
  | registered (pubkey : String) (walletId : Nat) :
    WalletLeads l (.upsert pubkey) (.upsert pubkey) (.answered (.ok (.registered walletId pubkey)))
  | found {pubkey : String} {walletId : Nat} (limit : Nat) (before : Option Int)
    (hid : l.findIdByPubkey pubkey = some walletId) :
    WalletLeads l (.findWallet pubkey limit before) (.findIdByPubkey pubkey)
      (.list walletId limit before)
  | unknown {pubkey : String} (limit : Nat) (before : Option Int)
      (hid : l.findIdByPubkey pubkey = none) :
    WalletLeads l (.findWallet pubkey limit before) (.findIdByPubkey pubkey)
      (.answered (.ok (.transactions [])))
  | listed (walletId limit : Nat) (before : Option Int) :
    WalletLeads l (.list walletId limit before) (.listForWallet walletId limit before)
      (.answered (.ok (.transactions (l.listForWallet walletId limit before))))

theorem WalletMoves.not_broadcast {ph : WalletPhase} {c : Call} {next : c.Reply → WalletPhase}
    (hm : WalletMoves ph c next) : c.isBroadcast = false := by
  cases hm <;> rfl

theorem WalletMoves.fails {ph : WalletPhase} {c : Call} {next : c.Reply → WalletPhase}
    (hm : WalletMoves ph c next)
    (e : AppError) : next (.error e) = .answered (.error e) := by
  cases hm <;> rfl

theorem WalletMoves.leads {ph : WalletPhase} {c : Call} {next : c.Reply → WalletPhase}
    (hm : WalletMoves ph c next)
    (l : Ledger) (v : Verdict) : WalletLeads l ph c (next (l.execute c v).2) := by
  cases ho : v.outage with
  | some o =>
    rw [Ledger.execute_of_outage hm.not_broadcast ho, hm.fails]
    exact .fails ..
  | none =>
    rw [Ledger.execute_of_no_outage ho]
    cases hm with
    | upsert pubkey => exact .registered pubkey _
    | list walletId limit before => exact .listed walletId limit before
    | findWallet pubkey limit before =>
      simp only [Ledger.serve]
      cases hid : l.findIdByPubkey pubkey with
      | none => exact .unknown limit before hid
      | some walletId => exact .found limit before hid

/-- Every live handler stands at the phase that `φ` or `ψ` gives it. -/
structure ApiStanding (sdk : SolanaSdk) (reqs : ι → SubmitRequest) (φ : ι → Option Phase)
    (ψ : κ → Option WalletPhase)
    (p : ApiPool ι κ) : Prop where
  submits : ∀ i, p.thread (.inl i) =
    (φ i).map fun ph => Except.map .inl <$> ph.resume sdk (reqs i) (reqs i).payload
  others : ∀ k, p.thread (.inr k) = (ψ k).map fun ph => Except.map .inr <$> ph.resume

theorem map_eq_call {α β : Type} {f : α → β} {p : Prog Call Call.Reply α} {c : Call}
    {k : c.Reply → Prog Call Call.Reply β} (h : f <$> p = .call c k) :
    ∃ k', p = .call c k' ∧ k = fun r => f <$> k' r := by
  cases p with
  | done a => cases h
  | call c' k' =>
    cases h
    exact ⟨k', rfl, rfl⟩

theorem map_eq_done {α β : Type} {f : α → β} {p : Prog Call Call.Reply α} {b : β}
    (h : f <$> p = .done b) :
    ∃ a, p = .done a ∧ b = f a := by
  cases p with
  | done a =>
    cases h
    exact ⟨a, rfl, rfl⟩
  | call c' k' => cases h

theorem map_eq_done_ok {α β : Type} {f : α → β} (hf : Function.Injective f)
    {p : Prog Call Call.Reply (Except AppError α)} {a : α}
    (h : Except.map f <$> p = .done (.ok (f a))) :
    p = .done (.ok a) := by
  obtain ⟨r, rfl, hr⟩ := map_eq_done h
  cases r with
  | error e => cases hr
  | ok a' => rw [hf (Except.ok.inj hr)]

@[simp] theorem submissions_append (log log' : List (Entry (ι ⊕ κ) Call Verdict)) :
    submissions (log ++ log') = submissions log ++ submissions log' := List.filterMap_append

variable {sdk : SolanaSdk} {formats : TextFormats} {l : Ledger} {reqs : ι → SubmitRequest}
    {others : κ → WalletRequest}
  {φ : ι → Option Phase} {ψ : κ → Option WalletPhase} {p : ApiPool ι κ}

theorem api_of_decode {sdk' : SolanaSdk} {payloads : ι → Bytes}
    (h : ∀ i, Base64.decode (reqs i).signed = some (payloads i))
    (hvalid : ∀ i, sdk.validateSigned (payloads i) = sdk'.validateSigned (payloads i)) :
    api sdk formats l reqs others = Pool.start l (Sum.elim
      (fun i => Except.map .inl <$> (lookUp sdk' (reqs i) (payloads i)).run)
      fun k => Except.map .inr <$> (formats.handle (others k)).run) := by
  rw [api]
  congr 1
  funext x
  cases x with
  | inl i => rw [apiProgram, run_submit_of_decode (h i), lookUp_congr (hvalid i), Sum.elim_inl]
  | inr k => rfl

theorem api_standing (sdk : SolanaSdk) (formats : TextFormats) (l : Ledger)
    (reqs : ι → SubmitRequest)
    (others : κ → WalletRequest) :
    ApiStanding sdk reqs (fun i => some (reqs i).begin) (fun k => some ((others k).begin formats))
      (api sdk formats l reqs others) :=
  ⟨fun i => by simp only [api, Pool.start, apiProgram, run_submit, Option.map_some],
    fun k => by simp only [api, Pool.start, apiProgram, run_handle, Option.map_some]⟩

theorem ApiStanding.submitted (h : ApiStanding sdk reqs φ ψ p) {i : ι} {r : SubmitResponse}
    (hr : p.answer (.inl i) = some (.ok (.inl r))) : φ i = some (.answered (.ok r)) := by
  rw [Pool.answer_eq_some, h.submits i] at hr
  obtain ⟨ph, hph, hdone⟩ := Option.map_eq_some_iff.mp hr
  rw [hph, Phase.eq_answered (map_eq_done_ok Sum.inl_injective hdone)]

theorem ApiStanding.answered (h : ApiStanding sdk reqs φ ψ p) {k : κ} {r : WalletResponse}
    (hr : p.answer (.inr k) = some (.ok (.inr r))) : ψ k = some (.answered (.ok r)) := by
  rw [Pool.answer_eq_some, h.others k] at hr
  obtain ⟨ph, hph, hdone⟩ := Option.map_eq_some_iff.mp hr
  rw [hph, WalletPhase.eq_answered (map_eq_done_ok Sum.inr_injective hdone)]

variable [DecidableEq ι] [DecidableEq κ]

theorem ApiStanding.submit (h : ApiStanding sdk reqs φ ψ p) {i : ι} {c : Call}
    {k : c.Reply → Prog Call Call.Reply ApiAnswer} (hi : p.thread (.inl i) = some (.call c k))
    (v : Verdict) :
    ∃ ph next, φ i = some ph ∧ Moves sdk (reqs i) (reqs i).payload ph c next ∧
      ApiStanding sdk reqs (Function.update φ i (some (next (p.world.execute c v).2))) ψ
        (p.perform Ledger.execute (.inl i) c k v) := by
  rw [h.submits i] at hi
  obtain ⟨ph, hph, hcall⟩ := Option.map_eq_some_iff.mp hi
  obtain ⟨k', hk', rfl⟩ := map_eq_call hcall
  obtain ⟨next, hm, rfl⟩ := Phase.resume_call hk'
  refine ⟨ph, next, hph, hm, fun j => ?_, fun k => ?_⟩
  · rw [Pool.perform_thread, Function.update_apply]
    by_cases hj : j = i
    · subst hj
      simp
    · rw [if_neg (by simpa using hj), if_neg hj]
      exact h.submits j
  · rw [Pool.perform_thread, if_neg (by simp)]
    exact h.others k

theorem ApiStanding.other (h : ApiStanding sdk reqs φ ψ p) {i : κ} {c : Call}
    {k : c.Reply → Prog Call Call.Reply ApiAnswer} (hi : p.thread (.inr i) = some (.call c k))
    (v : Verdict) :
    ∃ ph next, ψ i = some ph ∧ WalletMoves ph c next ∧
      ApiStanding sdk reqs φ (Function.update ψ i (some (next (p.world.execute c v).2)))
        (p.perform Ledger.execute (.inr i) c k v) := by
  rw [h.others i] at hi
  obtain ⟨ph, hph, hcall⟩ := Option.map_eq_some_iff.mp hi
  obtain ⟨k', hk', rfl⟩ := map_eq_call hcall
  obtain ⟨next, hm, rfl⟩ := WalletPhase.resume_call hk'
  refine ⟨ph, next, hph, hm, fun j => ?_, fun k => ?_⟩
  · rw [Pool.perform_thread, if_neg (by simp)]
    exact h.submits j
  · rw [Pool.perform_thread, Function.update_apply]
    by_cases hk : k = i
    · subst hk
      simp
    · rw [if_neg (by simpa using hk), if_neg hk]
      exact h.others k

theorem ApiStanding.crash (h : ApiStanding sdk reqs φ ψ p) (x : ι ⊕ κ) :
    ∃ φ' ψ', ApiStanding sdk reqs φ' ψ' (p.crash x) ∧
      ((∃ i, φ' = Function.update φ i none) ∧ ψ' = ψ ∨ φ' = φ ∧
        ∃ k, ψ' = Function.update ψ k none) := by
  cases x with
  | inl i =>
    refine ⟨Function.update φ i none, ψ, ⟨fun j => ?_, fun k => ?_⟩, .inl ⟨⟨i, rfl⟩, rfl⟩⟩
    · rw [Pool.crash_thread, Function.update_apply]
      by_cases hj : j = i
      · subst hj
        simp
      · rw [if_neg (by simpa using hj), if_neg hj]
        exact h.submits j
    · rw [Pool.crash_thread, if_neg (by simp)]
      exact h.others k
  | inr i =>
    refine ⟨φ, Function.update ψ i none, ⟨fun j => ?_, fun k => ?_⟩, .inr ⟨rfl, i, rfl⟩⟩
    · rw [Pool.crash_thread, if_neg (by simp)]
      exact h.submits j
    · rw [Pool.crash_thread, Function.update_apply]
      by_cases hk : k = i
      · subst hk
        simp
      · rw [if_neg (by simpa using hk), if_neg hk]
        exact h.others k

theorem api_run
    {J : (ι → Option Phase) → (κ → Option WalletPhase) → Ledger → List (SubmitEntry ι) → Prop}
    (Ok : ApiTurn ι κ → Prop)
    (hsubmit : ∀ φ ψ (p : ApiPool ι κ) i ph c next v, J φ ψ p.world (submissions p.log) →
      φ i = some ph →
      Moves sdk (reqs i) (reqs i).payload ph c next → Ok ⟨p, .inl i, c, v⟩ →
      J (Function.update φ i (some (next (p.world.execute c v).2))) ψ (p.world.execute c v).1
        (submissions p.log ++ [⟨i, c, v⟩]))
    (hother : ∀ φ ψ (p : ApiPool ι κ) i ph c next v, J φ ψ p.world (submissions p.log) →
      ψ i = some ph →
      WalletMoves ph c next → Ok ⟨p, .inr i, c, v⟩ →
      J φ (Function.update ψ i (some (next (p.world.execute c v).2))) (p.world.execute c v).1
        (submissions p.log))
    (hcrash : ∀ φ ψ l log i, J φ ψ l log → J (Function.update φ i none) ψ l log)
    (hcrash' : ∀ φ ψ l log k, J φ ψ l log → J φ (Function.update ψ k none) l log)
    {es : List ((ι ⊕ κ) × Act Verdict)} (hst : ApiStanding sdk reqs φ ψ p)
    (hj : J φ ψ p.world (submissions p.log))
    (hok : ∀ t ∈ p.turns Ledger.execute es, Ok t) :
    ∃ φ ψ, ApiStanding sdk reqs φ ψ (p.run Ledger.execute es) ∧
      J φ ψ (p.run Ledger.execute es).world (submissions (p.run Ledger.execute es).log) := by
  refine (Pool.run_invariant (I := fun p => ∃ φ ψ, ApiStanding sdk reqs φ ψ p ∧
    J φ ψ p.world (submissions p.log))
    Ok ?_ ?_ ⟨φ, ψ, hst, hj⟩ hok).1
  · rintro p x c k v ⟨φ, ψ, hst, hj⟩ hx hv
    cases x with
    | inl i =>
      obtain ⟨ph, next, hph, hm, hst'⟩ := hst.submit hx v
      refine ⟨_, ψ, hst', ?_⟩
      have hlog : submissions (p.perform Ledger.execute (.inl i) c k v).log =
          submissions p.log ++ [⟨i, c, v⟩] := by
        rw [Pool.perform, submissions_append]
        rfl
      rw [hlog]
      exact hsubmit φ ψ p i ph c next v hj hph hm hv
    | inr i =>
      obtain ⟨ph, next, hph, hm, hst'⟩ := hst.other hx v
      refine ⟨φ, _, hst', ?_⟩
      have hlog : submissions (p.perform Ledger.execute (.inr i) c k v).log =
          submissions p.log := by
        rw [Pool.perform, submissions_append]
        exact List.append_nil _
      rw [hlog]
      exact hother φ ψ p i ph c next v hj hph hm hv
  · rintro p x ⟨φ, ψ, hst, hj⟩
    obtain ⟨φ', ψ', hst', ⟨⟨i, rfl⟩, rfl⟩ | ⟨rfl, k, rfl⟩⟩ := hst.crash x
    · exact ⟨_, _, hst', hcrash _ _ _ _ i hj⟩
    · exact ⟨_, _, hst', hcrash' _ _ _ _ k hj⟩

end Xend
