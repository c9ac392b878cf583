import Xend.SubmitRuns

/-! A submission whose transaction does not validate, and the one that comes after
it under the same key. -/

namespace Xend

open Framing Interaction

/-- The ledger a submission leaves when its calls meet the verdicts. -/
def Ledger.afterSubmit (sdk : SolanaSdk) (l : Ledger) (req : SubmitRequest)
    (vs : List Verdict) : Ledger :=
  ((submit sdk req).run.run Ledger.execute l vs).1

def Ledger.answerSubmit (sdk : SolanaSdk) (l : Ledger) (req : SubmitRequest) (vs : List Verdict) :
    Option (Except AppError SubmitResponse) := ((submit sdk req).run.run Ledger.execute l vs).2

def SubmitRequest.wallet (req : SubmitRequest) (l : Ledger) : Option Nat :=
  req.pubkey.bind l.findIdByPubkey

/-- The key has a row with the wallet, recipient, amount and mint of the request. -/
def Ledger.RecordsOwn (l : Ledger) (req : SubmitRequest) : Prop :=
  ∃ row, l.rows.lookup req.idempotencyKey = some row ∧ row.walletId = req.wallet l ∧
    row.toAddress = req.toAddress ∧ row.amount = req.amount ∧ row.mint = req.mint

def Verdict.applied (v : Verdict) : Bool := v.outage.all (·.applied)

/-- The verdict with which the database writes a claim that is the next call. -/
def writtenBy (vs : List Verdict) : Option Verdict := vs.head?.filter Verdict.applied

def behindRead (rest : List Verdict → Option Verdict) : List Verdict → Option Verdict
  | [] => none
  | read :: vs => if read.outage.isNone then rest vs else none

/-- The verdict with which the database writes the claim of a new key, behind the
lookups of the key and of the wallet. -/
def SubmitRequest.claimVerdict (req : SubmitRequest) : List Verdict → Option Verdict :=
  behindRead (if req.pubkey.isSome then behindRead writtenBy else writtenBy)

def Ledger.claimed (l : Ledger) (req : SubmitRequest) (v : Option Verdict) : Ledger :=
  v.elim l fun v =>
    l.insertPending (req.wallet l) req.idempotencyKey req.toAddress req.amount req.mint v.now

section Rejected

variable {sdk : SolanaSdk} {l : Ledger} {req : SubmitRequest} {signed : Bytes} {e : AppError}

theorem execute_insertPending (l : Ledger) (walletId : Option Nat) (key : String)
    (toAddress amount mint : Option String)
    (v : Verdict) : (l.execute (.insertPending walletId key toAddress amount mint) v).1 =
      if v.applied then l.insertPending walletId key toAddress amount mint v.now else l := by
  unfold Ledger.execute Verdict.applied
  cases ho : v.outage with
  | none => rfl
  | some o => cases ha : o.applied <;> simp [Call.isBroadcast, Ledger.serve, ha]

theorem claimed_of_known (h : req.idempotencyKey ∈ l.rows) (v : Option Verdict) :
    l.claimed req v = l := by
  cases v with
  | none => rfl
  | some v => exact if_pos h

theorem validated_of_rejected (hreject : sdk.validateSigned signed = .error e) :
    Phase.validated sdk signed = .answered (.error e) := by
  rw [Phase.validated, hreject]

theorem run_insert_of_rejected (hreject : sdk.validateSigned signed = .error e)
    {walletId : Option Nat}
    (hwallet : walletId = req.wallet l) (vs : List Verdict) :
    (((Phase.insert walletId).resume sdk req signed).run Ledger.execute l vs).1 =
      l.claimed req (writtenBy vs) := by
  rw [Phase.resume_insert]
  cases vs with
  | nil => rfl
  | cons v vs =>
    have hworld :
        (l.execute
          (.insertPending walletId req.idempotencyKey req.toAddress req.amount req.mint) v).1 =
        l.claimed req (writtenBy (v :: vs)) := by
      rw [execute_insertPending, hwallet, writtenBy, List.head?_cons]
      cases ha : v.applied <;> simp [Option.filter, ha, Ledger.claimed]
    rw [Prog.run, ← hworld]
    cases (l.execute
      (.insertPending walletId req.idempotencyKey req.toAddress req.amount req.mint) v).2 with
    | error e => rfl
    | ok _ =>
      rw [Phase.afterInsert, validated_of_rejected hreject]
      rfl

theorem known_of_find {existing : Existing}
    (h : l.findByIdempotency req.idempotencyKey = some existing) :
    req.idempotencyKey ∈ l.rows := by
  obtain ⟨row, hrow, -⟩ := Option.map_eq_some_iff.mp h
  exact AList.lookup_isSome.mp (Option.isSome_of_eq_some hrow)

theorem unknown_of_find (h : l.findByIdempotency req.idempotencyKey = none) :
    req.idempotencyKey ∉ l.rows :=
  AList.lookup_eq_none.mp (Option.map_eq_none_iff.mp h)

/-- A call that reads leads on when it is answered, and fails the submission otherwise. -/
theorem run_read {c : Call} {next : c.Reply → Phase} {reply : c.Reply}
    {rest : List Verdict → Option Verdict}
    (hc : c.isBroadcast = false) (hserve : ∀ v, l.serve v c = (l, reply))
    (hfail : ∀ e, next (.error e) = .answered (.error e))
    (hrest : ∀ vs, (((next reply).resume sdk req signed).run Ledger.execute l vs).1 =
      l.claimed req (rest vs))
    (vs : List Verdict) :
    ((Prog.call c fun r => (next r).resume sdk req signed).run Ledger.execute l vs).1 =
      l.claimed req (behindRead rest vs) := by
  cases vs with
  | nil => rfl
  | cons v vs =>
    rw [Prog.run, behindRead]
    cases ho : v.outage with
    | none =>
      rw [Ledger.execute_of_no_outage ho, hserve]
      exact hrest vs
    | some o =>
      have hworld : (l.execute c v).1 = l := by
        rcases Ledger.execute_world (l := l) (c := c) (v := v) with h | h
        · exact h
        · rw [h, hserve]
      rw [Ledger.execute_of_outage hc ho, hworld, hfail]
      rfl

theorem run_findWallet_of_rejected (hreject : sdk.validateSigned signed = .error e)
    {pubkey : String}
    (hpubkey : req.pubkey = some pubkey) (vs : List Verdict) :
    (((Phase.findWallet pubkey).resume sdk req signed).run Ledger.execute l vs).1 =
      l.claimed req (behindRead writtenBy vs) := by
  rw [Phase.resume_findWallet]
  apply run_read rfl (fun _ => rfl) (fun _ => rfl)
  apply run_insert_of_rejected hreject
  rw [SubmitRequest.wallet, hpubkey]
  rfl

/-- All that a rejected submission can do to the ledger is claim its key. -/
theorem afterSubmit_of_rejected (hdecode : Base64.decode req.signed = some signed)
    (hreject : sdk.validateSigned signed = .error e) (l : Ledger) (vs : List Verdict) :
    l.afterSubmit sdk req vs = l.claimed req (req.claimVerdict vs) := by
  rw [Ledger.afterSubmit, run_submit_of_decode hdecode]
  change ((Phase.lookup.resume sdk req signed).run Ledger.execute l vs).1 = _
  rw [Phase.resume_lookup]
  apply run_read rfl (fun _ => rfl) (fun _ => rfl)
  intro vs
  rcases hfind : l.findByIdempotency req.idempotencyKey with _ | ⟨_ | signature, status⟩
  · cases hpubkey : req.pubkey with
    | none =>
      simp only [Phase.afterLookup, hpubkey]
      apply run_insert_of_rejected hreject
      rw [SubmitRequest.wallet, hpubkey]
      rfl
    | some pubkey =>
      simp only [Phase.afterLookup, hpubkey]
      exact run_findWallet_of_rejected hreject hpubkey vs
  · rw [Phase.afterLookup, validated_of_rejected hreject, claimed_of_known (known_of_find hfind)]
    rfl
  · rw [Phase.afterLookup, claimed_of_known (known_of_find hfind)]
    rfl

theorem claimed_unchanged_iff {v : Option Verdict} :
    l.claimed req v = l ↔ req.idempotencyKey ∈ l.rows ∨ v = none := by
  constructor
  · intro h
    cases v with
    | none => exact .inr rfl
    | some v =>
      left
      by_contra hunknown
      have hrow : (l.claimed req (some v)).rows.lookup req.idempotencyKey ≠ none := by
        rw [Ledger.claimed, Option.elim_some, Ledger.insertPending,
          if_neg hunknown, AList.lookup_insert]
        exact Option.some_ne_none _
      rw [h] at hrow
      exact hrow (AList.lookup_eq_none.mpr hunknown)
  · rintro (hknown | rfl)
    · exact claimed_of_known hknown v
    · rfl

end Rejected

section Later

variable {sdk : SolanaSdk} {l l' : Ledger} {req : SubmitRequest} {signed : Bytes}

/-- A property of the phase and the ledger that every move keeps holds where a run
ends, which for an answered run is the phase of its answer. -/
theorem Phase.run_induction {J : Phase → Ledger → Prop}
    (hmove : ∀ ph c next l v, Moves sdk req signed ph c next → J ph l →
      J (next (l.execute c v).2) (l.execute c v).1)
    {ph : Phase} (h : J ph l) (vs : List Verdict) :
    ∃ ph', J ph' ((ph.resume sdk req signed).run Ledger.execute l vs).1 ∧
      ∀ r, ((ph.resume sdk req signed).run Ledger.execute l vs).2 = some r → ph' = .answered r := by
  induction vs generalizing ph l with
  | nil =>
    cases hr : ph.resume sdk req signed with
    | done r =>
      refine ⟨ph, h, fun r' hr' => ?_⟩
      cases hr'
      exact Phase.eq_answered hr
    | call c k => exact ⟨ph, h, fun r' hr' => by cases hr'⟩
  | cons v vs ih =>
    cases hr : ph.resume sdk req signed with
    | done r =>
      refine ⟨ph, h, fun r' hr' => ?_⟩
      cases hr'
      exact Phase.eq_answered hr
    | call c k =>
      obtain ⟨next, hm, rfl⟩ := Phase.resume_call hr
      rw [Prog.run]
      exact ih (hmove ph c next l v hm h)

theorem wallet_congr (h : l'.wallets = l.wallets) : req.wallet l' = req.wallet l := by
  unfold SubmitRequest.wallet Ledger.findIdByPubkey
  rw [h]

theorem recordsOwn_insertPending (hunknown : req.idempotencyKey ∉ l.rows) (now : Nat) :
    (l.insertPending (req.wallet l) req.idempotencyKey req.toAddress req.amount req.mint
      now).RecordsOwn req := by
  refine ⟨⟨req.wallet l, none, "pending", req.toAddress, req.amount, req.mint, now, now⟩, ?_, ?_,
    rfl, rfl, rfl⟩
  · rw [Ledger.insertPending, if_neg hunknown, AList.lookup_insert]
  · exact (wallet_congr Ledger.insertPending_wallets).symm

theorem recordsOwn_markSubmitted {signature : String} {now : Nat}
    (h : l.markSubmitted req.idempotencyKey signature now = .ok l') : l'.RecordsOwn req ↔
    l.RecordsOwn req := by
  have hwallet : req.wallet l' = req.wallet l := wallet_congr (Ledger.markSubmitted_wallets h)
  rcases Ledger.markSubmitted_row h with ⟨-, rfl⟩ | ⟨row, hrow, -, hself, -⟩
  · rfl
  · unfold Ledger.RecordsOwn
    rw [hself, hrow, hwallet]
    simp

/-- How far a submission has come from the ledger it started on. -/
def Since (l₀ : Ledger) (req : SubmitRequest) : Phase → Ledger → Prop
  | .lookup, l => l = l₀
  | .findWallet pubkey, l => l = l₀ ∧ req.idempotencyKey ∉ l₀.rows ∧ req.pubkey = some pubkey
  | .insert walletId, l => l = l₀ ∧ req.idempotencyKey ∉ l₀.rows ∧ walletId = req.wallet l₀
  | .answered (.error _), _ => True
  | _, l => l.RecordsOwn req ↔ (req.idempotencyKey ∈ l₀.rows → l₀.RecordsOwn req)

theorem recordsOwn_of_known (hknown : req.idempotencyKey ∈ l.rows) :
    l.RecordsOwn req ↔ (req.idempotencyKey ∈ l.rows → l.RecordsOwn req) :=
  ⟨fun h _ => h, fun h => h hknown⟩

theorem Since.move {l₀ : Ledger} {ph : Phase} {c : Call} {next : c.Reply → Phase} {v : Verdict}
    (hm : Moves sdk req signed ph c next) (h : Since l₀ req ph l) :
    Since l₀ req (next (l.execute c v).2) (l.execute c v).1 := by
  have hl := hm.leads l v
  generalize next (l.execute c v).2 = ph' at hl
  cases hl with
  | fails => trivial
  | replays ho hfound =>
    cases h
    rw [Ledger.execute_of_no_outage ho]
    exact recordsOwn_of_known (known_of_find hfound)
  | resumes ho hfound =>
    cases h
    rw [Ledger.execute_of_no_outage ho]
    exact recordsOwn_of_known (known_of_find hfound)
  | named ho hfound hpubkey =>
    cases h
    rw [Ledger.execute_of_no_outage ho]
    exact ⟨rfl, unknown_of_find hfound, hpubkey⟩
  | unnamed ho hfound hpubkey =>
    cases h
    rw [Ledger.execute_of_no_outage ho]
    refine ⟨rfl, unknown_of_find hfound, ?_⟩
    rw [SubmitRequest.wallet, hpubkey]
    rfl
  | found pubkey ho =>
    obtain ⟨rfl, hunknown, hpubkey⟩ := h
    rw [Ledger.execute_of_no_outage ho]
    refine ⟨rfl, hunknown, ?_⟩
    rw [SubmitRequest.wallet, hpubkey]
    rfl
  | claimed walletId ho =>
    obtain ⟨rfl, hunknown, rfl⟩ := h
    rw [Ledger.execute_of_no_outage ho]
    exact iff_of_true (recordsOwn_insertPending hunknown v.now) fun hknown => absurd hknown hunknown
  | sent =>
    rw [Ledger.execute_broadcast]
    exact h
  | marked ho hmark =>
    rw [Ledger.execute_of_no_outage ho]
    simp only [Ledger.serve, hmark]
    exact (recordsOwn_markSubmitted hmark).trans h

/-- An answered submission records its own data unless a row was there before it. -/
theorem recordsOwn_afterSubmit {vs : List Verdict} {resp : SubmitResponse}
    (h : l.answerSubmit sdk req vs = some (.ok resp)) :
    (l.afterSubmit sdk req vs).RecordsOwn req ↔
    (req.idempotencyKey ∈ l.rows → l.RecordsOwn req) := by
  unfold Ledger.answerSubmit at h
  unfold Ledger.afterSubmit
  rw [run_submit] at h ⊢
  have hbegin : Since l req req.begin l := by
    unfold SubmitRequest.begin
    split
    · rfl
    · trivial
  obtain ⟨ph, hsince, hanswer⟩ := Phase.run_induction (fun _ _ _ _ _ hm => Since.move hm) hbegin vs
  rw [hanswer _ h] at hsince
  exact hsince

end Later

/-- A rejected submission is traceless exactly if its key had a row or its claim
never reached the table; the next one then records its own data exactly if any
row it finds is its own. -/
theorem rejected_traceless_iff {sdk : SolanaSdk} {l : Ledger} {req : SubmitRequest}
    {signed : Bytes} {e : AppError}
    (hdecode : Base64.decode req.signed = some signed)
    (hreject : sdk.validateSigned signed = .error e)
    (vs : List Verdict) :
    (l.afterSubmit sdk req vs = l ↔ req.idempotencyKey ∈ l.rows ∨ req.claimVerdict vs = none) ∧
      ∀ later vs' resp, later.idempotencyKey = req.idempotencyKey →
        (l.afterSubmit sdk req vs).answerSubmit sdk later vs' = some (.ok resp) →
        (l.afterSubmit sdk req vs = l ∧
          ((l.afterSubmit sdk req vs).afterSubmit sdk later vs').RecordsOwn later ↔
          l.RecordsOwn later ∨ (req.idempotencyKey ∉ l.rows ∧ req.claimVerdict vs = none)) := by
  have hunchanged : l.afterSubmit sdk req vs = l ↔ req.idempotencyKey ∈ l.rows ∨
      req.claimVerdict vs = none := by
    rw [afterSubmit_of_rejected hdecode hreject l vs]
    exact claimed_unchanged_iff
  refine ⟨hunchanged, fun later vs' resp hkey hanswer => ?_⟩
  rw [recordsOwn_afterSubmit hanswer]
  constructor
  · rintro ⟨hsame, hown⟩
    rw [hsame] at hown
    by_cases hknown : req.idempotencyKey ∈ l.rows
    · exact .inl (hown (hkey ▸ hknown))
    · exact .inr ⟨hknown, (hunchanged.mp hsame).resolve_left hknown⟩
  · rintro (hown | ⟨hunknown, hclaim⟩)
    · have hknown : req.idempotencyKey ∈ l.rows := by
        obtain ⟨row, hrow, -⟩ := hown
        rw [hkey] at hrow
        exact AList.lookup_isSome.mp (Option.isSome_of_eq_some hrow)
      have hsame := hunchanged.mpr (.inl hknown)
      rw [hsame]
      exact ⟨rfl, fun _ => hown⟩
    · have hsame := hunchanged.mpr (.inr hclaim)
      rw [hsame, hkey]
      exact ⟨rfl, fun hknown => absurd hknown hunknown⟩

open Reference

/-- The transfer under the signature of another build of it. -/
def forgedTransfer : Bytes := compactU16 1 ++ base58 (signatureText true) ++ transferMessage false

/-- A first attempt, to the wrong address, with a transaction that does not verify. -/
def forgedSubmit : SubmitRequest :=
  { submitTransfer false "send-1" with
    signed := Base64.encode forgedTransfer, toAddress := some senderAddress }

theorem validate_forgedTransfer : sampleSdk.validateSigned forgedTransfer =
    .error (.badRequest "transaction signature verification failed") := by
  refine (validate_signed (compilable_transfer senderKey destKey 1000000)
    (signatureText_size true)).trans (if_neg ?_)
  have hsignature : base58 (signatureText true) ≠ base58 (signatureText false) := fun h =>
    absurd (signatureText_inj h) (by decide)
  have hreturn : base58 (signatureText true) ≠ base58 returnSignatureText := fun h =>
    absurd (signatureText_inj h) (by decide)
  have hmessage : transferMessage false ≠ transferMessage true := by
    intro h
    have hread := blockhash_read false
    rw [h, blockhash_read true] at hread
    exact absurd (base58_inj (Option.some.inj hread) (blockhash true).2) (by decide)
  change ¬ ((senderKey == senderKey && [false, true].any fun rebuilt =>
    base58 (signatureText true) == base58 (signatureText rebuilt) &&
      transferMessage false == transferMessage rebuilt) ||
      (senderKey == destKey && base58 (signatureText true) == base58 returnSignatureText &&
        transferMessage false == returnMessage)) = true
  simp [hsignature, hreturn, hmessage]

theorem decode_forgedSubmit : Base64.decode forgedSubmit.signed = some forgedTransfer :=
  Base64.decode_encode _

theorem rejected_traceless_iff_forged :
    let l := (Ledger.empty ∅).afterSubmit sampleSdk forgedSubmit [served, served]
    (l = .empty ∅ ↔ "send-1" ∈ (Ledger.empty ∅).rows ∨
      forgedSubmit.claimVerdict [served, served] = none) :=
  (rejected_traceless_iff decode_forgedSubmit validate_forgedTransfer [served, served]).1

theorem afterSubmit_submitTransfer (l : Ledger) (rebuilt : Bool) (key : String)
    (vs : List Verdict) :
    l.afterSubmit sampleSdk (submitTransfer rebuilt key) vs =
      ((lookUp lenientSdk (submitTransfer rebuilt key) (signedTransfer rebuilt)).run.run
        Ledger.execute l vs).1 := by
  rw [Ledger.afterSubmit, run_submitTransfer]

/-- The transfer that follows is sent, and stays on record under the address of the
attempt that was rejected. -/
theorem rejectedAttempt_on_record :
    let l := (Ledger.empty ∅).afterSubmit sampleSdk forgedSubmit [served, served, served]
    let answers := [served, landed false, served]
    l ≠ .empty ∅ ∧
      l.answerSubmit sampleSdk (submitTransfer false "send-1") answers =
        some (.ok ⟨signatureText false, "submitted"⟩) ∧
      ¬ (l.afterSubmit sampleSdk (submitTransfer false "send-1") answers).RecordsOwn
        (submitTransfer false "send-1") := by
  intro l answers
  have hclaimed : l = (Ledger.empty ∅).insertPending none "send-1" (some senderAddress)
      (some "1000000") none 0 :=
    afterSubmit_of_rejected decode_forgedSubmit validate_forgedTransfer (.empty ∅)
      [served, served, served]
  have hanswer : l.answerSubmit sampleSdk (submitTransfer false "send-1") answers =
      some (.ok ⟨signatureText false, "submitted"⟩) := by
    rw [hclaimed, Ledger.answerSubmit, run_submitTransfer]
    rfl
  have hclaim : l.rows.lookup "send-1" =
      some ⟨none, none, "pending", some senderAddress, some "1000000", none, 0, 0⟩ := by
    rw [hclaimed]
    rfl
  refine ⟨fun h => ?_, hanswer, fun h => ?_⟩
  · rw [h] at hclaim
    cases hclaim
  · have hknown : "send-1" ∈ l.rows := by
      rw [← AList.lookup_isSome, hclaim]
      rfl
    obtain ⟨row, hrow, -, hto, -⟩ := (recordsOwn_afterSubmit hanswer).mp h hknown
    have hrow' := hclaim.symm.trans hrow
    cases hrow'
    exact absurd (Option.some.inj hto) (by decide)

end Xend
