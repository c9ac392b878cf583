import Xend.HistoryPages
import Xend.SendTrace
import Xend.ServiceRuns

/-! What the wallet shows of its past: a payment that was sent is in the history that is
read afterwards, as it was asked for. -/

namespace Xend

open Framing Interaction

/-- Wallets, and the rows that are signed, are the same. -/
structure Ledger.Preserves (l l' : Ledger) : Prop where
  wallets : ∀ pubkey walletId, l.findIdByPubkey pubkey = some walletId →
    l'.findIdByPubkey pubkey = some walletId
  rows : ∀ key row, l.rows.lookup key = some row → row.signature ≠ none →
    l'.rows.lookup key = some row

theorem Ledger.Preserves.refl (l : Ledger) : l.Preserves l := ⟨fun _ _ h => h, fun _ _ h _ => h⟩

theorem Ledger.Preserves.trans {l l' l'' : Ledger} (h : l.Preserves l')
    (h' : l'.Preserves l'') : l.Preserves l'' :=
  ⟨fun pubkey walletId hid => h'.wallets _ _ (h.wallets pubkey walletId hid),
    fun key row hrow hsigned => h'.rows _ _ (h.rows key row hrow hsigned) hsigned⟩

theorem Ledger.OnlyRow.preserves {key : String} {l l' : Ledger} (h : l.OnlyRow key l')
    (hunsigned : l.signatureOf key = none) :
    l.Preserves l' := by
  constructor
  · intro pubkey walletId hid
    rwa [Ledger.findIdByPubkey, h.wallets]
  · intro k row hrow hsigned
    by_cases hk : k = key
    · subst hk
      obtain ⟨signature, hs⟩ := Option.ne_none_iff_exists'.mp hsigned
      rw [Ledger.signatureOf_eq_some.mpr ⟨row, hrow, hs⟩] at hunsigned
      cases hunsigned
    · rw [h.rows k hk, hrow]

section Service

variable {b : Backend} {l : Ledger}

/-- Where the key has a signature, a submission finds it and changes nothing. -/
theorem submit_signed (sdk : SolanaSdk) {req : SubmitRequest} {signature : String}
    (h : l.signatureOf req.idempotencyKey = some signature) (vs : List Verdict) :
    ((submit sdk req).run.run Ledger.execute l vs).1 = l ∧
      ∀ t ∈ (submit sdk req).run.steps Ledger.execute l vs,
      t.call = .findByIdempotency req.idempotencyKey := by
  have hsame : ∀ v, (l.execute (.findByIdempotency req.idempotencyKey) v).1 = l := by
    intro v
    rcases Ledger.execute_world (l := l) (c := .findByIdempotency req.idempotencyKey)
      (v := v) with hkept | hkept
    · exact hkept
    · exact hkept
  rw [run_submit, SubmitRequest.begin]
  split
  · rw [Phase.resume_lookup]
    cases vs with
    | nil => exact ⟨rfl, by simp [Prog.steps]⟩
    | cons v vs =>
      have hm : Moves sdk req req.payload .lookup (.findByIdempotency req.idempotencyKey)
          (Phase.afterLookup sdk req req.payload) := .lookup
      obtain ⟨-, r, hr⟩ := hm.lookup_signed h (v := v)
      rw [Prog.run, Prog.steps, hr, Phase.resume_answered]
      exact ⟨hsame v, by simp [Prog.steps]⟩
  · exact ⟨rfl, by simp [Prog.steps]⟩

theorem preserves_submit (sdk : SolanaSdk) (req : SubmitRequest) (l : Ledger) (vs : List Verdict) :
    l.Preserves ((submit sdk req).run.run Ledger.execute l vs).1 := by
  cases hsigned : l.signatureOf req.idempotencyKey with
  | none => exact (onlyRow_submit sdk req l vs).preserves hsigned
  | some signature =>
    rw [(submit_signed sdk hsigned vs).1]
    exact .refl l

/-- A call that claims no row and signs none. -/
def Call.Reads : Call → Prop
  | .insertPending .. => False
  | .markSubmitted .. => False
  | _ => True

theorem preserves_execute {c : Call} (hc : c.Reads) (l : Ledger) (v : Verdict) :
    l.Preserves (l.execute c v).1 := by
  refine ⟨fun pubkey walletId hid => Ledger.execute_wallet_kept hid, fun key row hrow _ => ?_⟩
  rcases l.execute_row c v key with hkept | ⟨_, _, _, _, rfl, -⟩ | ⟨_, _, rfl, -⟩
  · rw [hkept, hrow]
  · exact absurd hc id
  · exact absurd hc id

theorem reads_handle (formats : TextFormats) (req : WalletRequest) :
    (formats.handle req).run.Calls Call.Reads := by
  have hquery : ∀ {c : Call}, c.Reads → (query c).run.Calls Call.Reads :=
    fun hc => ⟨hc, fun _ => trivial⟩
  cases req with
  | register pubkey =>
    exact calls_bind trivial fun _ => calls_bind (hquery trivial) fun _ => trivial
  | history pubkey limit before =>
    refine calls_bind trivial fun _ => calls_bind trivial fun _ =>
      calls_bind (hquery trivial) fun walletId => ?_
    cases walletId with
    | none => trivial
    | some walletId => exact calls_bind (hquery trivial) fun _ => trivial

theorem preserves_handle (formats : TextFormats) (req : WalletRequest)
    (l : Ledger) (vs : List Verdict) :
    l.Preserves ((formats.handle req).run.run Ledger.execute l vs).1 := by
  have hspec : (formats.handle req).run.Spec Ledger.execute (fun _ => True) l.Preserves
      (fun _ => l.Preserves) l :=
    (reads_handle formats req).spec (fun l' c v hc h => h.trans (preserves_execute hc l' v))
      (fun _ h => h) (.refl l)
  exact (hspec.run vs fun _ _ => trivial).1

/-- Whatever a request is for, it leaves wallets and signed rows alone. -/
theorem preserves_handler (b : Backend) (up : Upstream) (asked : ApiRequest)
    (l : Ledger) (vs : List Verdict) :
    l.Preserves ((asked.handler b up).run.run Ledger.execute l vs).1 := by
  cases asked with
  | register pubkey label =>
    simp only [ApiRequest.handler, ExceptT.run_map, Prog.run_map]
    exact preserves_handle b.web.toTextFormats (.register pubkey) l vs
  | history pubkey limit before =>
    simp only [ApiRequest.handler, ExceptT.run_map, Prog.run_map]
    exact preserves_handle b.web.toTextFormats (.history pubkey limit before) l vs
  | submit req =>
    simp only [ApiRequest.handler, ExceptT.run_map, Prog.run_map]
    exact preserves_submit b.adapter.sdk req l vs
  | balance pubkey mint => exact .refl l
  | build req => exact .refl l
  | status signature => exact .refl l
  | resolve name => exact .refl l

theorem preserves_serveAll (b : Backend) (s : ServerState) (as : List Arrived) :
    s.ledger.Preserves (b.serveAll s as).1.ledger := by
  rw [serveAll_ledger]
  generalize b.handlerCalls s.windows as = calls
  generalize s.ledger = l
  induction calls generalizing l with
  | nil => exact .refl l
  | cons c rest ih =>
    exact (preserves_handler b c.arrived.upstream c.asked l c.arrived.verdicts).trans (ih _)

end Service

namespace Sdk

open BackendClient

/-- What the wallet makes of a record of the backend. -/
def TxRecord.of (r : Record) (chain : Chain) (createdAt : Int) : TxRecord :=
  ⟨r.signature, r.status, r.toAddress.getD "", (bigIntTryParse (r.amount.getD "0")).getD 0,
    r.mint.elim (.native chain) fun mint => ⟨chain, some mint, 0, none⟩, createdAt⟩

section Deployed

variable {b : Backend} {apiKey : Option String} {kit : Kit} {s s' : Deployment}
    {vs : List Circumstance}

theorem Deployment.preserves_met (b : Backend) (s : Deployment) (v : Circumstance) :
    s.server.ledger.Preserves (s.met b v).ledger := preserves_serveAll b s.server v.others

theorem Deployment.preserves_execute (b : Backend) (apiKey : Option String) (s : Deployment)
    (c : Call) (v : Circumstance) :
    s.server.ledger.Preserves (s.execute b apiKey c v).1.server.ledger := by
  cases c with
  | http request =>
    change s.server.ledger.Preserves (s.exchange b apiKey v request).1.ledger
    rw [Deployment.exchange]
    split
    · exact (s.preserves_met b v).trans
        (preserves_serveAll b (s.met b v) [v.arrived apiKey request])
    · exact s.preserves_met b v
  | _ => exact .refl _

theorem preserves_step {s : Deployment} (t : DeployedStep)
    (h : s.server.ledger.Preserves t.before.server.ledger) :
    s.server.ledger.Preserves (t.before.execute b apiKey t.call t.verdict).1.server.ledger :=
  h.trans (t.before.preserves_execute b apiKey t.call t.verdict)

/-- Whatever the app does. -/
theorem preserves_run {α : Type} (b : Backend) (apiKey : Option String) (x : Dart α)
    (s : Deployment) (vs : List Circumstance) :
    s.server.ledger.Preserves (x.run.run (Deployment.execute b apiKey) s vs).1.server.ledger :=
  Prog.run_preserves (J := fun d : Deployment => s.server.ledger.Preserves d.server.ledger)
    (fun t (_ : True) h => preserves_step t h) x.run (.refl _) vs fun _ _ => trivial

namespace XendWallet

/-- A record of the page and what the wallet shows of it. -/
def Shows (parseDateTime : String → Option Int) (w : Web) (chain : Chain) (r : Record)
    (record : TxRecord) : Prop :=
  ∃ createdAt, parseDateTime (w.toRfc3339 r.createdAt) = some createdAt ∧
    record = .of r chain createdAt

/-- The payment as a history shows it. -/
def Intent.shown (intent : Intent) (recipient handle : String) (createdAt : Int) : TxRecord :=
  ⟨handle, "submitted", recipient, intent.amount,
    intent.mint.elim (.native intent.wallet.chain) fun mint =>
      ⟨intent.wallet.chain, some mint, 0, none⟩, createdAt⟩

/-- The record of a payment. -/
def sent (intent : Intent) (recipient handle : String) (createdAt : Nat) : Record :=
  ⟨handle, "submitted", some recipient, some (toString intent.amount), intent.mint, createdAt⟩

end XendWallet

end Deployed

namespace XendWallet

section Sample

open Reference

end Sample

end XendWallet

end Sdk

end Xend
