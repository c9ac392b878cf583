import Xend.LedgerTruth

/-! What a ledger keeps over any run of the API: wallets and rows stay, what was claimed
stays claimed, and the rows belong to wallets. -/

namespace Xend

open Framing Interaction

/-- What can become of a row: it may be signed, or signed again. -/
structure Row.Evolves (row row' : Row) : Prop where
  walletId : row'.walletId = row.walletId
  toAddress : row'.toAddress = row.toAddress
  amount : row'.amount = row.amount
  mint : row'.mint = row.mint
  createdAt : row'.createdAt = row.createdAt
  signed : row.signature ≠ none → row'.signature ≠ none

/-- Its status says whether it is signed. -/
def Row.Consistent (row : Row) : Prop :=
  row.signature = none ∧ row.status = "pending" ∨ row.signature ≠ none ∧ row.status = "submitted"

namespace Ledger

/-- `l'` is a later state than `l`. -/
structure Extends (l l' : Ledger) : Prop where
  wallets : ∀ pubkey walletId, l.findIdByPubkey pubkey = some walletId →
    l'.findIdByPubkey pubkey = some walletId
  rows : ∀ key row, l.rows.lookup key = some row → ∃ row', l'.rows.lookup key = some row' ∧
    row.Evolves row'

def HasWallet (l : Ledger) (walletId : Nat) : Prop :=
  ∃ pubkey, l.findIdByPubkey pubkey = some walletId

structure WellFormed (l : Ledger) : Prop where
  distinct : ∀ pubkey pubkey' walletId, l.findIdByPubkey pubkey = some walletId →
    l.findIdByPubkey pubkey' = some walletId → pubkey = pubkey'
  owned : ∀ key row walletId, l.rows.lookup key = some row → row.walletId = some walletId →
    l.HasWallet walletId
  consistent : ∀ key row, l.rows.lookup key = some row → row.Consistent

end Ledger

theorem Row.Evolves.refl (row : Row) : row.Evolves row := ⟨rfl, rfl, rfl, rfl, rfl, id⟩

theorem Row.Evolves.trans {row row' row'' : Row} (h : row.Evolves row') (h' : row'.Evolves row'') :
    row.Evolves row'' :=
  ⟨h'.walletId.trans h.walletId, h'.toAddress.trans h.toAddress, h'.amount.trans h.amount,
    h'.mint.trans h.mint, h'.createdAt.trans h.createdAt, fun hs => h'.signed (h.signed hs)⟩

namespace Ledger

variable {l l' l'' : Ledger} {c : Call} {v : Verdict}

theorem Extends.refl (l : Ledger) : l.Extends l :=
  ⟨fun _ _ h => h, fun _ row h => ⟨row, h, .refl row⟩⟩

theorem Extends.trans (h : l.Extends l') (h' : l'.Extends l'') : l.Extends l'' := by
  refine ⟨fun pubkey walletId hid => h'.wallets _ _ (h.wallets _ _ hid), fun key row hrow => ?_⟩
  obtain ⟨row', hrow', he⟩ := h.rows key row hrow
  obtain ⟨row'', hrow'', he'⟩ := h'.rows key row' hrow'
  exact ⟨row'', hrow'', he.trans he'⟩

/-- Whatever a call does, it takes nothing away. -/
theorem extends_execute (l : Ledger) (c : Call) (v : Verdict) : l.Extends (l.execute c v).1 := by
  refine ⟨fun pubkey walletId hid => execute_wallet_kept hid, fun key row hrow => ?_⟩
  rcases l.execute_row c v key with hkept | ⟨_, _, _, _, -, hnone, -⟩ | ⟨signature,
    row', -, hrow', hnew⟩
  · exact ⟨row, hkept.trans hrow, .refl row⟩
  · rw [hnone] at hrow
    cases hrow
  · obtain rfl : row = row' := Option.some.inj (hrow.symm.trans hrow')
    exact ⟨_, hnew, rfl, rfl, rfl, rfl, rfl, fun _ => Option.some_ne_none signature⟩

theorem HasWallet.mono {walletId : Nat} (h : l.HasWallet walletId) (hext : l.Extends l') :
    l'.HasWallet walletId := by
  obtain ⟨pubkey, hid⟩ := h
  exact ⟨pubkey, hext.wallets pubkey walletId hid⟩

/-- A call keeps a ledger well formed; one that claims a row does so for a wallet. -/
theorem WellFormed.execute (h : l.WellFormed)
    (hclaim : ∀ walletId key toAddress amount mint, c =
      .insertPending (some walletId) key toAddress amount mint →
      l.HasWallet walletId) : (l.execute c v).1.WellFormed := by
  have hext := l.extends_execute c v
  have hnew : ∀ {pubkey walletId}, (l.execute c v).1.findIdByPubkey pubkey = some walletId →
      l.findIdByPubkey pubkey = some walletId ∨
        c = .upsert pubkey ∧ walletId = freshId l.wallets := by
    intro pubkey walletId hid
    rcases l.execute_wallet c v pubkey with hkept | ⟨hc, -, hfresh⟩
    · exact .inl (hkept ▸ hid)
    · exact .inr ⟨hc, Option.some.inj (hid.symm.trans hfresh)⟩
  have hfree : ∀ {pubkey}, l.findIdByPubkey pubkey ≠ some (freshId l.wallets) :=
    fun hid => absurd (lt_freshId hid) (lt_irrefl _)
  constructor
  · intro pubkey pubkey' walletId hid hid'
    rcases hnew hid with hold | ⟨hc, hwalletId⟩
    · rcases hnew hid' with hold' | ⟨-, hwalletId'⟩
      · exact h.distinct pubkey pubkey' walletId hold hold'
      · subst hwalletId'
        exact absurd hold hfree
    · rcases hnew hid' with hold' | ⟨hc', -⟩
      · subst hwalletId
        exact absurd hold' hfree
      · exact Call.upsert.inj (hc.symm.trans hc')
  · intro key row walletId hrow howner
    rcases l.execute_row c v key with hkept | ⟨_, _, _, _, hc, -, hclaimed⟩ | ⟨_,
      row', -, hrow', hsigned⟩
    · exact (h.owned key row walletId (hkept.symm.trans hrow) howner).mono hext
    · obtain rfl := Option.some.inj (hclaimed.symm.trans hrow)
      dsimp only at howner
      subst howner
      exact (hclaim _ _ _ _ _ hc).mono hext
    · obtain rfl := Option.some.inj (hsigned.symm.trans hrow)
      exact (h.owned key row' walletId hrow' howner).mono hext
  · intro key row hrow
    rcases l.execute_row c v key with hkept | ⟨_, _, _, _, -, -,
      hclaimed⟩ | ⟨signature, _, -, -, hsigned⟩
    · exact h.consistent key row (hkept.symm.trans hrow)
    · obtain rfl := Option.some.inj (hclaimed.symm.trans hrow)
      exact .inl ⟨rfl, rfl⟩
    · obtain rfl := Option.some.inj (hsigned.symm.trans hrow)
      exact .inr ⟨Option.some_ne_none signature, rfl⟩

theorem WellFormed.empty : (Ledger.empty ∅).WellFormed := by
  have hwallet : ∀ {pubkey : String} {walletId : Nat},
      (Ledger.empty ∅).findIdByPubkey pubkey ≠ some walletId := by
    intro pubkey walletId hid
    cases hid
  have hrow : ∀ {key : String} {row : Row}, (Ledger.empty ∅).rows.lookup key ≠ some row := by
    intro key row h
    cases h
  exact ⟨fun _ _ _ h => absurd h hwallet, fun _ _ _ h => absurd h hrow, fun _ _ h => absurd h hrow⟩

end Ledger

section Runs

variable {ι κ : Type} [DecidableEq ι] [DecidableEq κ] {sdk : SolanaSdk} {formats : TextFormats}
    {reqs : ι → SubmitRequest}
  {others : κ → WalletRequest}

/-- A submission that is about to claim a row for a wallet has found the wallet. -/
def Finding (φ : ι → Option Phase) (l : Ledger) : Prop :=
  ∀ i walletId, φ i = some (.insert (some walletId)) → l.HasWallet walletId

theorem Finding.move {φ : ι → Option Phase} {l : Ledger} {i : ι} {req : SubmitRequest}
    {signed : Bytes} {ph : Phase} {c : Call}
    {next : c.Reply → Phase} {v : Verdict} (h : Finding φ l) (hm : Moves sdk req signed ph c next) :
    Finding (Function.update φ i (some (next (l.execute c v).2))) (l.execute c v).1 := by
  intro j walletId hj
  rcases update_cases hj with ⟨-, hnext⟩ | ⟨-, hold⟩
  · rcases hm.of_insert hnext.symm with ⟨hnone, -⟩ | ⟨pubkey, -, -, hid⟩
    · cases hnone
    · exact Ledger.HasWallet.mono ⟨pubkey, hid⟩ (l.extends_execute c v)
  · exact (h j walletId hold).mono (l.extends_execute c v)

theorem Finding.crash {φ : ι → Option Phase} {l : Ledger} (h : Finding φ l) (i : ι) :
    Finding (Function.update φ i none) l := by
  intro j walletId hj
  exact h j walletId (crash_cases hj)

theorem Moves.claims {req : SubmitRequest} {signed : Bytes} {ph : Phase} {c : Call}
    {next : c.Reply → Phase}
    (hm : Moves sdk req signed ph c next) {walletId : Option Nat} {key : String}
    {toAddress amount mint : Option String}
    (hc : c = .insertPending walletId key toAddress amount mint) : ph = .insert walletId := by
  cases hm with
  | insert walletId' => rw [(Call.insertPending.inj hc).1]
  | _ => cases hc

/-- The submissions and reads that are under way find the ledger well formed. -/
structure Kept (φ : ι → Option Phase) (l : Ledger) : Prop where
  wellFormed : l.WellFormed
  finding : Finding φ l

omit [DecidableEq ι] in
theorem Kept.other {φ : ι → Option Phase} {l : Ledger} {ph : WalletPhase} {c : Call}
    {next : c.Reply → WalletPhase}
    {v : Verdict} (h : Kept φ l) (hm : WalletMoves ph c next) : Kept φ (l.execute c v).1 := by
  refine ⟨h.wellFormed.execute fun walletId key toAddress amount mint hc => ?_,
    fun i walletId hi => ?_⟩
  · subst hc
    cases hm
  · exact (h.finding i walletId hi).mono (l.extends_execute c v)

theorem Kept.submit {φ : ι → Option Phase} {l : Ledger} {i : ι} {req : SubmitRequest}
    {signed : Bytes} {ph : Phase} {c : Call}
    {next : c.Reply → Phase} {v : Verdict} (h : Kept φ l) (hi : φ i = some ph)
    (hm : Moves sdk req signed ph c next) :
    Kept (Function.update φ i (some (next (l.execute c v).2))) (l.execute c v).1 := by
  refine ⟨h.wellFormed.execute fun walletId key toAddress amount mint hc => ?_, h.finding.move hm⟩
  exact h.finding i walletId (hi.trans (congrArg some (hm.claims hc)))

theorem extends_run {p : ApiPool ι κ} (es : List ((ι ⊕ κ) × Act Verdict)) :
    p.world.Extends (p.run Ledger.execute es).world := by
  refine (Pool.run_invariant (I := fun q => p.world.Extends q.world) (fun _ => True) ?_ ?_ (.refl _)
    fun _ _ => trivial).1
  · intro q x c k v h _ _
    exact h.trans (q.world.extends_execute c v)
  · intro q x h
    exact h

/-- From any well-formed ledger, however the calls of any number of handlers interleave,
fail or are cut off: the ledger stays well formed and only ever extends. -/
theorem ledger_lifecycle {l : Ledger} (hl : l.WellFormed) (sdk : SolanaSdk) (formats : TextFormats)
    (reqs : ι → SubmitRequest)
    (others : κ → WalletRequest) (es es' : List ((ι ⊕ κ) × Act Verdict)) :
    let p := (api sdk formats l reqs others).run Ledger.execute es
    p.world.WellFormed ∧ l.Extends p.world ∧ p.world.Extends (p.run Ledger.execute es').world := by
  have hfresh : Kept (fun i => some (reqs i).begin) l := by
    refine ⟨hl, fun i walletId hi => ?_⟩
    have hbegin := Option.some.inj hi
    unfold SubmitRequest.begin at hbegin
    split at hbegin <;> cases hbegin
  obtain ⟨φ, ψ, -, hkept⟩ := api_run (J := fun φ _ l _ => Kept φ l) (fun _ => True)
    (fun φ ψ p i ph c next v h hi hm _ => h.submit hi hm)
      (fun φ ψ p i ph c next v h _ hm _ => h.other hm)
    (fun φ ψ l log i h => ⟨h.wellFormed, h.finding.crash i⟩) (fun φ ψ l log k h => h)
    (api_standing sdk formats l reqs others) hfresh
      fun t (_ : t ∈ (api sdk formats l reqs others).turns Ledger.execute es) => trivial
  exact ⟨hkept.wellFormed, extends_run (p := api sdk formats l reqs others) es, extends_run es'⟩

end Runs

open Reference in
theorem ledger_lifecycle_sample :
    (recordedSend senderAddress destAddress "1000000").world.WellFormed ∧
      (recordedSend senderAddress destAddress "1000000").world.HasWallet 1 ∧
      (recordedSend senderAddress destAddress "1000000").world.rows.lookup "send-1" =
        some ⟨some 1, some (signatureText false), "submitted", some destAddress,
          some "1000000", none, 0, 0⟩ := by
  refine ⟨(ledger_lifecycle .empty sampleSdk sampleFormats
    (fun _ => claimTransfer senderAddress destAddress "1000000")
    (fun _ => .register senderAddress) registeredSend []).1, ⟨senderAddress, ?_⟩, ?_⟩
  · rw [recordedSend_eq]
    decide +kernel
  · rw [recordedSend_eq]
    decide +kernel

end Xend
