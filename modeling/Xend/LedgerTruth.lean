import Xend.ApiRuns
import Xend.BuildEndpoint
import Xend.Movement
import Xend.Provenance

/-! Whether the rows of the ledger say what was signed: whose payment it is, to whom,
of how much and of what. -/

namespace Xend

open Framing Interaction

/-- The text the network knows the transaction by: its first signature. -/
def Transaction.signatureText (tx : Transaction) : Option String :=
  tx.signatures.head?.bind Base58.encode

def Transaction.SignedBy (sdk : SolanaSdk) (tx : Transaction) (pubkey : String) : Prop :=
  ∃ key ∈ tx.message.signers, sdk.pubkeyFromStr pubkey = some key

/-- The movement is a transfer with this recipient, amount and mint. -/
def Movement.Shows (sdk : SolanaSdk) (toAddress amount mint : Option String) : Movement → Prop
  | .systemTransfer _ dest lamports =>
    toAddress.bind sdk.pubkeyFromStr = some dest ∧
    amount.bind u128FromStr = some lamports ∧ mint = none
  | .transferChecked _ mintKey dest _ units _ =>
    ∃ owner, toAddress.bind sdk.pubkeyFromStr = some owner ∧
    dest = sdk.associatedTokenAddress owner mintKey ∧
      amount.bind u128FromStr = some units ∧ mint.bind sdk.pubkeyFromStr = some mintKey
  | _ => False

def Transaction.Pays (sdk : SolanaSdk) (tx : Transaction)
    (toAddress amount mint : Option String) : Prop :=
  ∃ ms, tx.message.movements sdk = some ms ∧ ∃ mv ∈ ms, mv.Shows sdk toAddress amount mint

section Statements

variable {ι κ : Type}

/-- The transaction with the signature, as it was broadcast. -/
def Sent (sdk : SolanaSdk) (log : List (SubmitEntry ι)) (signature : String)
    (tx : Transaction) : Prop :=
  ∃ e ∈ log, ∃ b, e.call = .broadcast b ∧ sdk.deserializeTransaction b = .ok tx ∧
    tx.signatureText = some signature

/-- Every signed row tells the sender, the recipient, the amount and the mint of its transaction. -/
def Ledger.Truthful (sdk : SolanaSdk) (l : Ledger) (log : List (SubmitEntry ι)) : Prop :=
  ∀ key row signature, l.rows.lookup key = some row → row.signature = some signature →
    ∃ tx, Sent sdk log signature tx ∧
      (∀ walletId pubkey, row.walletId = some walletId → l.findIdByPubkey pubkey = some walletId →
        tx.SignedBy sdk pubkey) ∧
      tx.Pays sdk row.toAddress row.amount row.mint

/-- A broadcast that succeeds returns the first signature of the transaction. -/
def NamedBySignature (sdk : SolanaSdk) (c : Call) (v : Verdict) : Prop :=
  ∀ b signature, c = .broadcast b → broadcastResult v.reply = .ok signature →
    ∃ tx, sdk.deserializeTransaction b = .ok tx ∧ tx.signatureText = some signature

/-- Each request describes every transaction that is submitted under its key and
validates: its public key, if that is ever registered, is one of the signers, and
its recipient, amount and mint are those of a transfer. -/
def Described (sdk : SolanaSdk) (reqs : ι → SubmitRequest) (others : κ → WalletRequest) : Prop :=
  ∀ i j b tx, (reqs i).idempotencyKey = (reqs j).idempotencyKey →
    Base64.decode (reqs i).signed ≠ none →
    Base64.decode (reqs j).signed = some b → sdk.validateSigned b = .ok () →
    sdk.deserializeTransaction b = .ok tx →
    (∀ pubkey k, (reqs i).pubkey = some pubkey → others k = .register pubkey →
      tx.SignedBy sdk pubkey) ∧
      tx.Pays sdk (reqs i).toAddress (reqs i).amount (reqs i).mint

end Statements

section Moves

variable {sdk : SolanaSdk} {req : SubmitRequest} {signed : Bytes} {ph : Phase} {c : Call}
  {next : c.Reply → Phase} {l : Ledger} {v : Verdict}

theorem Moves.of_findWallet {pubkey : String} (hm : Moves sdk req signed ph c next)
    (h : next (l.execute c v).2 = .findWallet pubkey) : req.pubkey = some pubkey := by
  have hl := hm.leads l v
  rw [h] at hl
  cases hl with
  | named _ _ hpub => exact hpub

theorem Moves.of_insert {walletId : Option Nat} (hm : Moves sdk req signed ph c next)
    (h : next (l.execute c v).2 = .insert walletId) :
    walletId = none ∧ req.pubkey = none ∨
      ∃ pubkey, ph = .findWallet pubkey ∧ c = .findIdByPubkey pubkey ∧
      l.findIdByPubkey pubkey = walletId := by
  have hl := hm.leads l v
  rw [h] at hl
  cases hl with
  | unnamed _ _ hpub => exact .inl ⟨rfl, hpub⟩
  | found pubkey => exact .inr ⟨pubkey, rfl, rfl, rfl⟩

end Moves

section Invariants

variable {ι κ : Type}

/-- Only what decodes and validates has been broadcast. -/
structure Vetted (sdk : SolanaSdk) (reqs : ι → SubmitRequest) (φ : ι → Option Phase)
    (log : List (SubmitEntry ι)) :
    Prop where
  opened : Opened reqs φ
  send : ∀ i, φ i = some .send → sdk.validateSigned (reqs i).payload = .ok ()
  sent : ∀ e ∈ log, ∀ b, e.call = .broadcast b →
    Base64.decode (reqs e.thread).signed = some b ∧ sdk.validateSigned b = .ok ()

/-- Every wallet was registered, under an id of its own. -/
structure Wallets (others : κ → WalletRequest) (ψ : κ → Option WalletPhase)
    (l : Ledger) : Prop where
  registered : ∀ pubkey walletId, l.findIdByPubkey pubkey = some walletId →
    ∃ k, others k = .register pubkey
  distinct : ∀ pubkey pubkey' walletId, l.findIdByPubkey pubkey = some walletId →
    l.findIdByPubkey pubkey' = some walletId → pubkey = pubkey'
  upsert : ∀ k pubkey, ψ k = some (.upsert pubkey) → others k = .register pubkey

/-- The id is that of the public key in the request. -/
def SubmitRequest.Names (req : SubmitRequest) (l : Ledger) (walletId : Nat) : Prop :=
  ∃ pubkey, req.pubkey = some pubkey ∧ l.findIdByPubkey pubkey = some walletId

/-- Every row was claimed by a request under its key, with what the request says. -/
structure Claims (reqs : ι → SubmitRequest) (φ : ι → Option Phase) (l : Ledger) : Prop where
  find : ∀ i pubkey, φ i = some (.findWallet pubkey) → (reqs i).pubkey = some pubkey
  insert : ∀ i walletId, φ i = some (.insert (some walletId)) → (reqs i).Names l walletId
  row : ∀ key row, l.rows.lookup key = some row → ∃ i, (reqs i).idempotencyKey = key ∧
    Base64.decode (reqs i).signed ≠ none ∧ row.toAddress = (reqs i).toAddress ∧
    row.amount = (reqs i).amount ∧
    row.mint = (reqs i).mint ∧ ∀ walletId, row.walletId = some walletId → (reqs i).Names l walletId

variable {sdk : SolanaSdk} {reqs : ι → SubmitRequest} {others : κ → WalletRequest}
    {φ : ι → Option Phase}
  {ψ : κ → Option WalletPhase} {l : Ledger} {log : List (SubmitEntry ι)} {c : Call} {v : Verdict}

theorem SubmitRequest.Names.execute {req : SubmitRequest} {walletId : Nat}
    (h : req.Names l walletId) :
    req.Names (l.execute c v).1 walletId := by
  obtain ⟨pubkey, hpub, hid⟩ := h
  exact ⟨pubkey, hpub, Ledger.execute_wallet_kept hid⟩

theorem Wallets.execute (h : Wallets others ψ l)
    (hc : ∀ pubkey, c = .upsert pubkey → ∃ k, others k = .register pubkey) :
    Wallets others ψ (l.execute c v).1 := by
  have hnew : ∀ {pubkey walletId}, (l.execute c v).1.findIdByPubkey pubkey = some walletId →
      l.findIdByPubkey pubkey = some walletId ∨ c = .upsert pubkey ∧
      walletId = Ledger.freshId l.wallets := by
    intro pubkey walletId hid
    rcases l.execute_wallet c v pubkey with hkept | ⟨hc, -, hfresh⟩
    · exact .inl (hkept ▸ hid)
    · exact .inr ⟨hc, Option.some.inj (hid.symm.trans hfresh)⟩
  refine ⟨fun pubkey walletId hid => ?_, fun pubkey pubkey' walletId hid hid' => ?_, h.upsert⟩
  · rcases hnew hid with hold | ⟨hupsert, -⟩
    · exact h.registered pubkey walletId hold
    · exact hc pubkey hupsert
  · rcases hnew hid with hold | ⟨hupsert, hfresh⟩
    · rcases hnew hid' with hold' | ⟨-, hfresh'⟩
      · exact h.distinct pubkey pubkey' walletId hold hold'
      · exact absurd hfresh' (Ledger.lt_freshId hold).ne
    · rcases hnew hid' with hold' | ⟨hupsert', -⟩
      · exact absurd hfresh (Ledger.lt_freshId hold').ne
      · exact Call.upsert.inj (hupsert.symm.trans hupsert')

section Steps

variable [DecidableEq ι] [DecidableEq κ] {i : ι} {ph : Phase} {next : c.Reply → Phase}

omit [DecidableEq κ] in
theorem Vetted.move (h : Vetted sdk reqs φ log) (hi : φ i = some ph)
    (hm : Moves sdk (reqs i) (reqs i).payload ph c next) :
    Vetted sdk reqs (Function.update φ i (some (next (l.execute c v).2))) (log ++ [⟨i, c, v⟩]) := by
  refine ⟨h.opened.move hi hm, fun j hj => ?_, fun e he b hb => ?_⟩
  · rcases update_cases hj with ⟨rfl, hnext⟩ | ⟨-, hj⟩
    · exact hm.validated hnext.symm
    · exact h.send j hj
  · rcases List.mem_append.mp he with he | he
    · exact h.sent e he b hb
    · obtain rfl := List.mem_singleton.mp he
      simp only at hb
      subst hb
      have hpayload := h.opened.payload hi hm
      obtain ⟨rfl, rfl⟩ := hm.of_broadcast
      exact ⟨hpayload, h.send i hi⟩

omit [DecidableEq κ] in
theorem Claims.move (h : Claims reqs φ l) (ho : Opened reqs φ) (hi : φ i = some ph)
    (hm : Moves sdk (reqs i) (reqs i).payload ph c next) :
    Claims reqs (Function.update φ i (some (next (l.execute c v).2))) (l.execute c v).1 := by
  refine ⟨fun j pubkey hj => ?_, fun j walletId hj => ?_, fun key row hrow => ?_⟩
  · rcases update_cases hj with ⟨rfl, hnext⟩ | ⟨-, hj⟩
    · exact hm.of_findWallet hnext.symm
    · exact h.find j pubkey hj
  · rcases update_cases hj with ⟨rfl, hnext⟩ | ⟨-, hj⟩
    · rcases hm.of_insert hnext.symm with ⟨hnone, -⟩ | ⟨pubkey, rfl, -, hid⟩
      · cases hnone
      · exact SubmitRequest.Names.execute ⟨pubkey, h.find j pubkey hi, hid⟩
    · exact (h.insert j walletId hj).execute
  · have hkeep : ∀ old, l.rows.lookup key = some old → ∃ i, (reqs i).idempotencyKey = key ∧
        Base64.decode (reqs i).signed ≠ none ∧ old.toAddress = (reqs i).toAddress ∧
        old.amount = (reqs i).amount ∧
        old.mint = (reqs i).mint ∧
        ∀ walletId, old.walletId = some walletId → (reqs i).Names (l.execute c v).1 walletId := by
      intro old hold
      obtain ⟨i, hk, hd, hto, hamount, hmint, hid⟩ := h.row key old hold
      exact ⟨i, hk, hd, hto, hamount, hmint, fun walletId hw => (hid walletId hw).execute⟩
    rcases l.execute_row c v key with hkept | ⟨walletId, toAddress, amount, mint, rfl, -,
      hnew⟩ | ⟨s, old, -, hold, hnew⟩
    · exact hkeep row (hkept ▸ hrow)
    · have hd := ho.payload hi hm
      obtain ⟨rfl, rfl, rfl, rfl, rfl⟩ := hm.of_insertPending
      rw [hnew] at hrow
      cases hrow
      refine ⟨i, rfl, by rw [hd]; exact Option.some_ne_none _, rfl, rfl, rfl, ?_⟩
      rintro walletId rfl
      exact (h.insert i walletId hi).execute
    · rw [hnew] at hrow
      cases hrow
      exact hkeep old hold

theorem WalletMoves.rows {ph : WalletPhase} {next : c.Reply → WalletPhase}
    (hm : WalletMoves ph c next) :
    (l.execute c v).1.rows = l.rows := by
  rcases Ledger.execute_world (l := l) (c := c) (v := v) with h | h
  · rw [h]
  · rw [h]
    cases hm with
    | upsert pubkey => exact Ledger.upsert_rows l pubkey
    | findWallet pubkey limit before => rfl
    | list walletId limit before => rfl

omit [DecidableEq ι] in
theorem Wallets.move {k : κ} {ph : WalletPhase} {next : c.Reply → WalletPhase}
    (h : Wallets others ψ l)
    (hk : ψ k = some ph) (hm : WalletMoves ph c next) :
    Wallets others (Function.update ψ k (some (next (l.execute c v).2))) (l.execute c v).1 := by
  have hexec : Wallets others ψ (l.execute c v).1 := by
    refine h.execute fun pubkey hc => ?_
    subst hc
    cases hm
    exact ⟨k, h.upsert k pubkey hk⟩
  refine ⟨hexec.registered, hexec.distinct, fun k' pubkey hk' => ?_⟩
  rcases update_cases hk' with ⟨rfl, hnext⟩ | ⟨-, hk'⟩
  · have hl := hm.leads l v
    rw [← hnext] at hl
    cases hl
  · exact h.upsert k' pubkey hk'

omit [DecidableEq ι] [DecidableEq κ] in
theorem Claims.other {ph : WalletPhase} {next : c.Reply → WalletPhase} (h : Claims reqs φ l)
    (hm : WalletMoves ph c next) :
    Claims reqs φ (l.execute c v).1 := by
  refine ⟨h.find, fun i walletId hi => (h.insert i walletId hi).execute, fun key row hrow => ?_⟩
  rw [hm.rows] at hrow
  obtain ⟨i, hk, hd, hto, hamount, hmint, hid⟩ := h.row key row hrow
  exact ⟨i, hk, hd, hto, hamount, hmint, fun walletId hw => (hid walletId hw).execute⟩

omit [DecidableEq ι] [DecidableEq κ] in
theorem Sourced.other {ph : WalletPhase} {next : c.Reply → WalletPhase} (h : Sourced reqs φ l log)
    (hm : WalletMoves ph c next) : Sourced reqs φ (l.execute c v).1 log := by
  refine ⟨fun key s hs => h.row key s ?_, h.mark, h.answer⟩
  rwa [Ledger.signatureOf, Ledger.findByIdempotency, hm.rows] at hs

omit [DecidableEq κ] in
theorem Vetted.crash (h : Vetted sdk reqs φ log) (i : ι) :
    Vetted sdk reqs (Function.update φ i none) log :=
  ⟨h.opened.crash i, fun j hj => h.send j (crash_cases hj), h.sent⟩

omit [DecidableEq κ] in
theorem Claims.crash (h : Claims reqs φ l) (i : ι) : Claims reqs (Function.update φ i none) l :=
  ⟨fun j pubkey hj => h.find j pubkey (crash_cases hj),
    fun j walletId hj => h.insert j walletId (crash_cases hj), h.row⟩

omit [DecidableEq ι] in
theorem Wallets.crash (h : Wallets others ψ l) (k : κ) :
    Wallets others (Function.update ψ k none) l :=
  ⟨h.registered, h.distinct, fun k' pubkey hk' => h.upsert k' pubkey (crash_cases hk')⟩

end Steps

theorem Vetted.begin (sdk : SolanaSdk) (reqs : ι → SubmitRequest) :
    Vetted sdk reqs (fun i => some (reqs i).begin) [] :=
  ⟨Opened.begin reqs, fun _ hi => absurd (Option.some.inj hi) (SubmitRequest.begin_ne_send _),
    fun _ he => absurd he List.not_mem_nil⟩

theorem Claims.begin (reqs : ι → SubmitRequest) :
    Claims reqs (fun i => some (reqs i).begin) (.empty ∅) := by
  have hbegin : ∀ i ph, (reqs i).begin = ph → ph = .lookup ∨ ∃ r, ph = .answered r := by
    rintro i ph rfl
    unfold SubmitRequest.begin
    split
    · exact .inl rfl
    · exact .inr ⟨_, rfl⟩
  refine ⟨fun i pubkey hi => ?_, fun i walletId hi => ?_, fun key row hrow => ?_⟩
  · rcases hbegin i _ (Option.some.inj hi) with hh | ⟨r, hh⟩ <;> cases hh
  · rcases hbegin i _ (Option.some.inj hi) with hh | ⟨r, hh⟩ <;> cases hh
  · simp [Ledger.empty] at hrow

theorem Wallets.begin (formats : TextFormats) (others : κ → WalletRequest) :
    Wallets others (fun k => some ((others k).begin formats)) (.empty ∅) := by
  refine ⟨fun pubkey walletId hid => ?_, fun pubkey _ walletId hid => ?_, fun k pubkey hk => ?_⟩
  · simp [Ledger.findIdByPubkey, Ledger.empty] at hid
  · simp [Ledger.findIdByPubkey, Ledger.empty] at hid
  · have hbegin := Option.some.inj hk
    cases ho : others k with
    | register p =>
      rw [ho, WalletRequest.begin] at hbegin
      split at hbegin
      · cases hbegin
        rfl
      · cases hbegin
    | history p limit before =>
      rw [ho, WalletRequest.begin] at hbegin
      split at hbegin
      · split at hbegin <;> cases hbegin
      · cases hbegin

end Invariants

section Runs

variable {ι κ : Type} [DecidableEq ι] [DecidableEq κ] {sdk : SolanaSdk} {formats : TextFormats}
  {reqs : ι → SubmitRequest} {others : κ → WalletRequest}

/-- Everything the ledger and the log can be traced back to. -/
structure Traced (sdk : SolanaSdk) (reqs : ι → SubmitRequest) (others : κ → WalletRequest)
    (φ : ι → Option Phase)
    (ψ : κ → Option WalletPhase) (l : Ledger) (log : List (SubmitEntry ι)) : Prop where
  sourced : Sourced reqs φ l log
  vetted : Vetted sdk reqs φ log
  wallets : Wallets others ψ l
  claims : Claims reqs φ l

theorem traced_run (sdk : SolanaSdk) (formats : TextFormats) (reqs : ι → SubmitRequest)
    (others : κ → WalletRequest)
    (es : List ((ι ⊕ κ) × Act Verdict)) :
    ∃ φ ψ, ApiStanding sdk reqs φ ψ
      ((api sdk formats (.empty ∅) reqs others).run Ledger.execute es) ∧
      Traced sdk reqs others φ ψ
        ((api sdk formats (.empty ∅) reqs others).run Ledger.execute es).world
        (submissions ((api sdk formats (.empty ∅) reqs others).run Ledger.execute es).log) := by
  refine api_run (fun _ => True) ?_ ?_ ?_ ?_ (api_standing sdk formats _ reqs others)
    ⟨Sourced.begin ∅, Vetted.begin sdk reqs, Wallets.begin formats others, Claims.begin reqs⟩
      fun _ _ => trivial
  · intro φ ψ p i ph c next v h hi hm _
    refine ⟨h.sourced.move hi hm, h.vetted.move hi hm, h.wallets.execute fun pubkey hc => ?_,
      h.claims.move h.vetted.opened hi hm⟩
    subst hc
    cases hm
  · intro φ ψ p k ph c next v h hk hm _
    exact ⟨h.sourced.other hm, h.vetted, h.wallets.move hk hm, h.claims.other hm⟩
  · intro φ ψ l log i h
    exact ⟨h.sourced.crash i, h.vetted.crash i, h.wallets, h.claims.crash i⟩
  · intro φ ψ l log k h
    exact ⟨h.sourced, h.vetted, h.wallets.crash k, h.claims⟩

omit [DecidableEq ι] [DecidableEq κ] in
theorem Traced.truthful {φ : ι → Option Phase} {ψ : κ → Option WalletPhase} {l : Ledger}
    {log : List (SubmitEntry ι)}
    (h : Traced sdk reqs others φ ψ l log) (hdesc : Described sdk reqs others)
    (hnamed : ∀ e ∈ log, NamedBySignature sdk e.call e.verdict) : l.Truthful sdk log := by
  intro key row signature hrow hsig
  obtain ⟨e, he, hkey, hcall, hreply⟩ :=
    h.sourced.row key signature (Ledger.signatureOf_eq_some.mpr ⟨row, hrow, hsig⟩)
  obtain ⟨tx, htx, hname⟩ := hnamed e he _ signature hcall hreply
  obtain ⟨hdecode, hvalid⟩ := h.vetted.sent e he _ hcall
  obtain ⟨i, hk, hd, hto, hamount, hmint, hid⟩ := h.claims.row key row hrow
  obtain ⟨hsigner, hpays⟩ := hdesc i e.thread _ tx (hk.trans hkey.symm) hd hdecode hvalid htx
  refine ⟨tx, ⟨e, he, _, hcall, htx, hname⟩, fun walletId pubkey hw hfind => ?_, ?_⟩
  · obtain ⟨pubkey', hpub, hfind'⟩ := hid walletId hw
    obtain rfl := h.wallets.distinct pubkey pubkey' walletId hfind hfind'
    obtain ⟨k, hk⟩ := h.wallets.registered pubkey walletId hfind
    exact hsigner pubkey k hpub hk
  · rw [hto, hamount, hmint]
    exact hpays

/-- When requests describe what is submitted under their keys, no run records a
payment that was not made, and no history shows one. -/
theorem truthful_of_described (hdesc : Described sdk reqs others)
    (es : List ((ι ⊕ κ) × Act Verdict)) :
    let p := (api sdk formats (.empty ∅) reqs others).run Ledger.execute es
    (∀ e ∈ submissions p.log, NamedBySignature sdk e.call e.verdict) →
      p.world.Truthful sdk (submissions p.log) ∧
        ∀ pubkey walletId limit before, p.world.findIdByPubkey pubkey = some walletId →
          ∀ record ∈ p.world.listForWallet walletId limit before, ∃ tx,
            Sent sdk (submissions p.log) record.signature tx ∧ tx.SignedBy sdk pubkey ∧
              tx.Pays sdk record.toAddress record.amount record.mint := by
  intro p hnamed
  obtain ⟨φ, ψ, -, htraced⟩ := traced_run sdk formats reqs others es
  have htruthful := htraced.truthful hdesc hnamed
  refine ⟨htruthful, fun pubkey walletId limit before hid record hrecord => ?_⟩
  obtain ⟨key, row, hrow, hwallet, hrec⟩ := Ledger.mem_listForWallet hrecord
  obtain ⟨signature, hsig, rfl⟩ := Option.map_eq_some_iff.mp hrec
  obtain ⟨tx, hsent, hsigner, hpays⟩ := htruthful key row signature hrow hsig
  exact ⟨tx, hsent, hsigner walletId pubkey hwallet hid, hpays⟩

theorem submissions_event {p : ApiPool ι κ} {es : List ((ι ⊕ κ) × Act Verdict)} {e : SubmitEntry ι}
    (hp : p.log = []) (he : e ∈ submissions (p.run Ledger.execute es).log) :
    (.inl e.thread, Act.step e.verdict) ∈ es := by
  obtain ⟨e', he', hsub⟩ := List.mem_filterMap.mp he
  obtain ⟨i, hi, rfl⟩ := Option.map_eq_some_iff.mp hsub
  rw [Pool.log_run, hp, List.nil_append] at he'
  obtain ⟨t, ht, rfl⟩ := List.mem_map.mp he'
  have hthread : t.thread = .inl i := Sum.getLeft?_eq_some_iff.mp hi
  rw [← hthread]
  exact Pool.turns_event ht

end Runs

open Reference

def sampleFormats : TextFormats := ⟨Base58.decode, fun _ => none⟩

/-- Registration, then a submission that lands and is recorded. -/
def registeredSend : List ((Unit ⊕ Unit) × Act Verdict) :=
  (.inr (), .step served) :: [served, served, served, landed false, served].map fun v =>
    (.inl (), .step v)

theorem eq_of_signedTransfer {tx : Transaction}
    (h : sampleSdk.deserializeTransaction (signedTransfer false) = .ok tx) :
    tx.signatureText = some (signatureText false) ∧
    (∀ key, key ∈ tx.message.signers ↔ key = senderKey) ∧
      tx.message.movements sampleSdk = some [.systemTransfer senderKey destKey 1000000] := by
  obtain rfl := Except.ok.inj ((deserialize_signedTransfer false).symm.trans h)
  have hencode : Base58.encode (base58 (signatureText false)) = some (signatureText false) :=
    Base58.encode_eq_some_iff.mpr (base58_spells (signatureText_size false))
  refine ⟨?_, transfer_signers false, transfer_movements false⟩
  rw [Transaction.signatureText, List.head?_cons, Option.bind_some, hencode]

/-- A submission of the sample transfer by any name, and what it says of it. -/
def claimTransfer (pubkey toAddress amount : String) : SubmitRequest :=
  { submitTransfer false "send-1" with
    pubkey := some pubkey, toAddress := some toAddress, amount := some amount }

def recordedSend (pubkey toAddress amount : String) : ApiPool Unit Unit :=
  (api sampleSdk sampleFormats (.empty ∅) (fun _ => claimTransfer pubkey toAddress amount)
    fun _ => .register pubkey).run Ledger.execute registeredSend

theorem decode_claimTransfer (pubkey toAddress amount : String) :
    Base64.decode (claimTransfer pubkey toAddress amount).signed = some (signedTransfer false) :=
  Base64.decode_encode _

theorem recordedSend_eq (pubkey toAddress amount : String) :
    recordedSend pubkey toAddress amount = (Pool.start (.empty ∅) (Sum.elim
      (fun _ => Except.map .inl <$>
        (lookUp lenientSdk (claimTransfer pubkey toAddress amount) (signedTransfer false)).run)
      fun _ => Except.map .inr <$> (sampleFormats.handle (.register pubkey)).run)).run
        Ledger.execute registeredSend := by
  have hvalid : sampleSdk.validateSigned (signedTransfer false) =
      lenientSdk.validateSigned (signedTransfer false) :=
    validate_signedTransfer false
  rw [recordedSend, api_of_decode (fun _ => decode_claimTransfer _ _ _) fun _ => hvalid]

theorem sent_recordedSend {pubkey toAddress amount : String} {e : SubmitEntry Unit} {b : Bytes}
    (he : e ∈ submissions (recordedSend pubkey toAddress amount).log) (hc : e.call = .broadcast b) :
    b = signedTransfer false := by
  obtain ⟨φ, ψ, -, htraced⟩ :=
    traced_run sampleSdk sampleFormats (fun _ : Unit => claimTransfer pubkey toAddress amount)
    (fun _ : Unit => .register pubkey) registeredSend
  have hdecode := (htraced.vetted.sent e he b hc).1
  rw [claimTransfer, submitTransfer, Base64.decode_encode] at hdecode
  exact (Option.some.inj hdecode).symm

theorem named_recordedSend (pubkey toAddress amount : String) :
    ∀ e ∈ submissions (recordedSend pubkey toAddress amount).log,
    NamedBySignature sampleSdk e.call e.verdict := by
  intro e he b signature hc hs
  obtain rfl := sent_recordedSend he hc
  have hverdict : e.verdict = served ∨ e.verdict = landed false := by
    have hh := submissions_event rfl he
    simp only [registeredSend, List.map_cons, List.map_nil, List.mem_cons,
      Prod.mk.injEq, Act.step.injEq, List.not_mem_nil, or_false] at hh
    rcases hh with h | h | h | h | h | h
    · cases h.1
    · exact .inl h.2
    · exact .inl h.2
    · exact .inl h.2
    · exact .inr h.2
    · exact .inl h.2
  rcases hverdict with hv | hv
  · rw [hv] at hs
    cases hs
  · rw [hv] at hs
    have hread := deserialize_signedTransfer false
    refine ⟨_, hread, ?_⟩
    rw [(eq_of_signedTransfer hread).1]
    exact congrArg some (Except.ok.inj hs)

theorem sample_described :
    Described sampleSdk (fun _ : Unit => claimTransfer senderAddress destAddress "1000000")
      fun _ : Unit => .register senderAddress := by
  intro i j b tx _ _ hdecode _ htx
  have hb : b = signedTransfer false := by
    rw [claimTransfer, submitTransfer, Base64.decode_encode] at hdecode
    exact (Option.some.inj hdecode).symm
  subst hb
  obtain ⟨-, hsigners, hmoves⟩ := eq_of_signedTransfer htx
  have hsender : sampleSdk.pubkeyFromStr senderAddress = some senderKey := keyFromStr_sender
  have hdest : sampleSdk.pubkeyFromStr destAddress = some destKey := keyFromStr_dest
  refine ⟨fun pubkey k hpub _ => ⟨senderKey, ?_, ?_⟩, _, hmoves, _,
    List.mem_cons_self, hdest, ?_, rfl⟩
  · exact (hsigners senderKey).mpr rfl
  · rw [← Option.some.inj hpub]
    exact hsender
  · exact (u128FromStr_repr 1000000).trans (if_pos (by omega))

theorem truthful_of_described_sample :
    (recordedSend senderAddress destAddress "1000000").world.Truthful sampleSdk
      (submissions (recordedSend senderAddress destAddress "1000000").log) :=
  (truthful_of_described sample_described registeredSend (named_recordedSend _ _ _)).1

/-- Another's payment, submitted in the name of its recipient and with another amount,
is recorded as it is told. -/
theorem falseClaim_recorded :
    (∀ e ∈ submissions (recordedSend destAddress senderAddress "5").log,
      NamedBySignature sampleSdk e.call e.verdict) ∧
      ¬ (recordedSend destAddress senderAddress "5").world.Truthful sampleSdk
        (submissions (recordedSend destAddress senderAddress "5").log) := by
  refine ⟨named_recordedSend _ _ _, fun h => ?_⟩
  have hrow : (recordedSend destAddress senderAddress "5").world.rows.lookup "send-1" =
      some ⟨some 1, some (signatureText false), "submitted", some senderAddress,
        some "5", none, 0, 0⟩ := by
    rw [recordedSend_eq]
    decide +kernel
  have hwallet : (recordedSend destAddress senderAddress "5").world.findIdByPubkey destAddress =
      some 1 := by
    rw [recordedSend_eq]
    decide +kernel
  obtain ⟨tx, ⟨e, he, b, hc, htx, -⟩, hsigner, -⟩ := h _ _ _ hrow rfl
  obtain rfl := sent_recordedSend he hc
  obtain ⟨key, hkey, hparse⟩ := hsigner 1 destAddress rfl hwallet
  obtain rfl := ((eq_of_signedTransfer htx).2.1 key).mp hkey
  exact absurd hparse (by decide +kernel)

end Xend
