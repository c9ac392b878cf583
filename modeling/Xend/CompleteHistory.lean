import Xend.BlindRetry
import Xend.LedgerTruth

/-! Whether a payment that `submit` has reported is found in the history of its sender,
read page by page to the end. -/

namespace Xend

open Framing Interaction

def Ledger.CreatedDistinct (l : Ledger) : Prop :=
  ∀ key key' row row', l.rows.lookup key = some row → l.rows.lookup key' = some row' →
    row.createdAt = row'.createdAt → key = key'

theorem Row.record_createdAt {row : Row} {record : Record} (h : row.record = some record) :
    record.createdAt = row.createdAt := by
  obtain ⟨signature, -, rfl⟩ := Option.map_eq_some_iff.mp h
  rfl

/-- A page that misses a row it could hold is full of later rows. -/
theorem Ledger.listForWallet_misses {l : Ledger} {walletId limit : Nat} {before : Option Int}
    {key : String} {row : Row}
    {record : Record} (hdistinct : l.CreatedDistinct) (hrow : l.rows.lookup key = some row)
    (hrecord : row.record = some record) (hlimit : 0 < limit)
    (hlisted : row.listed walletId before = true)
    (hmiss : record ∉ l.listForWallet walletId limit before) :
    ∃ last, (l.listForWallet walletId limit before).getLast? = some last ∧
    row.createdAt < last.createdAt := by
  obtain ⟨records, hrecords⟩ : ∃ records, (l.rows.entries.filterMap fun e =>
      if e.2.listed walletId before then e.2.record else none) = records := ⟨_, rfl⟩
  obtain ⟨sorted, hsorted⟩ : ∃ sorted,
      records.mergeSort (fun a b => decide (b.createdAt ≤ a.createdAt)) = sorted := ⟨_, rfl⟩
  have hlist : l.listForWallet walletId limit before = sorted.take limit := by
    rw [listForWallet, hrecords, hsorted]
  have hmem : record ∈ sorted := by
    rw [← hsorted, List.mem_mergeSort, ← hrecords, List.mem_filterMap]
    exact ⟨⟨key, row⟩, AList.mem_lookup_iff.mp hrow, by rw [if_pos hlisted, hrecord]⟩
  have hpairwise : sorted.Pairwise fun a b => b.createdAt ≤ a.createdAt :=
    hsorted ▸ latest_first records
  rw [hlist] at hmiss
  have hne : sorted.take limit ≠ [] := by
    intro hnil
    rcases List.take_eq_nil_iff.mp hnil with h | h
    · omega
    · rw [h] at hmem
      cases hmem
  have hlast := List.getLast_mem hne
  generalize hget : (sorted.take limit).getLast hne = last at hlast
  refine ⟨last, by rw [hlist, List.getLast?_eq_some_getLast hne, hget], ?_⟩
  rw [← List.take_append_drop limit sorted] at hmem hpairwise
  have hlate : record ∈ sorted.drop limit := (List.mem_append.mp hmem).resolve_left hmiss
  have hle := (List.pairwise_append.mp hpairwise).2.2 _ hlast _ hlate
  rw [Row.record_createdAt hrecord] at hle
  refine lt_of_le_of_ne hle fun he => hmiss ?_
  rw [← hlist] at hlast ⊢
  obtain ⟨key', row', hrow', -, hrecord'⟩ := mem_listForWallet hlast
  obtain rfl : key = key' :=
    hdistinct key key' row row' hrow hrow' (he.trans (Row.record_createdAt hrecord'))
  obtain rfl : row = row' := Option.some.inj (hrow.symm.trans hrow')
  obtain rfl : record = last := Option.some.inj (hrecord.symm.trans hrecord')
  exact hlast

section Statements

variable {ι κ : Type} [DecidableEq ι] [DecidableEq κ]

/-- Pages of a history as their readers got them: each after the last record of the one
before, up to an empty one. -/
inductive Pages (formats : TextFormats) (others : κ → WalletRequest)
    (p : ApiPool ι κ) (late : κ → Prop)
    (pubkey : String) : Option Int → List Record → Prop
  | last {k : κ} {limit : Option Int} {cursor : Option String} {before : Option Int} : late k →
    others k = .history pubkey limit cursor → formats.parseCursor cursor = .ok before →
    p.answer (.inr k) = some (.ok (.inr (.transactions []))) →
    Pages formats others p late pubkey before []
  | page {k : κ} {limit : Option Int} {cursor : Option String} {before : Option Int}
      {records rest : List Record}
      {oldest : Record} : late k →
    others k = .history pubkey limit cursor → formats.parseCursor cursor = .ok before →
    p.answer (.inr k) = some (.ok (.inr (.transactions records))) → records.getLast? = some oldest →
    Pages formats others p late pubkey (some oldest.createdAt) rest →
    Pages formats others p late pubkey before (records ++ rest)

/-- What submission `i` has returned by the end of `es` is in the whole history of the
public key, read during `es'`. -/
def Shown (sdk : SolanaSdk) (formats : TextFormats) (reqs : ι → SubmitRequest)
    (others : κ → WalletRequest)
    (pubkey : String) (es es' : List ((ι ⊕ κ) × Act Verdict)) (i : ι) : Prop :=
  let p := (api sdk formats (.empty ∅) reqs others).run Ledger.execute es
  ∀ r records, p.answer (.inl i) = some (.ok (.inl r)) → p.world.findIdByPubkey pubkey ≠ none →
    (∀ t ∈ p.turns Ledger.execute es', t.pool.world.CreatedDistinct) →
    Pages formats others (p.run Ledger.execute es') (fun k => ∀ e ∈ es, e.1 ≠
      .inr k) pubkey none records →
    ∃ record ∈ records, record.signature = r.signature

/-- A request under the key that looks the public key up finds it registered. -/
def FindsWallet (reqs : ι → SubmitRequest) (key : String) (t : ApiTurn ι κ) : Prop :=
  ∀ i pubkey, t.thread = .inl i → (reqs i).idempotencyKey = key → t.call = .findIdByPubkey pubkey →
    t.pool.world.findIdByPubkey pubkey ≠ none

/-- A broadcast under the key that succeeds returns the one signature. -/
def Returns (reqs : ι → SubmitRequest) (key txid : String) (t : ApiTurn ι κ) : Prop :=
  ∀ i b, t.thread = .inl i → (reqs i).idempotencyKey = key → t.call = .broadcast b →
    ∀ s, broadcastResult t.verdict.reply = .ok s → s = txid

end Statements

def Phase.HasRow : Phase → Prop
  | .send => True
  | .mark _ => True
  | _ => False

namespace Ledger

variable {l : Ledger} {c : Call} {v : Verdict} {key : String}

theorem execute_present (h : l.rows.lookup key ≠ none) :
    (l.execute c v).1.rows.lookup key ≠ none := by
  rcases l.execute_row c v key with hkept | ⟨_, _, _, _, -, -, hnew⟩ | ⟨_, _, -, -, hnew⟩
  · rwa [hkept]
  · rw [hnew]
    exact Option.some_ne_none _
  · rw [hnew]
    exact Option.some_ne_none _

theorem execute_signed (h : l.signatureOf key ≠ none) :
    (l.execute c v).1.signatureOf key ≠ none := by
  obtain ⟨s, hs⟩ := Option.ne_none_iff_exists'.mp h
  obtain ⟨row, hrow, hsig⟩ := signatureOf_eq_some.mp hs
  rcases l.execute_row c v key with hkept | ⟨_, _, _, _, -, hnone, -⟩ | ⟨s', _, -, -, hnew⟩
  · rw [signatureOf_eq_some.mpr ⟨row, hkept.trans hrow, hsig⟩]
    exact Option.some_ne_none s
  · rw [hrow] at hnone
    cases hnone
  · rw [signatureOf_eq_some.mpr ⟨_, hnew, rfl⟩]
    exact Option.some_ne_none s'

end Ledger

section Moves

variable {sdk : SolanaSdk} {req : SubmitRequest} {signed : Bytes} {ph : Phase} {c : Call}
  {next : c.Reply → Phase} {l : Ledger} {v : Verdict}

theorem Moves.of_hasRow (hm : Moves sdk req signed ph c next)
    (h : (next (l.execute c v).2).HasRow) :
    ph.HasRow ∨ (l.execute c v).1.rows.lookup req.idempotencyKey ≠ none := by
  have hl := hm.leads l v
  generalize next (l.execute c v).2 = ph' at h hl
  cases hl with
  | resumes ho hfound =>
    right
    rw [Ledger.execute_of_no_outage ho]
    intro hnone
    change l.rows.lookup req.idempotencyKey = none at hnone
    rw [Ledger.findByIdempotency, hnone] at hfound
    cases hfound
  | claimed walletId ho =>
    right
    rw [Ledger.execute_of_no_outage ho]
    intro hnone
    change (l.insertPending _ _ _ _ _ _).rows.lookup _ = none at hnone
    have hself :
        (l.insertPending walletId req.idempotencyKey req.toAddress req.amount req.mint
          v.now).findByIdempotency
        req.idempotencyKey = some _ := Ledger.insertPending_find_self
    rw [Ledger.findByIdempotency, hnone] at hself
    cases hself
  | sent => exact .inl trivial
  | marked => exact .inl trivial
  | fails => exact absurd h id
  | replays => exact absurd h id
  | named => exact absurd h id
  | unnamed => exact absurd h id
  | found => exact absurd h id

/-- Whoever is answered has seen the row of its key signed. -/
theorem Moves.answered_signed {r : SubmitResponse} (hm : Moves sdk req signed ph c next)
    (h : next (l.execute c v).2 = .answered (.ok r))
    (hrow : ph.HasRow → l.rows.lookup req.idempotencyKey ≠ none) :
    (l.execute c v).1.signatureOf req.idempotencyKey ≠ none := by
  have hl := hm.leads l v
  rw [h] at hl
  cases hl with
  | replays _ hfound =>
    refine Ledger.execute_signed ?_
    simp [Ledger.signatureOf, hfound]
  | marked ho hmark =>
    rw [Ledger.execute_of_no_outage ho]
    simp only [Ledger.serve, hmark]
    rcases Ledger.markSubmitted_row hmark with ⟨hnone, -⟩ | ⟨row, -, -, hself, -⟩
    · exact absurd hnone (hrow trivial)
    · rw [Ledger.signatureOf_eq_some.mpr ⟨_, hself, rfl⟩]
      exact Option.some_ne_none _

end Moves

section WalletMoves

variable {ph : WalletPhase} {c : Call} {next : c.Reply → WalletPhase} {l : Ledger} {v : Verdict}

theorem WalletMoves.ne_findWallet {pubkey : String} {limit : Nat} {before : Option Int}
    (hm : WalletMoves ph c next) :
    next (l.execute c v).2 ≠ .findWallet pubkey limit before := by
  intro h
  have hl := hm.leads l v
  rw [h] at hl
  cases hl

theorem WalletMoves.of_list {walletId limit : Nat} {before : Option Int}
    (hm : WalletMoves ph c next)
    (h : next (l.execute c v).2 = .list walletId limit before) :
    ∃ pubkey, ph = .findWallet pubkey limit before ∧ l.findIdByPubkey pubkey = some walletId := by
  have hl := hm.leads l v
  rw [h] at hl
  cases hl with
  | found _ _ hid => exact ⟨_, rfl, hid⟩

theorem WalletMoves.of_transactions {records : List Record} (hm : WalletMoves ph c next)
    (h : next (l.execute c v).2 = .answered (.ok (.transactions records))) :
    (∃ pubkey limit before, ph = .findWallet pubkey limit before ∧ l.findIdByPubkey pubkey = none) ∨
      ∃ walletId limit before, ph = .list walletId limit before ∧
      records = l.listForWallet walletId limit before := by
  have hl := hm.leads l v
  rw [h] at hl
  cases hl with
  | unknown limit before hid => exact .inl ⟨_, limit, before, rfl, hid⟩
  | listed walletId limit before => exact .inr ⟨walletId, limit, before, rfl, rfl⟩

end WalletMoves

section Submission

variable {ι : Type} {sdk : SolanaSdk} {reqs : ι → SubmitRequest} {key pubkey : String}
    {φ : ι → Option Phase}
  {l : Ledger} {c : Call} {v : Verdict}

/-- The row of one key belongs to the wallet of its sender, and whoever was answered has
seen it signed. -/
structure Owned (reqs : ι → SubmitRequest) (key pubkey : String) (φ : ι → Option Phase)
    (l : Ledger) : Prop where
  find : ∀ i p, (reqs i).idempotencyKey = key → φ i = some (.findWallet p) → p = pubkey
  insert : ∀ i walletId, (reqs i).idempotencyKey = key → φ i = some (.insert walletId) →
    ∃ w, walletId = some w ∧ l.findIdByPubkey pubkey = some w
  row : ∀ row, l.rows.lookup key = some row → ∃ w, row.walletId = some w ∧
    l.findIdByPubkey pubkey = some w
  present : ∀ i ph, (reqs i).idempotencyKey = key → φ i = some ph → ph.HasRow →
    l.rows.lookup key ≠ none
  answer : ∀ i r, (reqs i).idempotencyKey = key → φ i = some (.answered (.ok r)) →
    l.signatureOf key ≠ none

theorem Owned.execute (h : Owned reqs key pubkey φ l)
    (hc : ∀ walletId toAddress amount mint, c = .insertPending walletId key toAddress amount mint →
      ∃ w, walletId = some w ∧ l.findIdByPubkey pubkey = some w) :
    Owned reqs key pubkey φ (l.execute c v).1 := by
  have hkept : ∀ {walletId : Option Nat},
      (∃ w, walletId = some w ∧ l.findIdByPubkey pubkey = some w) →
      ∃ w, walletId = some w ∧ (l.execute c v).1.findIdByPubkey pubkey = some w := by
    rintro walletId ⟨w, hw, hid⟩
    exact ⟨w, hw, Ledger.execute_wallet_kept hid⟩
  refine ⟨h.find, fun i walletId hk hi => hkept (h.insert i walletId hk hi),
    fun row hrow => hkept ?_, fun i ph hk hi hf => Ledger.execute_present (h.present i ph hk hi hf),
    fun i r hk hi => Ledger.execute_signed (h.answer i r hk hi)⟩
  rcases l.execute_row c v key with hsame | ⟨walletId, _, _, _, rfl, -,
    hnew⟩ | ⟨s, old, -, hold, hnew⟩
  · exact h.row row (hsame ▸ hrow)
  · rw [hnew] at hrow
    cases hrow
    exact hc _ _ _ _ rfl
  · rw [hnew] at hrow
    cases hrow
    exact h.row old hold

theorem Owned.move [DecidableEq ι] {i : ι} {ph : Phase} {next : c.Reply → Phase}
    (h : Owned reqs key pubkey φ l)
    (hpub : ∀ i, (reqs i).idempotencyKey = key → (reqs i).pubkey = some pubkey) (hi : φ i = some ph)
    (hm : Moves sdk (reqs i) (reqs i).payload ph c next)
    (hfound : (reqs i).idempotencyKey = key → ∀ p, c = .findIdByPubkey p →
      l.findIdByPubkey p ≠ none) :
    Owned reqs key pubkey (Function.update φ i (some (next (l.execute c v).2)))
      (l.execute c v).1 := by
  have hexec : Owned reqs key pubkey φ (l.execute c v).1 := by
    refine h.execute fun walletId toAddress amount mint hc => ?_
    subst hc
    obtain ⟨rfl, hk, -⟩ := hm.of_insertPending
    exact h.insert i walletId hk.symm hi
  refine ⟨fun j p hk hj => ?_, fun j walletId hk hj => ?_, hexec.row, fun j ph' hk hj hf => ?_,
    fun j r hk hj => ?_⟩
  · rcases update_cases hj with ⟨rfl, hnext⟩ | ⟨-, hj⟩
    · exact Option.some.inj ((hm.of_findWallet hnext.symm).symm.trans (hpub j hk))
    · exact h.find j p hk hj
  · rcases update_cases hj with ⟨rfl, hnext⟩ | ⟨-, hj⟩
    · rcases hm.of_insert hnext.symm with ⟨-, hnone⟩ | ⟨p, rfl, hc, hid⟩
      · rw [hpub j hk] at hnone
        cases hnone
      · obtain rfl := h.find j p hk hi
        obtain ⟨w, hw⟩ := Option.ne_none_iff_exists'.mp (hfound hk p hc)
        exact ⟨w, hid.symm.trans hw, Ledger.execute_wallet_kept hw⟩
    · exact hexec.insert j walletId hk hj
  · rcases update_cases hj with ⟨rfl, rfl⟩ | ⟨-, hj⟩
    · rcases hm.of_hasRow hf with hbefore | hrow
      · exact Ledger.execute_present (h.present j ph hk hi hbefore)
      · rwa [hk] at hrow
    · exact hexec.present j ph' hk hj hf
  · rcases update_cases hj with ⟨rfl, hnext⟩ | ⟨-, hj⟩
    · have hsigned := hm.answered_signed hnext.symm fun hf => by
        rw [hk]
        exact h.present j ph hk hi hf
      rwa [hk] at hsigned
    · exact hexec.answer j r hk hj

theorem Owned.crash [DecidableEq ι] (h : Owned reqs key pubkey φ l) (i : ι) :
    Owned reqs key pubkey (Function.update φ i none) l :=
  ⟨fun j p hk hj => h.find j p hk (crash_cases hj), fun j walletId hk hj => h.insert j walletId hk
    (crash_cases hj), h.row, fun j ph hk hj => h.present j ph hk (crash_cases hj),
    fun j r hk hj => h.answer j r hk (crash_cases hj)⟩

theorem Owned.other {ph : WalletPhase} {next : c.Reply → WalletPhase}
    (h : Owned reqs key pubkey φ l)
    (hm : WalletMoves ph c next) : Owned reqs key pubkey φ (l.execute c v).1 := by
  refine h.execute fun walletId toAddress amount mint hc => ?_
  subst hc
  cases hm

theorem Owned.begin (wallets : AList fun _ : String => Nat) :
    Owned reqs key pubkey (fun i => some (reqs i).begin) (.empty wallets) := by
  have hbegin : ∀ {i ph}, some (reqs i).begin = some ph → ph = .lookup ∨
      ∃ e, ph = .answered (.error e) := by
    rintro i ph hi
    rw [← Option.some.inj hi, SubmitRequest.begin]
    split
    · exact .inl rfl
    · exact .inr ⟨_, rfl⟩
  refine ⟨fun i p _ hi => ?_, fun i walletId _ hi => ?_, fun row hrow => ?_,
    fun i ph _ hi hf => ?_, fun i r _ hi => ?_⟩
  · rcases hbegin hi with hh | ⟨e, hh⟩ <;> cases hh
  · rcases hbegin hi with hh | ⟨e, hh⟩ <;> cases hh
  · simp [Ledger.empty] at hrow
  · rcases hbegin hi with rfl | ⟨e, rfl⟩
    · exact absurd hf id
    · exact absurd hf id
  · rcases hbegin hi with hh | ⟨e, hh⟩ <;> cases hh

theorem Retried.other {log : List (SubmitEntry ι)} {txid : String} {ph : WalletPhase}
    {next : c.Reply → WalletPhase}
    (h : Retried reqs key txid φ l log) (hm : WalletMoves ph c next) :
    Retried reqs key txid φ (l.execute c v).1 log := by
  refine ⟨h.decoded, h.fresh, fun row hrow => h.row row ?_, h.mark, h.answer⟩
  rwa [hm.rows] at hrow

theorem Settled.other {log : List (SubmitEntry ι)} {row : Row} {late : ι → Prop} {ph : WalletPhase}
    {next : c.Reply → WalletPhase} (h : Settled reqs key row late φ l log)
    (hm : WalletMoves ph c next) :
    Settled reqs key row late φ (l.execute c v).1 log := by
  refine ⟨?_, h.idle, h.quiet⟩
  rw [hm.rows]
  exact h.kept

end Submission

section Reading

variable {κ : Type} {formats : TextFormats} {others : κ → WalletRequest} {pubkey key : String}
    {w : Nat} {row : Row}
  {late : κ → Prop} {ψ : κ → Option WalletPhase} {l : Ledger} {c : Call} {v : Verdict}

/-- The page has the row, unless the row is older than all of it. -/
def Covers (row : Row) (before : Option Int) (records : List Record) : Prop :=
  ∀ record, row.record = some record →
    before.all (fun instant => (row.createdAt : Int) < instant) = true →
    record ∈ records ∨ ∃ oldest, records.getLast? = some oldest ∧ row.createdAt < oldest.createdAt

/-- Late readers of the history of the public key ask for the pages of its wallet. -/
structure Reading (formats : TextFormats) (others : κ → WalletRequest) (pubkey : String)
    (w : Nat) (row : Row)
    (late : κ → Prop) (ψ : κ → Option WalletPhase) (l : Ledger) : Prop where
  wallet : l.findIdByPubkey pubkey = some w
  find : ∀ k p limit before, late k → ψ k = some (.findWallet p limit before) → ∃ limit' cursor,
    others k = .history p limit' cursor ∧ formats.parseCursor cursor = .ok before ∧ 0 < limit
  list : ∀ k walletId limit before, late k → ψ k = some (.list walletId limit before) →
    ∃ p limit' cursor,
    others k = .history p limit' cursor ∧ formats.parseCursor cursor = .ok before ∧ 0 < limit ∧
      (p = pubkey → walletId = w)
  answer : ∀ k records limit cursor before, late k →
    ψ k = some (.answered (.ok (.transactions records))) →
    others k = .history pubkey limit cursor → formats.parseCursor cursor = .ok before →
    Covers row before records

theorem clampLimit_pos (limit : Option Int) : 0 < clampLimit limit := by
  rw [clampLimit]
  omega

theorem Ledger.listForWallet_covers {stamp limit : Nat} {before : Option Int}
    (hdistinct : l.CreatedDistinct)
    (hrow : l.rows.lookup key = some { row with updatedAt := stamp }) (hw : row.walletId = some w)
    (hlimit : 0 < limit) :
    Covers row before (l.listForWallet w limit before) := by
  intro record hrecord hbefore
  by_cases hmem : record ∈ l.listForWallet w limit before
  · exact .inl hmem
  · have hlisted : Row.listed { row with updatedAt := stamp } w before = true := by
      rw [Row.listed, Bool.and_eq_true, beq_iff_eq]
      exact ⟨hw, hbefore⟩
    obtain ⟨oldest, hlast, hlt⟩ :=
      Ledger.listForWallet_misses hdistinct hrow hrecord hlimit hlisted hmem
    exact .inr ⟨oldest, hlast, hlt⟩

theorem Reading.begin (h : l.findIdByPubkey pubkey = some w)
    (hψ : ∀ k, late k → ψ k = some ((others k).begin formats)) :
    Reading formats others pubkey w row late ψ l := by
  have hbegin : ∀ {k ph}, late k → ψ k = some ph →
      (∃ p limit before limit' cursor, ph = .findWallet p limit before ∧
      others k = .history p limit' cursor ∧ formats.parseCursor cursor = .ok before ∧ 0 < limit) ∨
      (∃ p, ph = .upsert p) ∨ ∃ e, ph = .answered (.error e) := by
    intro k ph hl hk
    rw [hψ k hl] at hk
    rw [← Option.some.inj hk]
    cases others k with
    | register p =>
      rw [WalletRequest.begin]
      split
      · exact .inr (.inl ⟨p, rfl⟩)
      · exact .inr (.inr ⟨_, rfl⟩)
    | history p limit cursor =>
      rw [WalletRequest.begin]
      split
      · split
        · rename_i before hparse
          exact .inl ⟨p, _, before, limit, cursor, rfl, rfl, hparse, clampLimit_pos limit⟩
        · exact .inr (.inr ⟨_, rfl⟩)
      · exact .inr (.inr ⟨_, rfl⟩)
  refine ⟨h, fun k p limit before hl hk => ?_, fun k walletId limit before hl hk => ?_,
    fun k records limit cursor before hl hk => ?_⟩
  · rcases hbegin hl hk with ⟨p', limit', before', limit'', cursor, hh, ho, hparse,
      hpos⟩ | ⟨p', hh⟩ | ⟨e, hh⟩
    · cases hh
      exact ⟨_, cursor, ho, hparse, hpos⟩
    · cases hh
    · cases hh
  · rcases hbegin hl hk with ⟨_, _, _, _, _, hh, -⟩ | ⟨p', hh⟩ | ⟨e, hh⟩ <;> cases hh
  · rcases hbegin hl hk with ⟨_, _, _, _, _, hh, -⟩ | ⟨p', hh⟩ | ⟨e, hh⟩ <;> cases hh

theorem Reading.execute (h : Reading formats others pubkey w row late ψ l) :
    Reading formats others pubkey w row late ψ (l.execute c v).1 :=
  ⟨Ledger.execute_wallet_kept h.wallet, h.find, h.list, h.answer⟩

theorem Reading.crash [DecidableEq κ] (h : Reading formats others pubkey w row late ψ l) (k : κ) :
    Reading formats others pubkey w row late (Function.update ψ k none) l :=
  ⟨h.wallet, fun j p limit before hl hj => h.find j p limit before hl (crash_cases hj),
    fun j walletId limit before hl hj => h.list j walletId limit before hl (crash_cases hj),
    fun j records limit cursor before hl hj =>
      h.answer j records limit cursor before hl (crash_cases hj)⟩

theorem Reading.move [DecidableEq κ] {k : κ} {ph : WalletPhase}
    {next : c.Reply → WalletPhase} {stamp : Nat}
    (h : Reading formats others pubkey w row late ψ l) (hdistinct : l.CreatedDistinct)
    (hrow : l.rows.lookup key = some { row with updatedAt := stamp }) (hw : row.walletId = some w)
    (hk : ψ k = some ph) (hm : WalletMoves ph c next) :
    Reading formats others pubkey w row late (Function.update ψ k (some (next (l.execute c v).2)))
      (l.execute c v).1 := by
  have hexec : Reading formats others pubkey w row late ψ (l.execute c v).1 := h.execute
  refine ⟨hexec.wallet, fun j p limit before hl hj => ?_, fun j walletId limit before hl hj => ?_,
    fun j records limit cursor before hl hj ho hparse => ?_⟩
  · rcases update_cases hj with ⟨rfl, hnext⟩ | ⟨-, hj⟩
    · exact absurd hnext.symm hm.ne_findWallet
    · exact h.find j p limit before hl hj
  · rcases update_cases hj with ⟨rfl, hnext⟩ | ⟨-, hj⟩
    · obtain ⟨p, rfl, hid⟩ := hm.of_list hnext.symm
      obtain ⟨limit', cursor, ho, hparse, hpos⟩ := h.find j p limit before hl hk
      refine ⟨p, limit', cursor, ho, hparse, hpos, ?_⟩
      rintro rfl
      exact Option.some.inj (hid.symm.trans h.wallet)
    · exact h.list j walletId limit before hl hj
  · rcases update_cases hj with ⟨rfl, hnext⟩ | ⟨-, hj⟩
    · rcases hm.of_transactions hnext.symm with ⟨p, limit', before', rfl, hnone⟩ | ⟨walletId,
        limit', before', rfl, rfl⟩
      · obtain ⟨_, _, ho', -⟩ := h.find j p limit' before' hl hk
        obtain ⟨rfl, -, -⟩ := WalletRequest.history.inj (ho.symm.trans ho')
        rw [h.wallet] at hnone
        cases hnone
      · obtain ⟨p, _, cursor', ho', hparse', hpos, hid⟩ := h.list j walletId limit' before' hl hk
        obtain ⟨rfl, -, rfl⟩ := WalletRequest.history.inj (ho.symm.trans ho')
        obtain rfl : before = before' := Except.ok.inj (hparse.symm.trans hparse')
        obtain rfl : walletId = w := hid rfl
        exact Ledger.listForWallet_covers hdistinct hrow hw hpos
    · exact h.answer j records limit cursor before hl hj ho hparse

end Reading

section Runs

variable {ι κ : Type} [DecidableEq ι] [DecidableEq κ] {sdk : SolanaSdk} {formats : TextFormats}
  {reqs : ι → SubmitRequest} {others : κ → WalletRequest} {key pubkey txid : String}
  {es es' : List ((ι ⊕ κ) × Act Verdict)}

theorem owned_run (hpub : ∀ i, (reqs i).idempotencyKey = key → (reqs i).pubkey = some pubkey)
    (hfound : ∀ t ∈ (api sdk formats (.empty ∅) reqs others).turns Ledger.execute es,
      FindsWallet reqs key t)
    (hnet : ∀ t ∈ (api sdk formats (.empty ∅) reqs others).turns Ledger.execute es,
      Returns reqs key txid t) :
    ∃ φ ψ, ApiStanding sdk reqs φ ψ
      ((api sdk formats (.empty ∅) reqs others).run Ledger.execute es) ∧
      Retried reqs key txid φ ((api sdk formats (.empty ∅) reqs others).run Ledger.execute es).world
        (submissions ((api sdk formats (.empty ∅) reqs others).run Ledger.execute es).log) ∧
      Owned reqs key pubkey φ
        ((api sdk formats (.empty ∅) reqs others).run Ledger.execute es).world := by
  refine api_run (J := fun φ _ l log => Retried reqs key txid φ l log ∧ Owned reqs key pubkey φ l)
    (fun t => FindsWallet reqs key t ∧
      Returns reqs key txid t) ?_ ?_ ?_ ?_ (api_standing sdk formats _ reqs others)
    ⟨Retried.begin ∅, Owned.begin ∅⟩ fun t ht => ⟨hfound t ht, hnet t ht⟩
  · rintro φ ψ p i ph c next v ⟨hretried, howned⟩ hi hm ⟨hfinds, hreturns⟩
    exact ⟨hretried.move hi hm fun hk b hc => hreturns i b rfl hk hc,
      howned.move hpub hi hm fun hk p hc => hfinds i p rfl hk hc⟩
  · rintro φ ψ p k ph c next v ⟨hretried, howned⟩ - hm -
    exact ⟨hretried.other hm, howned.other hm⟩
  · rintro φ ψ l log i ⟨hretried, howned⟩
    exact ⟨hretried.crash i, howned.crash i⟩
  · rintro φ ψ l log k hj
    exact hj

omit [DecidableEq ι] [DecidableEq κ] in
theorem ApiStanding.restart {φ : ι → Option Phase} {ψ : κ → Option WalletPhase} {p : ApiPool ι κ}
    (h : ApiStanding sdk reqs φ ψ p) {late : κ → Prop}
    (hlate : ∀ k, late k → p.thread (.inr k) = some (apiProgram sdk formats reqs others (.inr k))) :
    ∃ ψ', ApiStanding sdk reqs φ ψ' p ∧ ∀ k, late k → ψ' k = some ((others k).begin formats) := by
  classical
  refine ⟨fun k => if late k then some ((others k).begin formats) else ψ k,
    ⟨h.submits, fun k => ?_⟩, fun k hk => if_pos hk⟩
  by_cases hk : late k
  · rw [if_pos hk, hlate k hk, apiProgram, run_handle, Option.map_some]
  · rw [if_neg hk]
    exact h.others k

omit [DecidableEq ι] [DecidableEq κ] in
/-- A row that every page covers is on one of them. -/
theorem Pages.shows {p : ApiPool ι κ} {late : κ → Prop} {row : Row} {record : Record}
    {before : Option Int}
    {records : List Record} (hcovers : ∀ k records limit cursor before, late k →
      p.answer (.inr k) = some (.ok (.inr (.transactions records))) →
      others k = .history pubkey limit cursor →
      formats.parseCursor cursor = .ok before → Covers row before records)
    (hrecord : row.record = some record)
    (hpages : Pages formats others p late pubkey before records)
    (hbefore : before.all (fun instant => (row.createdAt : Int) < instant) = true) :
    record ∈ records := by
  induction hpages with
  | last hlate ho hparse hanswer =>
    rcases hcovers _ _ _ _ _ hlate hanswer ho hparse record hrecord
      hbefore with hmem | ⟨oldest, hlast, -⟩
    · exact hmem
    · cases hlast
  | page hlate ho hparse hanswer hoff _ ih =>
    rcases hcovers _ _ _ _ _ hlate hanswer ho hparse record hrecord
      hbefore with hmem | ⟨oldest, hlast, hlt⟩
    · exact List.mem_append_left _ hmem
    · obtain rfl := Option.some.inj (hoff.symm.trans hlast)
      refine List.mem_append_right _ (ih ?_)
      rw [Option.all_some, decide_eq_true_eq]
      exact Int.ofNat_lt.mpr hlt

/-- What is paid under one key by a sender registered before is in the history of the sender. -/
theorem history_complete (hpub : ∀ i, (reqs i).idempotencyKey = key → (reqs i).pubkey = some pubkey)
    (hfound : ∀ t ∈ (api sdk formats (.empty ∅) reqs others).turns Ledger.execute es,
      FindsWallet reqs key t)
    (hnet : ∀ t ∈ (api sdk formats (.empty ∅) reqs others).turns Ledger.execute (es ++ es'),
      Returns reqs key txid t)
    {i : ι} (hk : (reqs i).idempotencyKey = key) :
    Shown sdk formats reqs others pubkey es es' i := by
  intro r records hanswer _ hdistinct hpages
  rw [Pool.turns_append] at hnet
  set p := (api sdk formats (.empty ∅) reqs others).run Ledger.execute es with hp
  obtain ⟨φ, ψ, hst, hretried, howned⟩ :=
    owned_run hpub hfound fun t ht => hnet t (List.mem_append_left _ ht)
  have hphase := hst.submitted hanswer
  obtain ⟨s, hs⟩ := Option.ne_none_iff_exists'.mp (howned.answer i r hk hphase)
  obtain ⟨row, hrow, -⟩ := Ledger.signatureOf_eq_some.mp hs
  obtain ⟨w, hw, hid⟩ := howned.row row hrow
  have hsigned : row.signature = some txid ∧ row.status = "submitted" := by
    refine (hretried.row row hrow).resolve_left fun hnone => ?_
    obtain ⟨row', hrow', hsig⟩ := Ledger.signatureOf_eq_some.mp hs
    rw [Option.some.inj (hrow.symm.trans hrow'), hsig] at hnone
    cases hnone
  have hlate : ∀ k, (∀ e ∈ es, e.1 ≠ .inr k) →
      p.thread (.inr k) = some (apiProgram sdk formats reqs others (.inr k)) :=
    fun k hk => Pool.thread_run hk
  obtain ⟨ψ', hst', hbegin⟩ := hst.restart hlate
  have hsettled : Settled reqs key row (fun _ => False) φ p.world (submissions p.log) :=
    ⟨⟨row.updatedAt, hrow⟩, fun _ _ hl => absurd hl id, fun _ _ hl => absurd hl id⟩
  obtain ⟨φ'', ψ'', hst'', -, -, hreading⟩ := api_run
    (J := fun φ ψ l log => Retried reqs key txid φ l log ∧
      Settled reqs key row (fun _ => False) φ l log ∧
      Reading formats others pubkey w row (fun k => ∀ e ∈ es, e.1 ≠ .inr k) ψ l)
    (fun t => Returns reqs key txid t ∧ t.pool.world.CreatedDistinct)
    (fun φ ψ p i ph c next v hj hi hm hok => ⟨hj.1.move hi hm fun hk b hc => hok.1 i b rfl hk hc,
      hj.2.1.move hsigned hj.1 hi hm, hj.2.2.execute⟩)
    (fun φ ψ p k ph c next v hj hi hm hok => by
      obtain ⟨stamp, hkept⟩ := hj.2.1.kept
      exact ⟨hj.1.other hm, hj.2.1.other hm, hj.2.2.move hok.2 hkept hw hi hm⟩)
    (fun φ ψ l log i hj => ⟨hj.1.crash i, hj.2.1.crash i, hj.2.2⟩)
    (fun φ ψ l log k hj => ⟨hj.1, hj.2.1, hj.2.2.crash k⟩)
    hst' ⟨hretried, hsettled, Reading.begin hid hbegin⟩
    fun t ht => ⟨hnet t (List.mem_append_right _ ht), hdistinct t ht⟩
  have hrecord : row.record =
      some ⟨txid, row.status, row.toAddress, row.amount, row.mint, row.createdAt⟩ := by
    rw [Row.record, hsigned.1, Option.map_some]
  refine ⟨_, Pages.shows (fun k records limit cursor before hl ha => ?_) hrecord hpages rfl, ?_⟩
  · exact hreading.answer k records limit cursor before hl (hst''.answered ha)
  · exact (hretried.answer i r.signature r.status hk hphase).symm

end Runs

open Reference

def epochFormats : TextFormats :=
  ⟨Base58.decode, fun cursor => if cursor = "1970-01-01T00:00:00Z" then some 0 else none⟩

def senderRequest : Option (Option String) → WalletRequest
  | none => .register senderAddress
  | some cursor => .history senderAddress none cursor

abbrev SenderEvent := (Unit ⊕ Option (Option String)) × Act Verdict

def sendEvents : List SenderEvent :=
  [served, served, served, landed false, served].map fun v => (.inl (), .step v)

def registerEvent : SenderEvent := (.inr none, .step served)

def historyEvents (cursor : Option String) : List SenderEvent :=
  [(.inr (some cursor), .step served), (.inr (some cursor), .step served)]

def senderPool : ApiPool Unit (Option (Option String)) :=
  api sampleSdk epochFormats (.empty ∅) (fun _ => submitTransfer false "send-1") senderRequest

theorem senderPool_eq : senderPool = Pool.start (.empty ∅) (Sum.elim
    (fun _ => Except.map .inl <$>
      (lookUp lenientSdk (submitTransfer false "send-1") (signedTransfer false)).run)
    fun k => Except.map .inr <$> (epochFormats.handle (senderRequest k)).run) :=
  api_of_decode (fun _ => Base64.decode_encode _) fun _ => validate_signedTransfer false

theorem senderPool_answers :
    (senderPool.run Ledger.execute (registerEvent :: sendEvents)).answer (.inl ()) =
        some (.ok (.inl ⟨signatureText false, "submitted"⟩)) ∧
      (senderPool.run Ledger.execute (sendEvents ++ [registerEvent])).answer (.inl ()) =
        some (.ok (.inl ⟨signatureText false, "submitted"⟩)) := by
  rw [senderPool_eq]
  decide +kernel

theorem senderPool_registered :
    (senderPool.run Ledger.execute (registerEvent :: sendEvents)).world.findIdByPubkey
      senderAddress ≠ none ∧
      (senderPool.run Ledger.execute (sendEvents ++ [registerEvent])).world.findIdByPubkey
        senderAddress ≠ none := by
  rw [senderPool_eq]
  decide +kernel

theorem distinct_of_one_key {ι κ : Type} [DecidableEq ι] [DecidableEq κ] {sdk : SolanaSdk}
    {formats : TextFormats}
    {reqs : ι → SubmitRequest} {others : κ → WalletRequest} {key : String}
    (hkey : ∀ i, (reqs i).idempotencyKey = key)
    {es es' : List ((ι ⊕ κ) × Act Verdict)} :
    ∀ t ∈ ((api sdk formats (.empty ∅) reqs others).run Ledger.execute es).turns Ledger.execute es',
      t.pool.world.CreatedDistinct := by
  intro t ht k k' row row' hrow hrow' _
  obtain ⟨before, after, -, hp⟩ := Pool.turns_pool ht
  rw [hp, ← Pool.run_append] at hrow hrow'
  obtain ⟨φ, ψ, -, htraced⟩ := traced_run sdk formats reqs others (es ++ before)
  obtain ⟨i, hk, -⟩ := htraced.claims.row k row hrow
  obtain ⟨i', hk', -⟩ := htraced.claims.row k' row' hrow'
  calc k = key := hk.symm.trans (hkey i)
    _ = k' := (hkey i').symm.trans hk'

def sentRecord : Record :=
  ⟨signatureText false, "submitted", some destAddress, some "1000000", none, 0⟩

theorem registered_pages :
    ((senderPool.run Ledger.execute (registerEvent :: sendEvents)).run Ledger.execute
        (historyEvents none ++ historyEvents (some "1970-01-01T00:00:00Z"))).answer
          (.inr (some none)) =
        some (.ok (.inr (.transactions [sentRecord]))) ∧
      ((senderPool.run Ledger.execute (registerEvent :: sendEvents)).run Ledger.execute
        (historyEvents none ++ historyEvents (some "1970-01-01T00:00:00Z"))).answer
          (.inr (some (some "1970-01-01T00:00:00Z"))) = some (.ok (.inr (.transactions []))) ∧
      ((senderPool.run Ledger.execute (sendEvents ++ [registerEvent])).run Ledger.execute
        (historyEvents none)).answer
        (.inr (some none)) = some (.ok (.inr (.transactions []))) := by
  rw [senderPool_eq]
  decide +kernel

theorem registered_finds :
    ∀ t ∈ senderPool.turns Ledger.execute (registerEvent :: sendEvents),
      FindsWallet (fun _ : Unit => submitTransfer false "send-1") "send-1" t := by
  have hall : ((senderPool.turns Ledger.execute (registerEvent :: sendEvents)).all fun t =>
      match t.call with
      | .findIdByPubkey pubkey => (t.pool.world.findIdByPubkey pubkey).isSome
      | _ => true) = true := by
    rw [senderPool_eq]
    rfl
  intro t ht _ pubkey _ _ hc
  have hfound := List.all_eq_true.mp hall t ht
  rw [hc] at hfound
  exact Option.ne_none_iff_isSome.mpr hfound

theorem senderPool_returns {es : List SenderEvent}
    (hes : ∀ e ∈ es, e.2 = .step served ∨ e.2 = .step (landed false)) :
    ∀ t ∈ senderPool.turns Ledger.execute es,
      Returns (fun _ : Unit => submitTransfer false "send-1") "send-1" (signatureText false) t := by
  intro t ht _ b _ _ _ s hs
  rcases hes _ (Pool.turns_event ht) with he | he
  · rw [(Act.step.inj he)] at hs
    cases hs
  · rw [(Act.step.inj he)] at hs
    exact (Except.ok.inj hs).symm

/-- The first page after the registration and the payment, and the empty one behind it. -/
def readEvents : List SenderEvent :=
  historyEvents none ++ historyEvents (some "1970-01-01T00:00:00Z")

theorem history_complete_registered :
    Shown sampleSdk epochFormats (fun _ : Unit => submitTransfer false "send-1")
      senderRequest senderAddress
        (registerEvent :: sendEvents) readEvents () ∧
      Pages epochFormats senderRequest
        ((senderPool.run Ledger.execute (registerEvent :: sendEvents)).run
          Ledger.execute readEvents)
        (fun k => ∀ e ∈ registerEvent :: sendEvents, e.1 ≠ .inr k) senderAddress none [sentRecord] ∧
      ∃ record ∈ [sentRecord], record.signature = signatureText false := by
  have hreturns :
      ∀ t ∈ senderPool.turns Ledger.execute ((registerEvent :: sendEvents) ++ readEvents),
      Returns (fun _ : Unit => submitTransfer false "send-1") "send-1" (signatureText false) t :=
    senderPool_returns (by simp [readEvents, registerEvent, sendEvents, historyEvents])
  have hshown : Shown sampleSdk epochFormats (fun _ : Unit => submitTransfer false "send-1")
      senderRequest senderAddress
      (registerEvent :: sendEvents) readEvents () :=
    history_complete (fun _ _ => rfl) registered_finds hreturns rfl
  have hlast : Pages epochFormats senderRequest
      ((senderPool.run Ledger.execute (registerEvent :: sendEvents)).run Ledger.execute readEvents)
      (fun k => ∀ e ∈ registerEvent :: sendEvents, e.1 ≠ .inr k) senderAddress (some 0) [] :=
    .last (k := some (some "1970-01-01T00:00:00Z")) (by simp [registerEvent, sendEvents]) rfl
      rfl registered_pages.2.1
  have hpages : Pages epochFormats senderRequest
      ((senderPool.run Ledger.execute (registerEvent :: sendEvents)).run Ledger.execute readEvents)
      (fun k => ∀ e ∈ registerEvent :: sendEvents, e.1 ≠ .inr k) senderAddress none [sentRecord] :=
    .page (k := some none) (by simp [registerEvent, sendEvents]) rfl rfl
      registered_pages.1 rfl hlast
  exact ⟨hshown, hpages,
    hshown _ _ senderPool_answers.1 senderPool_registered.1
      (distinct_of_one_key fun _ => rfl) hpages⟩

def party (payee : Bool) : String := if payee then destAddress else senderAddress

/-- Sender and payee submit the payment under one key, each in their own name. -/
def sharedKey (payee : Bool) : SubmitRequest := claimTransfer (party payee) destAddress "1000000"

def partyRequest : Option Bool → WalletRequest
  | some payee => .register (party payee)
  | none => .history senderAddress none none

def sharedPool : ApiPool Bool (Option Bool) :=
  api sampleSdk epochFormats (.empty ∅) sharedKey partyRequest

/-- Both are registered; the payee's submission lands, and the sender's finds it. -/
def sharedEvents : List ((Bool ⊕ Option Bool) × Act Verdict) :=
  [(.inr (some true), .step served), (.inr (some false), .step served)] ++
    ([served, served, served, landed false, served].map fun v => (.inl true, .step v)) ++
      [(.inl false, .step served)]

theorem sharedPool_eq : sharedPool = Pool.start (.empty ∅) (Sum.elim
    (fun payee => Except.map .inl <$>
      (lookUp lenientSdk (sharedKey payee) (signedTransfer false)).run)
    fun k => Except.map .inr <$> (epochFormats.handle (partyRequest k)).run) :=
  api_of_decode (fun _ => decode_claimTransfer _ _ _) fun _ => validate_signedTransfer false

theorem sharedPool_answers :
    (sharedPool.run Ledger.execute sharedEvents).answer (.inl false) =
        some (.ok (.inl ⟨signatureText false, "submitted"⟩)) ∧
      (sharedPool.run Ledger.execute sharedEvents).world.findIdByPubkey senderAddress ≠ none ∧
      ((sharedPool.run Ledger.execute sharedEvents).run Ledger.execute
        [(.inr none, .step served), (.inr none, .step served)]).answer (.inr none) =
        some (.ok (.inr (.transactions []))) := by
  rw [sharedPool_eq]
  decide +kernel

/-- A payment made before the registration stays out of the history after it, and so
does one whose key another public key has claimed. -/
theorem unattributed_missing :
    ¬ Shown sampleSdk epochFormats (fun _ : Unit => submitTransfer false "send-1")
      senderRequest senderAddress
        (sendEvents ++ [registerEvent]) (historyEvents none) () ∧
      ¬ Shown sampleSdk epochFormats sharedKey partyRequest senderAddress sharedEvents
        [(.inr none, .step served), (.inr none, .step served)] false := by
  constructor
  · intro h
    obtain ⟨record, hrecord, -⟩ :=
      h _ [] senderPool_answers.2 senderPool_registered.2 (distinct_of_one_key fun _ => rfl)
      (.last (k := some none) (by simp [registerEvent, sendEvents]) rfl rfl registered_pages.2.2)
    cases hrecord
  · intro h
    have hkey : ∀ payee, (sharedKey payee).idempotencyKey = "send-1" := fun _ => rfl
    obtain ⟨record, hrecord, -⟩ :=
      h _ [] sharedPool_answers.1 sharedPool_answers.2.1 (distinct_of_one_key hkey)
      (.last (k := none) (by simp [sharedEvents]) rfl rfl sharedPool_answers.2.2)
    cases hrecord

end Xend
