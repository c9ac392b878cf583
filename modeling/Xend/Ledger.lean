import Mathlib.Data.List.AList
import Mathlib.Data.List.MinMax
import Xend.Adapter

/-! The `transactions` table and the wallets it refers to. Rows are keyed by
`idempotency_key`, so its UNIQUE constraint holds by construction; the one on
`signature` is a field. -/

namespace Xend

structure Row where
  walletId : Option Nat
  signature : Option String
  status : String
  toAddress : Option String
  amount : Option String
  mint : Option String
  createdAt : Nat
  updatedAt : Nat
  deriving DecidableEq

structure Record where
  signature : String
  status : String
  toAddress : Option String
  amount : Option String
  mint : Option String
  createdAt : Nat
  deriving DecidableEq

def Row.record (row : Row) : Option Record :=
  row.signature.map fun signature =>
    ⟨signature, row.status, row.toAddress, row.amount, row.mint, row.createdAt⟩

/-- Whether the row belongs on a page: the wallet's, and from before the cursor. -/
def Row.listed (row : Row) (walletId : Nat) (before : Option Int) : Bool :=
  row.walletId == some walletId && before.all fun instant => (row.createdAt : Int) < instant

structure Existing where
  signature : Option String
  status : String
  deriving DecidableEq

abbrev Rows := AList fun _ : String => Row

def SignatureUnique (rows : Rows) : Prop :=
  ∀ k k' r r' s, rows.lookup k = some r → rows.lookup k' = some r' → r.signature = some s →
    r'.signature = some s → k = k'

theorem SignatureUnique.insert {rows : Rows} {key : String} {row : Row} (h : SignatureUnique rows)
    (hfree : ∀ k r s, k ≠ key → rows.lookup k = some r → r.signature = some s →
      row.signature ≠ some s) :
    SignatureUnique (rows.insert key row) := by
  intro k k' r r' s hr hr' hs hs'
  by_cases hk : k = key
  · by_cases hk' : k' = key
    · exact hk.trans hk'.symm
    · subst hk
      rw [AList.lookup_insert] at hr
      rw [AList.lookup_insert_ne hk'] at hr'
      exact absurd (by rw [Option.some.inj hr]; exact hs) (hfree k' r' s hk' hr' hs')
  · rw [AList.lookup_insert_ne hk] at hr
    by_cases hk' : k' = key
    · subst hk'
      rw [AList.lookup_insert] at hr'
      exact absurd (by rw [Option.some.inj hr']; exact hs') (hfree k r s hk hr hs)
    · rw [AList.lookup_insert_ne hk'] at hr'
      exact h k k' r r' s hr hr' hs hs'

structure Ledger where
  wallets : AList fun _ : String => Nat
  rows : Rows
  signature_unique : SignatureUnique rows

namespace Ledger

def empty (wallets : AList fun _ : String => Nat) : Ledger :=
  ⟨wallets, ∅, by simp [SignatureUnique]⟩

def findByIdempotency (l : Ledger) (idempotencyKey : String) : Option Existing :=
  (l.rows.lookup idempotencyKey).map fun row => ⟨row.signature, row.status⟩

def findIdByPubkey (l : Ledger) (pubkey : String) : Option Nat := l.wallets.lookup pubkey

/-- An id that no wallet has, as a new UUID is. -/
def freshId (wallets : AList fun _ : String => Nat) : Nat :=
  (wallets.entries.map (·.2)).foldr max 0 + 1

/-- Registers a key, or finds it registered. -/
def upsert (l : Ledger) (pubkey : String) : Ledger × Nat :=
  match l.wallets.lookup pubkey with
  | some walletId => (l, walletId)
  | none => ({ l with wallets := l.wallets.insert pubkey (freshId l.wallets) }, freshId l.wallets)

/-- The signed rows of a wallet from before an instant, the latest first. -/
def listForWallet (l : Ledger) (walletId limit : Nat) (before : Option Int) : List Record :=
  ((l.rows.entries.filterMap fun e => if e.2.listed walletId before then e.2.record
    else none).mergeSort
    fun a b => decide (b.createdAt ≤ a.createdAt)).take limit

def signatureOf (l : Ledger) (idempotencyKey : String) : Option String :=
  (l.findByIdempotency idempotencyKey).bind (·.signature)

/-- `on conflict (idempotency_key) do nothing`. -/
def insertPending (l : Ledger) (walletId : Option Nat) (idempotencyKey : String)
    (toAddress amount mint : Option String) (now : Nat) : Ledger :=
  if idempotencyKey ∈ l.rows then l else
    { l with
      rows := l.rows.insert idempotencyKey ⟨walletId, none, "pending", toAddress,
        amount, mint, now, now⟩
      signature_unique := l.signature_unique.insert (by simp) }

/-- The row of another key already carries the signature. -/
def Taken (l : Ledger) (idempotencyKey signature : String) : Prop :=
  ∃ k, k ≠ idempotencyKey ∧ l.signatureOf k = some signature

@[simp] theorem upsert_rows (l : Ledger) (pubkey : String) : (l.upsert pubkey).1.rows = l.rows := by
  unfold upsert
  split <;> rfl

theorem lt_freshId {wallets : AList fun _ : String => Nat} {pubkey : String} {walletId : Nat}
    (h : wallets.lookup pubkey = some walletId) : walletId < freshId wallets := by
  have hmem : walletId ∈ wallets.entries.map (·.2) :=
    List.mem_map.mpr ⟨⟨pubkey, walletId⟩, AList.mem_lookup_iff.mp h, rfl⟩
  exact Nat.lt_succ_of_le (List.le_max_of_le' 0 hmem le_rfl)

theorem upsert_findIdByPubkey (l : Ledger) (pubkey p : String) :
    (l.upsert pubkey).1.findIdByPubkey p = l.findIdByPubkey p ∨
      p = pubkey ∧ l.findIdByPubkey p = none ∧
      (l.upsert pubkey).1.findIdByPubkey p = some (freshId l.wallets) := by
  unfold upsert
  split
  · exact .inl rfl
  · rename_i hnone
    by_cases hp : p = pubkey
    · subst hp
      exact .inr ⟨rfl, hnone, AList.lookup_insert _⟩
    · exact .inl (AList.lookup_insert_ne hp)

theorem upsert_finds (l : Ledger) (pubkey : String) :
    (l.upsert pubkey).1.findIdByPubkey pubkey = some (l.upsert pubkey).2 := by
  unfold upsert
  split
  · assumption
  · exact AList.lookup_insert _

theorem latest_first (records : List Record) :
    (records.mergeSort fun a b => decide (b.createdAt ≤ a.createdAt)).Pairwise fun a b =>
      b.createdAt ≤ a.createdAt := by
  have hsorted : (records.mergeSort fun a b => decide (b.createdAt ≤ a.createdAt)).Pairwise
      fun a b => decide (b.createdAt ≤ a.createdAt) = true :=
    List.pairwise_mergeSort (fun a b c hab hbc => by
      simp only [decide_eq_true_eq] at hab hbc ⊢; omega)
      (fun a b => by simp only [Bool.or_eq_true, decide_eq_true_eq]; omega) records
  exact hsorted.imp fun hab => of_decide_eq_true hab

theorem mem_listForWallet {l : Ledger} {walletId limit : Nat}
    {before : Option Int} {record : Record}
    (h : record ∈ l.listForWallet walletId limit before) :
    ∃ key row, l.rows.lookup key = some row ∧ row.walletId = some walletId ∧
    row.record = some record := by
  have hsorted := (List.take_sublist _ _).mem h
  rw [List.mem_mergeSort, List.mem_filterMap] at hsorted
  obtain ⟨⟨key, row⟩, he, hrow⟩ := hsorted
  split at hrow
  · rename_i hlisted
    rw [Row.listed, Bool.and_eq_true, beq_iff_eq] at hlisted
    exact ⟨key, row, AList.mem_lookup_iff.mpr he, hlisted.1, hrow⟩
  · cases hrow

theorem signatureOf_eq_some {l : Ledger} {k s : String} :
    l.signatureOf k = some s ↔ ∃ r, l.rows.lookup k = some r ∧ r.signature = some s := by
  cases h : l.rows.lookup k <;> simp [signatureOf, findByIdempotency, h]

theorem taken_iff {l : Ledger} {key s : String} :
    l.Taken key s ↔ ∃ e ∈ l.rows.entries, e.1 ≠ key ∧ e.2.signature = some s := by
  constructor
  · rintro ⟨k, hk, hs⟩
    obtain ⟨r, hr, hrs⟩ := signatureOf_eq_some.mp hs
    exact ⟨⟨k, r⟩, AList.mem_lookup_iff.mp hr, hk, hrs⟩
  · rintro ⟨⟨k, r⟩, he, hk, hrs⟩
    exact ⟨k, hk, signatureOf_eq_some.mpr ⟨r, AList.mem_lookup_iff.mpr he, hrs⟩⟩

instance (l : Ledger) (key s : String) : Decidable (l.Taken key s) :=
  decidable_of_iff _ taken_iff.symm

/-- A signature that another row carries violates `transactions_signature_key`;
a key without a row is updated nowhere. -/
def markSubmitted (l : Ledger) (idempotencyKey signature : String) (now : Nat) :
    Except AppError Ledger :=
  match l.rows.lookup idempotencyKey with
  | none => .ok l
  | some row =>
    if h : l.Taken idempotencyKey signature then
      .error (.database
        "duplicate key value violates unique constraint \"transactions_signature_key\"")
    else .ok
      { l with
        rows := l.rows.insert idempotencyKey
          { row with signature := some signature, status := "submitted", updatedAt := now }
        signature_unique := l.signature_unique.insert fun k r _ hk hr hs he =>
          h ⟨k, hk, signatureOf_eq_some.mpr ⟨r, hr, hs.trans he.symm⟩⟩ }

section Lookup

variable {l l' : Ledger} {walletId : Option Nat} {key signature : String}
  {toAddress amount mint : Option String} {now : Nat}

theorem insertPending_find_ne {k : String} (hk : k ≠ key) :
    (l.insertPending walletId key toAddress amount mint now).findByIdempotency k =
      l.findByIdempotency k := by
  unfold insertPending
  split
  · rfl
  · simp [findByIdempotency, AList.lookup_insert_ne hk]

theorem insertPending_find_self :
    (l.insertPending walletId key toAddress amount mint now).findByIdempotency key =
      some ((l.findByIdempotency key).getD ⟨none, "pending"⟩) := by
  unfold insertPending
  split
  · rename_i h
    obtain ⟨r, hr⟩ := Option.isSome_iff_exists.mp (AList.lookup_isSome.mpr h)
    simp [findByIdempotency, hr]
  · rename_i h
    simp [findByIdempotency, AList.lookup_insert, AList.lookup_eq_none.mpr h]

theorem insertPending_wallets :
    (l.insertPending walletId key toAddress amount mint now).wallets = l.wallets := by
  unfold insertPending
  split <;> rfl

@[simp] theorem insertPending_signatureOf (k : String) :
    (l.insertPending walletId key toAddress amount mint now).signatureOf k = l.signatureOf k := by
  by_cases hk : k = key
  · subst hk
    rw [signatureOf, insertPending_find_self, signatureOf]
    cases l.findByIdempotency k <;> rfl
  · rw [signatureOf, insertPending_find_ne hk, signatureOf]

theorem insertPending_row (l : Ledger) (walletId : Option Nat) (key : String)
    (toAddress amount mint : Option String)
    (now : Nat) (k : String) :
    (l.insertPending walletId key toAddress amount mint now).rows.lookup k = l.rows.lookup k ∨
      k = key ∧ l.rows.lookup key = none ∧
        (l.insertPending walletId key toAddress amount mint now).rows.lookup k =
          some ⟨walletId, none, "pending", toAddress, amount, mint, now, now⟩ := by
  unfold insertPending
  split
  · exact .inl rfl
  · rename_i hnot
    by_cases hk : k = key
    · subst hk
      exact .inr ⟨rfl, AList.lookup_eq_none.mpr hnot, AList.lookup_insert _⟩
    · exact .inl (AList.lookup_insert_ne hk)

theorem markSubmitted_row (h : l.markSubmitted key signature now = .ok l') :
    (l.rows.lookup key = none ∧ l' = l) ∨
      ∃ row, l.rows.lookup key = some row ∧ ¬ l.Taken key signature ∧
        l'.rows.lookup key =
          some { row with signature := some signature, status := "submitted", updatedAt := now } ∧
        ∀ k, k ≠ key → l'.rows.lookup k = l.rows.lookup k := by
  unfold markSubmitted at h
  split at h
  · rename_i hn
    exact .inl ⟨hn, (Except.ok.inj h).symm⟩
  · rename_i row hrow
    split at h
    · cases h
    · rename_i htaken
      cases h
      exact .inr ⟨row, hrow, htaken, AList.lookup_insert _, fun k hk => AList.lookup_insert_ne hk⟩

theorem markSubmitted_eq_ok (h : l.markSubmitted key signature now = .ok l') :
    (l.findByIdempotency key = none ∧ l' = l) ∨
      ((∃ e, l.findByIdempotency key = some e) ∧ ¬ l.Taken key signature ∧
        l'.findByIdempotency key = some ⟨some signature, "submitted"⟩ ∧
        ∀ k, k ≠ key → l'.findByIdempotency k = l.findByIdempotency k) := by
  rcases markSubmitted_row h with ⟨hn, hl⟩ | ⟨row, hrow, htaken, hself, hne⟩
  · exact .inl ⟨by rw [findByIdempotency, hn]; rfl, hl⟩
  · refine .inr ⟨⟨_, by rw [findByIdempotency, hrow]; rfl⟩, htaken,
      by rw [findByIdempotency, hself]; rfl, fun k hk => ?_⟩
    rw [findByIdempotency, hne k hk, findByIdempotency]

theorem markSubmitted_eq_error {e : AppError} (h : l.markSubmitted key signature now = .error e) :
    e = .database
      "duplicate key value violates unique constraint \"transactions_signature_key\"" := by
  unfold markSubmitted at h
  split at h
  · cases h
  · split at h
    · exact (Except.error.inj h).symm
    · cases h

theorem markSubmitted_wallets (h : l.markSubmitted key signature now = .ok l') :
    l'.wallets = l.wallets := by
  unfold markSubmitted at h
  split at h
  · cases h
    rfl
  · split at h <;> cases h
    rfl

theorem markSubmitted_isOk (now : Nat) :
    (∃ l', l.markSubmitted key signature now = .ok l') ↔
      l.findByIdempotency key = none ∨ ¬ l.Taken key signature := by
  unfold markSubmitted
  split
  · rename_i hn
    simp [findByIdempotency, hn]
  · rename_i row hrow
    by_cases ht : l.Taken key signature
    · simp [ht, findByIdempotency, hrow]
    · simp [ht]

end Lookup

end Ledger

end Xend
