import Xend.CompleteHistory
import Xend.Paging
import Xend.Rejection

/-! The history endpoint read to its end, with the `created_at` of the last record of
each page as the cursor of the next, while the ledger stays as it is. -/

namespace Xend

open Interaction Paging

namespace Ledger

/-- The signed rows of a wallet, in no particular order. -/
def signedOf (l : Ledger) (walletId : Nat) : List Record :=
  l.rows.entries.filterMap fun e => if e.2.walletId == some walletId then e.2.record else none

def historyPage (formats : TextFormats) (l : Ledger) (v : Verdict) (pubkey : String) (limit : Nat)
    (cursor : Option String) :
    Ledger × Except AppError WalletResponse :=
  (formats.handle (.history pubkey (some limit) cursor)).run.answered Ledger.execute (fun _ => v) l

/-- The concatenated pages up to an empty one; `rfc3339` is how a response writes
`created_at`. -/
def readHistory (formats : TextFormats) (rfc3339 : Nat → String) (l : Ledger) (v : Verdict)
    (pubkey : String) (limit : Nat) :
    Nat → Option String → Option (List Record)
  | 0, _ => none
  | fuel + 1, cursor =>
    match (l.historyPage formats v pubkey limit cursor).2 with
    | .ok (.transactions records) =>
      match records.getLast? with
      | none => some []
      | some oldest =>
        (readHistory formats rfc3339 l v pubkey limit fuel (some (rfc3339 oldest.createdAt))).map
          (records ++ ·)
    | _ => none

end Ledger

section Pages

variable {formats : TextFormats} {rfc3339 : Nat → String} {l : Ledger} {v : Verdict}
    {pubkey : String} {walletId limit : Nat}

def Ledger.fetch (l : Ledger) (walletId limit : Nat) (before : Option Nat) : List Record :=
  l.listForWallet walletId limit (before.map Int.ofNat)

theorem listed_eq (row : Row) (walletId : Nat) (before : Option Nat) :
    row.listed walletId (before.map Int.ofNat) =
      (row.walletId == some walletId && before.all fun t => decide (row.createdAt < t)) := by
  cases before with
  | none => rfl
  | some t => simp [Row.listed]

theorem filterMap_listed (l : Ledger) (walletId : Nat) (before : Option Nat) :
    (l.rows.entries.filterMap fun e => if e.2.listed walletId (before.map Int.ofNat) then e.2.record
      else none) =
      (l.signedOf walletId).filter (earlier Record.createdAt before) := by
  unfold Ledger.signedOf
  rw [List.filter_filterMap]
  apply List.filterMap_congr
  intro e _
  rw [listed_eq]
  cases hwallet : e.2.walletId == some walletId with
  | false => simp
  | true =>
    cases hrecord : e.2.record with
    | none => simp
    | some record =>
      have hcreated := Row.record_createdAt hrecord
      simp [earlier, hcreated, Option.filter]

theorem fetch_isPage (l : Ledger) (walletId limit : Nat) (before : Option Nat) :
    IsPage Record.createdAt (l.signedOf walletId) limit before (l.fetch walletId limit before) := by
  refine ⟨((l.signedOf walletId).filter (earlier Record.createdAt before)).mergeSort
    fun a b => decide (b.createdAt ≤ a.createdAt), List.mergeSort_perm _ _,
    Ledger.latest_first _, ?_⟩
  rw [Ledger.fetch, Ledger.listForWallet, filterMap_listed]

/-- A page is read without a trace in the ledger. -/
theorem historyPage_eq (ho : v.outage = none)
    (hvalid : validateSolanaPubkey formats.bs58 pubkey = .ok ())
    (hwallet : l.findIdByPubkey pubkey = some walletId) (hone : 1 ≤ limit) (hhundred : limit ≤ 100)
    {cursor : Option String} {before : Option Nat}
    (hcursor : formats.parseCursor cursor = .ok (before.map Int.ofNat)) :
    l.historyPage formats v pubkey limit cursor =
      (l, .ok (.transactions (l.fetch walletId limit before))) := by
  have hclamp : clampLimit (some (limit : Int)) = limit := by
    simp only [clampLimit, Option.getD_some]
    omega
  rw [Ledger.historyPage, run_handle, WalletRequest.begin, hvalid]
  simp only [hcursor, hclamp]
  rw [WalletPhase.resume_findWallet, Prog.answered, Ledger.execute_of_no_outage ho]
  simp only [Ledger.serve, hwallet, WalletPhase.afterFindWallet]
  rw [WalletPhase.resume_list, Prog.answered, Ledger.execute_of_no_outage ho]
  rfl

theorem parseCursor_map {before : Option Nat}
    (h : ∀ t ∈ before, formats.parseFromRfc3339 (rfc3339 t) = some (t : Int)) :
    formats.parseCursor (before.map rfc3339) = .ok (before.map Int.ofNat) := by
  cases before with
  | none => rfl
  | some t =>
    have hparse := h t rfl
    simp only [Option.map_some, TextFormats.parseCursor, hparse]
    rfl

theorem readHistory_eq (ho : v.outage = none)
    (hvalid : validateSolanaPubkey formats.bs58 pubkey = .ok ())
    (hwallet : l.findIdByPubkey pubkey = some walletId) (hone : 1 ≤ limit) (hhundred : limit ≤ 100)
    (hformat : ∀ record ∈ l.signedOf walletId,
      formats.parseFromRfc3339 (rfc3339 record.createdAt) = some (record.createdAt : Int))
    (fuel : Nat) {before : Option Nat}
    (hbefore : ∀ t ∈ before, formats.parseFromRfc3339 (rfc3339 t) = some (t : Int)) :
    l.readHistory formats rfc3339 v pubkey limit fuel (before.map rfc3339) =
      collect Record.createdAt (l.fetch walletId limit) fuel before := by
  induction fuel generalizing before with
  | zero => rfl
  | succ fuel ih =>
    rw [Ledger.readHistory,
      historyPage_eq ho hvalid hwallet hone hhundred (parseCursor_map hbefore), collect]
    simp only
    cases hlast : (l.fetch walletId limit before).getLast? with
    | none => rfl
    | some oldest =>
      have hmem := (fetch_isPage l walletId limit before).mem (List.mem_of_mem_getLast? hlast)
      have hnext : ∀ t ∈ some oldest.createdAt,
          formats.parseFromRfc3339 (rfc3339 t) = some (t : Int) := by
        intro t ht
        cases ht
        exact hformat oldest hmem.1
      simp only [← ih hnext, Option.map_some]

theorem readHistory_eq_collect (ho : v.outage = none)
    (hvalid : validateSolanaPubkey formats.bs58 pubkey = .ok ())
    (hwallet : l.findIdByPubkey pubkey = some walletId) (hone : 1 ≤ limit) (hhundred : limit ≤ 100)
    (hformat : ∀ record ∈ l.signedOf walletId,
      formats.parseFromRfc3339 (rfc3339 record.createdAt) =
        some (record.createdAt : Int)) (fuel : Nat) :
    l.readHistory formats rfc3339 v pubkey limit fuel none =
      collect Record.createdAt (l.fetch walletId limit) fuel none := by
  have hnone : ∀ t ∈ (none : Option Nat), formats.parseFromRfc3339 (rfc3339 t) =
      some (t : Int) := by simp
  exact readHistory_eq ho hvalid hwallet hone hhundred hformat fuel hnone

/-- Reading to the end always ends, with the latest records first; nothing is lost
exactly if no created_at is shared by records on both sides of a page's end. -/
theorem paging_lossless_iff (ho : v.outage = none)
    (hvalid : validateSolanaPubkey formats.bs58 pubkey = .ok ())
    (hwallet : l.findIdByPubkey pubkey = some walletId) (hone : 1 ≤ limit) (hhundred : limit ≤ 100)
    (hformat : ∀ record ∈ l.signedOf walletId,
      formats.parseFromRfc3339 (rfc3339 record.createdAt) = some (record.createdAt : Int)) :
    (∃ fuel records, l.readHistory formats rfc3339 v pubkey limit fuel none = some records) ∧
      ∀ fuel records, l.readHistory formats rfc3339 v pubkey limit fuel none = some records →
        records.Pairwise (fun a b => b.createdAt ≤ a.createdAt) ∧
        (records.Perm (l.signedOf walletId) ↔ ∀ record ∈ l.signedOf walletId,
          FitsPage Record.createdAt (l.signedOf walletId) limit record.createdAt) := by
  have hread := readHistory_eq_collect ho hvalid hwallet hone hhundred hformat
  have hfetch := fetch_isPage l walletId limit
  constructor
  · obtain ⟨records, hrecords⟩ := collect_ends hfetch (Nat.lt_succ_self _)
    exact ⟨_, records, (hread _).trans hrecords⟩
  · intro fuel records hrecords
    rw [hread] at hrecords
    refine ⟨collect_sorted hfetch hrecords, ?_⟩
    have hall : (l.signedOf walletId).filter (earlier Record.createdAt none) =
        l.signedOf walletId :=
      List.filter_eq_self.mpr fun _ _ => rfl
    have hperm := collect_perm_iff hfetch hone hrecords fun _ => by simp [earlier]
    rw [hall] at hperm
    rw [hperm]
    exact forall₂_congr fun record _ => ⟨fun h => h rfl, fun h _ => h⟩

end Pages

open Reference

/-- A registered sender's two payments, recorded at one instant. -/
def tiedLedger : Ledger :=
  ((((Ledger.empty ∅).upsert senderAddress).1.afterSubmit sampleSdk (submitTransfer false "send-1")
    [served, served, served, landed false, served]).afterSubmit sampleSdk
      (submitTransfer true "send-2")
    [served, served, served, landed true, served])

def sentAtOnce (rebuilt : Bool) : Record :=
  ⟨signatureText rebuilt, "submitted", some destAddress, some "1000000", none, 0⟩

theorem tiedLedger_eq : tiedLedger.findIdByPubkey senderAddress = some 1 ∧
    tiedLedger.signedOf 1 = [sentAtOnce true, sentAtOnce false] := by
  simp only [tiedLedger, afterSubmit_submitTransfer]
  decide +kernel

def epochText (_ : Nat) : String := "1970-01-01T00:00:00Z"

theorem served_up : served.outage = none := rfl

theorem senderAddress_valid : validateSolanaPubkey epochFormats.bs58 senderAddress = .ok () := by
  rfl

theorem epochFormats_tied : ∀ record ∈ tiedLedger.signedOf 1,
    epochFormats.parseFromRfc3339 (epochText record.createdAt) = some (record.createdAt : Int) := by
  rw [tiedLedger_eq.2]
  decide +kernel

theorem paging_lossless_iff_tied :
    (∃ fuel records,
      tiedLedger.readHistory epochFormats epochText served senderAddress 2 fuel none =
        some records) ∧
      ∀ fuel records,
      tiedLedger.readHistory epochFormats epochText served senderAddress 2 fuel none =
          some records →
        records.Pairwise (fun a b => b.createdAt ≤ a.createdAt) ∧
        (records.Perm (tiedLedger.signedOf 1) ↔ ∀ record ∈ tiedLedger.signedOf 1,
          FitsPage Record.createdAt (tiedLedger.signedOf 1) 2 record.createdAt) :=
  paging_lossless_iff served_up senderAddress_valid tiedLedger_eq.1 (by decide)
    (by decide) epochFormats_tied

theorem tiedLedger_pages : tiedLedger.fetch 1 1 none = [sentAtOnce true] ∧
    tiedLedger.fetch 1 1 (some 0) = [] := by
  have hsorted : [sentAtOnce true, sentAtOnce false].mergeSort
      (fun a b => decide (b.createdAt ≤ a.createdAt)) =
      [sentAtOnce true, sentAtOnce false] := List.mergeSort_of_pairwise (by simp [sentAtOnce])
  constructor
  · rw [Ledger.fetch, Ledger.listForWallet, filterMap_listed, tiedLedger_eq.2]
    change ([sentAtOnce true, sentAtOnce false].mergeSort _).take 1 = _
    rw [hsorted]
    rfl
  · have hnone : [sentAtOnce true, sentAtOnce false].filter (earlier Record.createdAt (some 0)) =
        [] := by
      simp [earlier, sentAtOnce]
    rw [Ledger.fetch, Ledger.listForWallet, filterMap_listed, tiedLedger_eq.2, hnone]
    simp

theorem tiedLedger_collect : collect Record.createdAt (tiedLedger.fetch 1 1) 2 none =
    some [sentAtOnce true] := by
  have holder : collect Record.createdAt (tiedLedger.fetch 1 1) 1 (some 0) = some [] := by
    rw [collect, tiedLedger_pages.2]
    rfl
  rw [collect, tiedLedger_pages.1]
  exact congrArg (Option.map _) holder

/-- One of the two is on the first page, and the second page is empty. -/
theorem tiedPayment_lost :
    tiedLedger.readHistory epochFormats epochText served senderAddress 1 2 none =
      some [sentAtOnce true] ∧
      ¬ [sentAtOnce true].Perm (tiedLedger.signedOf 1) := by
  constructor
  · rw [← tiedLedger_collect]
    exact readHistory_eq_collect served_up senderAddress_valid tiedLedger_eq.1 (le_refl 1)
      (by decide) epochFormats_tied 2
  · rw [tiedLedger_eq.2]
    exact fun h => absurd h.length_eq (by decide)

end Xend
