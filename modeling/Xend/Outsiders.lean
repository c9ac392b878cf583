import Xend.Gateway

/-! Requests without a valid key in front of the same gateway: their headers name
windows that no authorised request ever reads. -/

namespace Xend

open FixedWindow

def Request.isAuthorized (keys : List String) (r : Request) : Bool :=
  Xend.isAuthorized keys r.authorization

/-- The second sequence is the first one with rejected requests put in. -/
inductive Padded (keys : List String) : List Request → List Request → Prop
  | nil : Padded keys [] []
  | kept {rs rs' : List Request} (r : Request) (h : Padded keys rs rs') :
      Padded keys (r :: rs) (r :: rs')
  | inserted {rs rs' : List Request} (r : Request) (hout : r.isAuthorized keys = false)
      (h : Padded keys rs rs') :
    Padded keys rs (r :: rs')

/-- What becomes of the authorised requests, in their order. -/
def Gateway.authorizedOutcomes (gw : Gateway) (windows : Counters String) (rs : List Request) :
    List (Request × Except AppError Unit) :=
  (gw.run windows rs).filter fun e => e.1.isAuthorized gw.apiKeys

/-- The same window for every header that carries a key. -/
def SameWindows (keys : List String) (windows windows' : Counters String) : Prop :=
  ∀ header, isAuthorized keys (some header) = true → windows.lookup header = windows'.lookup header

section Outsiders

variable {gw : Gateway} {windows windows' : Counters String} {r : Request}

theorem handle_fst (gw : Gateway) (windows : Counters String) (r : Request) :
    (gw.handle windows r).1 =
      windows.insert r.caller (arrive gw.limits (windows.lookup r.caller) r.time) := by
  have hrecord := (enforce_eq gw.limits windows r).1
  rw [Gateway.handle]
  split
  · rename_i heq
    rw [heq] at hrecord
    exact hrecord
  · rename_i heq
    rw [heq] at hrecord
    exact hrecord

theorem handle_snd_congr (h : windows.lookup r.caller = windows'.lookup r.caller) :
    (gw.handle windows r).2 = (gw.handle windows' r).2 := by
  by_cases hadmits : Admits gw.limits (windows.lookup r.caller) r.time
  · have hadmits' : Admits gw.limits (windows'.lookup r.caller) r.time := h ▸ hadmits
    simp only [Gateway.handle, enforce, recordCaller_of_admits hadmits,
      recordCaller_of_admits hadmits']
  · have hfull : ¬ Admits gw.limits (windows'.lookup r.caller) r.time := h ▸ hadmits
    simp only [Gateway.handle, enforce, recordCaller_of_full hadmits, recordCaller_of_full hfull, h]

theorem authorizedOutcomes_cons_of_authorized (hauth : r.isAuthorized gw.apiKeys = true)
    (rs : List Request) :
    gw.authorizedOutcomes windows (r :: rs) =
      (r, (gw.handle windows r).2) :: gw.authorizedOutcomes (gw.handle windows r).1 rs :=
  List.filter_cons_of_pos hauth

theorem authorizedOutcomes_cons_of_outsider (hout : ¬ r.isAuthorized gw.apiKeys = true)
    (rs : List Request) :
    gw.authorizedOutcomes windows (r :: rs) = gw.authorizedOutcomes (gw.handle windows r).1 rs :=
  List.filter_cons_of_neg hout

theorem isAuthorized_none (hkeys : gw.apiKeys ≠ []) : isAuthorized gw.apiKeys none = false := by
  have hne : gw.apiKeys.isEmpty = false := List.isEmpty_eq_false_iff.mpr hkeys
  simp [isAuthorized, hne, presentedKey]

theorem isAuthorized_anonymous (hkeys : gw.apiKeys ≠ []) :
    isAuthorized gw.apiKeys (some "anonymous") = false := by
  have hne : gw.apiKeys.isEmpty = false := List.isEmpty_eq_false_iff.mpr hkeys
  have hnone : presentedKey (some "anonymous") = none := by decide
  simp [isAuthorized, hne, hnone]

/-- The bucket of a request carries a key exactly when the request does. -/
theorem isAuthorized_caller (hkeys : gw.apiKeys ≠ []) (r : Request) :
    isAuthorized gw.apiKeys (some r.caller) = r.isAuthorized gw.apiKeys := by
  rw [Request.caller, Request.isAuthorized]
  cases r.authorization with
  | none => rw [Option.getD_none, isAuthorized_anonymous hkeys, isAuthorized_none hkeys]
  | some header => rfl

theorem SameWindows.both (h : SameWindows gw.apiKeys windows windows') (r : Request) :
    SameWindows gw.apiKeys (gw.handle windows r).1 (gw.handle windows' r).1 := by
  intro header hheader
  rw [handle_fst, handle_fst]
  by_cases hcaller : header = r.caller
  · subst hcaller
    rw [AList.lookup_insert, AList.lookup_insert, h r.caller hheader]
  · rw [AList.lookup_insert_ne hcaller, AList.lookup_insert_ne hcaller]
    exact h header hheader

theorem SameWindows.outsider (hkeys : gw.apiKeys ≠ []) (h : SameWindows gw.apiKeys windows windows')
    (hout : r.isAuthorized gw.apiKeys = false) :
    SameWindows gw.apiKeys windows (gw.handle windows' r).1 := by
  intro header hheader
  have hcaller : header ≠ r.caller := by
    intro heq
    rw [heq, isAuthorized_caller hkeys r, hout] at hheader
    cases hheader
  rw [handle_fst, AList.lookup_insert_ne hcaller]
  exact h header hheader

theorem authorizedOutcomes_eq (hkeys : gw.apiKeys ≠ []) {rs rs' : List Request}
    (hpadded : Padded gw.apiKeys rs rs')
    (h : SameWindows gw.apiKeys windows windows') :
    gw.authorizedOutcomes windows rs = gw.authorizedOutcomes windows' rs' := by
  induction hpadded generalizing windows windows' with
  | nil => rfl
  | kept r _ ih =>
    have hrest := ih (h.both r)
    by_cases hauth : r.isAuthorized gw.apiKeys = true
    · have hsame : (gw.handle windows r).2 = (gw.handle windows' r).2 := by
        apply handle_snd_congr
        apply h
        rw [isAuthorized_caller hkeys r]
        exact hauth
      rw [authorizedOutcomes_cons_of_authorized hauth,
        authorizedOutcomes_cons_of_authorized hauth, hsame, hrest]
    · rw [authorizedOutcomes_cons_of_outsider hauth,
        authorizedOutcomes_cons_of_outsider hauth, hrest]
  | inserted r hout _ ih =>
    have hnot : ¬ r.isAuthorized gw.apiKeys = true := by
      rw [hout]
      simp
    rw [authorizedOutcomes_cons_of_outsider hnot, ih (h.outsider hkeys hout)]

/-- Whatever arrives without a valid key, the customers are answered as without it. -/
theorem outsiders_unnoticed (hkeys : gw.apiKeys ≠ []) {rs rs' : List Request}
    (hpadded : Padded gw.apiKeys rs rs')
    (windows : Counters String) :
    gw.authorizedOutcomes windows rs' = gw.authorizedOutcomes windows rs :=
  (authorizedOutcomes_eq hkeys hpadded fun _ _ => rfl).symm

end Outsiders

theorem outsiders_unnoticed_between :
    Gateway.authorizedOutcomes ⟨["secret"], ⟨1, 60 * nanosPerSec⟩⟩ ∅
        [spelled " " 0, ⟨1, none⟩, ⟨2, some "Bearer wrong"⟩, spelled " " 3] =
      Gateway.authorizedOutcomes ⟨["secret"], ⟨1, 60 * nanosPerSec⟩⟩ ∅
        [spelled " " 0, spelled " " 3] := by
  apply outsiders_unnoticed
  · simp
  · have hwrong : Request.isAuthorized ["secret"] ⟨2, some "Bearer wrong"⟩ = false := by rfl
    exact .kept _ (.inserted _ rfl (.inserted _ hwrong (.kept _ .nil)))

end Xend
