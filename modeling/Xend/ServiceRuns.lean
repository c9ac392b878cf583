import Xend.Conformance
import Xend.Interleaving

/-! The whole service over any sequence of requests: what gets past the gateway, the
routes and the extractors, and that nothing else leaves a trace in the ledger. -/

namespace Xend

open FixedWindow Interaction

def Arrived.gated (a : Arrived) : Xend.Request := ⟨a.time, a.request.authorization⟩

/-- The endpoint behind the gateway that a request is routed to. -/
def Arrived.endpoint (a : Arrived) : Option Endpoint :=
  if a.request.path = "/health".toList then none else Endpoint.ofSegments a.request.segments

/-- A call of a handler, and the request it comes from. -/
structure HandlerCall where
  arrived : Arrived
  asked : ApiRequest

namespace Backend

variable (b : Backend)

def accepted (a : Arrived) (e : Endpoint) : Option ApiRequest :=
  if e.accepts a.request.method = false then none else (e.extract b.web a.request).toOption

/-- The calls of handlers among the requests. -/
def handlerCalls : Counters String → List Arrived → List HandlerCall
  | _, [] => []
  | windows, a :: rest =>
    match a.endpoint with
    | none => handlerCalls windows rest
    | some e =>
      let admitted := b.gateway.handle windows a.gated
      if admitted.2 = .ok () then
        ((b.accepted a e).map fun asked => ⟨a, asked⟩).toList ++ handlerCalls admitted.1 rest
      else handlerCalls admitted.1 rest

def apply (l : Ledger) (c : HandlerCall) : Ledger :=
  ((c.asked.handler b c.arrived.upstream).run.run Ledger.execute l c.arrived.verdicts).1

/-- The handlers at work on the calls, before any has taken a turn. -/
def pool (l : Ledger) (calls : List HandlerCall) :
    Pool Nat Call Call.Reply Ledger Verdict (Except AppError ApiResponse) :=
  ⟨l, fun i => calls[i]?.map fun c => (c.asked.handler b c.arrived.upstream).run, []⟩

end Backend

section Runs

variable {b : Backend}

theorem serve_unrouted {s : ServerState} {a : Arrived} (h : a.endpoint = none) :
    (b.serve s a).1 = s := by
  unfold Arrived.endpoint at h
  by_cases hhealth : a.request.path = "/health".toList
  · rw [Backend.serve, Backend.route, if_pos hhealth]
  · rw [if_neg hhealth] at h
    rw [Backend.serve, Backend.route, if_neg hhealth, h]

theorem serve_refused {s : ServerState} {a : Arrived} {e : Endpoint} (he : a.endpoint = some e)
    (hrefused : (b.gateway.handle s.windows a.gated).2 ≠ .ok ()) :
    (b.serve s a).1 = ⟨(b.gateway.handle s.windows a.gated).1, s.ledger⟩ := by
  unfold Arrived.endpoint at he
  split at he
  · cases he
  · rename_i hhealth
    rw [Backend.serve, Backend.route, if_neg hhealth, he]
    change (b.gateway.handle s.windows ⟨a.time, a.request.authorization⟩).2 ≠ .ok () at hrefused
    change _ =
      (⟨(b.gateway.handle s.windows ⟨a.time, a.request.authorization⟩).1, s.ledger⟩ : ServerState)
    generalize b.gateway.handle s.windows ⟨a.time, a.request.authorization⟩ = admitted at hrefused ⊢
    obtain ⟨windows, error | _⟩ := admitted
    · rfl
    · exact absurd rfl hrefused

theorem serve_admitted {s : ServerState} {a : Arrived} {e : Endpoint} (he : a.endpoint = some e)
    (hadmitted : (b.gateway.handle s.windows a.gated).2 = .ok ()) :
    (b.serve s a).1 = ⟨(b.gateway.handle s.windows a.gated).1,
      (((b.accepted a e).map fun asked => HandlerCall.mk a asked).toList).foldl
        b.apply s.ledger⟩ := by
  have hendpoint : (b.endpoint s.ledger a e).1 =
      (((b.accepted a e).map fun asked => HandlerCall.mk a asked).toList).foldl
        b.apply s.ledger := by
    unfold Backend.endpoint Backend.accepted
    cases e.accepts a.request.method with
    | false => rfl
    | true =>
      cases e.extract b.web a.request with
      | error response => rfl
      | ok asked => rfl
  rw [← hendpoint]
  unfold Arrived.endpoint at he
  split at he
  · cases he
  · rename_i hhealth
    rw [Backend.serve, Backend.route, if_neg hhealth, he]
    change (b.gateway.handle s.windows ⟨a.time, a.request.authorization⟩).2 = .ok () at hadmitted
    change _ = (⟨(b.gateway.handle s.windows ⟨a.time, a.request.authorization⟩).1, _⟩ : ServerState)
    generalize b.gateway.handle s.windows ⟨a.time, a.request.authorization⟩ =
      admitted at hadmitted ⊢
    obtain ⟨windows, error | _⟩ := admitted
    · cases hadmitted
    · rfl

theorem serveAll_ledger (s : ServerState) (as : List Arrived) :
    (b.serveAll s as).1.ledger = (b.handlerCalls s.windows as).foldl b.apply s.ledger := by
  induction as generalizing s with
  | nil => rfl
  | cons a rest ih =>
    have hstep : (b.serveAll s (a :: rest)).1 = (b.serveAll (b.serve s a).1 rest).1 := rfl
    rw [hstep, ih, Backend.handlerCalls]
    cases he : a.endpoint with
    | none => rw [serve_unrouted he]
    | some e =>
      by_cases hadmitted : (b.gateway.handle s.windows a.gated).2 = .ok ()
      · rw [serve_admitted he hadmitted]
        simp only [hadmitted, if_true, List.foldl_append]
      · rw [serve_refused he hadmitted]
        simp only [hadmitted, if_false]

/-- To serve one request at a time is to let the handlers take their turns one after
another. -/
theorem serveAll_pool (s : ServerState) (as : List Arrived) :
    let calls := b.handlerCalls s.windows as
    (b.serveAll s as).1.ledger = ((b.pool s.ledger calls).run Ledger.execute
      (Pool.serial 0 (calls.map fun c => c.arrived.verdicts))).world := by
  intro calls
  let work (c : HandlerCall) := ((c.asked.handler b c.arrived.upstream).run, c.arrived.verdicts)
  have hthreads : ∀ k, (b.pool s.ledger calls).thread (0 + k) = (calls.map work)[k]?.map Prod.fst := by
    intro k
    rw [Nat.zero_add, List.getElem?_map, Option.map_map]
    rfl
  have hserial : ((b.pool s.ledger calls).run Ledger.execute
      (Pool.serial 0 ((calls.map work).map Prod.snd))).world =
        (calls.map work).foldl (fun l q => (q.1.run Ledger.execute l q.2).1) s.ledger :=
    Pool.run_serial hthreads
  rw [List.map_map, List.foldl_map] at hserial
  rw [serveAll_ledger]
  exact hserial.symm

theorem gateway_handle_fst (windows : Counters String) (r : Xend.Request) :
    (b.gateway.handle windows r).1 =
      FixedWindow.record b.gateway.limits Request.caller Request.time windows r ∧
      ((b.gateway.handle windows r).2 = .ok () →
        Admits b.gateway.limits (windows.lookup r.caller) r.time ∧
          isAuthorized b.gateway.apiKeys r.authorization = true) := by
  obtain ⟨hwindows, hok⟩ := enforce_eq b.gateway.limits windows r
  rw [Gateway.handle]
  generalize enforce b.gateway.limits windows r = enforced at hwindows hok
  obtain ⟨counters, error | _⟩ := enforced
  · refine ⟨hwindows, fun h => ?_⟩
    cases h
  · refine ⟨hwindows, fun h => ⟨hok.mp rfl, ?_⟩⟩
    change requireApiKey b.gateway.apiKeys r = .ok () at h
    by_contra hnot
    rw [requireApiKey, if_neg hnot] at h
    cases h

theorem mem_handlerCalls {windows : Counters String} {as : List Arrived} {c : HandlerCall}
    (h : c ∈ b.handlerCalls windows as) :
    c.arrived ∈ as ∧ isAuthorized b.gateway.apiKeys c.arrived.request.authorization = true ∧
      ∃ e, c.arrived.endpoint = some e ∧ b.accepted c.arrived e = some c.asked := by
  induction as generalizing windows with
  | nil => cases h
  | cons a rest ih =>
    have hlater : ∀ {windows}, c ∈ b.handlerCalls windows rest → c.arrived ∈ a :: rest ∧
        isAuthorized b.gateway.apiKeys c.arrived.request.authorization = true ∧
        ∃ e, c.arrived.endpoint = some e ∧ b.accepted c.arrived e = some c.asked := by
      intro windows hmem
      obtain ⟨hrest, hauth, he⟩ := ih hmem
      exact ⟨List.mem_cons_of_mem a hrest, hauth, he⟩
    rw [Backend.handlerCalls] at h
    cases he : a.endpoint with
    | none =>
      rw [he] at h
      exact hlater h
    | some e =>
      rw [he] at h
      by_cases hadmitted : (b.gateway.handle windows a.gated).2 = .ok ()
      · simp only [hadmitted, if_true] at h
        rcases List.mem_append.mp h with hfirst | hmem
        · obtain ⟨asked, hasked, rfl⟩ := Option.map_eq_some_iff.mp (Option.mem_toList.mp hfirst)
          exact ⟨List.mem_cons_self, ((gateway_handle_fst windows a.gated).2 hadmitted).2,
            e, he, hasked⟩
        · exact hlater hmem
      · simp only [hadmitted, if_false] at h
        exact hlater h

/-- The requests that reach the gateway. -/
def gatedRequests (as : List Arrived) : List Xend.Request :=
  (as.filter fun a => a.endpoint.isSome).map Arrived.gated

theorem handlerCalls_sublist (windows : Counters String) (as : List Arrived) :
    ((b.handlerCalls windows as).map fun c => c.arrived.gated).Sublist
      (passed b.gateway.limits Request.caller Request.time windows (gatedRequests as)) := by
  induction as generalizing windows with
  | nil => exact List.Sublist.slnil
  | cons a rest ih =>
    rw [Backend.handlerCalls]
    cases he : a.endpoint with
    | none =>
      have hrest : gatedRequests (a :: rest) = gatedRequests rest := by simp [gatedRequests, he]
      rw [hrest]
      exact ih windows
    | some e =>
      have hrest : gatedRequests (a :: rest) = a.gated :: gatedRequests rest := by
        simp [gatedRequests, he]
      obtain ⟨hwindows, hok⟩ := gateway_handle_fst (b := b) windows a.gated
      have hlater :=
        ih (FixedWindow.record b.gateway.limits Request.caller Request.time windows a.gated)
      rw [hrest, passed]
      by_cases hadmitted : (b.gateway.handle windows a.gated).2 = .ok ()
      · simp only [hadmitted, if_true, hwindows, (hok hadmitted).1, List.map_append]
        cases b.accepted a e with
        | none => exact hlater.cons _
        | some asked => exact hlater.cons_cons _
      · simp only [hadmitted, if_false, hwindows]
        split
        · exact hlater.cons _
        · exact hlater

theorem serveAll_routed (s : ServerState) (as : List Arrived) :
    (b.serveAll s as).1 = (b.serveAll s (as.filter fun a => a.endpoint.isSome)).1 := by
  induction as generalizing s with
  | nil => rfl
  | cons a rest ih =>
    have hstep : (b.serveAll s (a :: rest)).1 = (b.serveAll (b.serve s a).1 rest).1 := rfl
    cases he : a.endpoint with
    | none =>
      have hfilter : (a :: rest).filter (fun a => a.endpoint.isSome) = rest.filter fun a =>
          a.endpoint.isSome := by simp [he]
      rw [hstep, serve_unrouted he, hfilter, ih]
    | some e =>
      have hfilter : (a :: rest).filter (fun a => a.endpoint.isSome) = a :: rest.filter fun a =>
          a.endpoint.isSome := by simp [he]
      rw [hstep, hfilter, ih]
      rfl

/-- Over any sequence of requests the ledger is what the calls of the handlers made of
it: each of them routed, well formed, authorised and within its caller's budget. -/
theorem effects_accounted (b : Backend) (l : Ledger) {as : List Arrived}
    (hsorted : (as.map Arrived.time).Pairwise (· ≤ ·)) :
    let calls := b.handlerCalls ∅ as
    let run := b.serveAll ⟨∅, l⟩ as
    run.1.ledger = calls.foldl b.apply l ∧
      run.1 = (b.serveAll ⟨∅, l⟩ (as.filter fun a => a.endpoint.isSome)).1 ∧
      (∀ c ∈ calls, c.arrived ∈ as ∧
        isAuthorized b.gateway.apiKeys c.arrived.request.authorization = true ∧
        ∃ e, c.arrived.endpoint = some e ∧ b.accepted c.arrived e = some c.asked) ∧
      ∀ caller t, between t (t + b.gateway.limits.window)
        ((calls.filter fun c => decide (c.arrived.gated.caller = caller)).map
          fun c => c.arrived.time) ≤
          2 * b.gateway.limits.max := by
  refine ⟨serveAll_ledger _ as, serveAll_routed _ as, fun c hc => mem_handlerCalls hc,
    fun caller t => ?_⟩
  have hsub :=
    ((handlerCalls_sublist (b := b) ∅ as).filter fun r => decide (r.caller =
      caller)).map Request.time
  rw [passed_filter, AList.lookup_empty, List.filter_map, List.map_map] at hsub
  have hgated : ((gatedRequests as).map Request.time).Pairwise (· ≤ ·) := by
    rw [gatedRequests, List.map_map]
    exact hsorted.sublist (List.filter_sublist.map _)
  have hcaller :
      (((gatedRequests as).filter fun r => decide (r.caller = caller)).map Request.time).Pairwise
        (· ≤ ·) :=
    hgated.sublist (List.filter_sublist.map Request.time)
  exact hsub.countP_le.trans (between_admitted_le hcaller t)

end Runs

section Sample

open Sdk.BackendClient

def lostArrived : Arrived :=
  ⟨⟨.get, "/nowhere".toList, some "Bearer key", false, .empty⟩, 5, finalizedUpstream, []⟩

def strangerArrived : Arrived :=
  { registerArrived with
    request := { registerArrived.request with authorization := some "Bearer other" }
    time := 6 }

def guardedBackend : Backend := { sampleBackend with gateway := .fromEnv (some "key") }

/-- A registration, an unknown route and a caller without a key. -/
theorem effects_accounted_register :
    let as := [registerArrived, lostArrived, strangerArrived]
    let ledger := (guardedBackend.serveAll ⟨∅, .empty ∅⟩ as).1.ledger
    (guardedBackend.handlerCalls ∅ as).length = 1 ∧
      ledger = (guardedBackend.handlerCalls ∅ as).foldl guardedBackend.apply (.empty ∅) ∧
      ledger.findIdByPubkey "11111111111111111111111111111111" = some 1 := by
  intro as ledger
  have hledger : ledger =
      (guardedBackend.handlerCalls ∅ as).foldl guardedBackend.apply (.empty ∅) :=
    (effects_accounted guardedBackend (.empty ∅) (by decide)).1
  refine ⟨rfl, hledger, ?_⟩
  rw [hledger]
  rfl

end Sample

end Xend
