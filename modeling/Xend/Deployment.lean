import Xend.Conformance

/-! The app on a phone and the backend it talks to, as one system: a request of the SDK
may get lost on the way or on the way back, and others are served in between. The server
serves one request at a time, which is one of the ways in which the handlers of a pool
take their turns (`serveAll_pool`); what is said of any interleaving is said of pools. -/

namespace Xend.Sdk

open Framing Interaction

structure Deployment where
  device : Device
  server : ServerState

/-- What happens at one call of the app. For a request: whom the server serves first,
whether the request arrives and its response comes back, and how it is served. -/
structure Circumstance where
  native : Verdict
  others : List Arrived
  arrives : Bool
  returns : Bool
  time : Nat
  upstream : Upstream
  verdicts : List Xend.Verdict

/-- The end of the validity of what is built then fits into 64 bits. -/
def Circumstance.Timely (v : Circumstance) : Prop := v.upstream.build.now + 90 < 2 ^ 63

def Circumstance.arrived (v : Circumstance) (apiKey : Option String)
    (request : Request) : Arrived :=
  ⟨request.toHttp apiKey, v.time, v.upstream, v.verdicts⟩

abbrev DeployedStep := Step Call Deployment Circumstance

namespace Deployment

variable (b : Backend) (apiKey : Option String)

/-- The server as a request finds it. -/
def met (s : Deployment) (v : Circumstance) : ServerState := (b.serveAll s.server v.others).1

/-- The handler runs to its end before the server looks at another request. -/
def exchange (s : Deployment) (v : Circumstance) (request : Request) :
    ServerState × Option Response :=
  if v.arrives then
    let out := b.serve (s.met b v) (v.arrived apiKey request)
    (out.1, if v.returns then out.2 else none)
  else (s.met b v, none)

def execute (s : Deployment) (c : Call) (v : Circumstance) : Deployment × Reply c :=
  let answer := match c with
    | .http request => s.exchange b apiKey v request
    | _ => (s.server, none)
  let out := s.device.execute c { v.native with response := answer.2 }
  (⟨out.1, answer.1⟩, out.2)

end Deployment

section Exchange

variable {b : Backend} {apiKey : Option String}

/-- Calls that do not go to the backend leave it alone. -/
theorem Deployment.execute_native (s : Deployment) {c : Call} (h : ∀ request, c ≠ .http request)
    (v : Circumstance) :
    (s.execute b apiKey c v).1.server = s.server := by
  cases c with
  | http request => exact absurd rfl (h request)
  | _ => rfl

theorem performed_ok {s : ServerState} {a : Arrived} {asked : ApiRequest}
    {s' : ServerState} {v : ApiResponse}
    (h : BackendClient.performed b s a asked = (s', some (.ok v))) :
    (asked.handler b a.upstream).run.run Ledger.execute s.ledger a.verdicts =
      (s'.ledger, some (.ok v)) := by
  rw [BackendClient.performed] at h
  generalize b.gateway.handle s.windows ⟨a.time, a.request.authorization⟩ = admitted at h
  obtain ⟨windows, _ | _⟩ := admitted
  · cases h
  · obtain ⟨rfl, hanswer⟩ := Prod.mk.inj h
    exact Prod.ext rfl hanswer

namespace BackendClient.Method

/-- What a method makes of the response to its request. -/
def read (m : Method) (response : Option Response) : Except (Halt DartError) m.Result :=
  (do
    let body ← decodeResponse response
    m.extract body : Except DartError m.Result).mapError .thrown

theorem run_read (m : Method) : m.program.run = .call (.http m.request) fun response =>
    .done (m.read response) :=
  m.run_program

theorem outcome_read (m : Method) (r : Response) : m.outcome (.response r) = m.read (some r) :=
  m.outcome_response r

theorem exists_response {m : Method} {response : Option Response} {x : m.Result}
    (h : m.read response = .ok x) :
    ∃ r, response = some r := by
  cases response with
  | none => cases h
  | some r => exact ⟨r, rfl⟩

end BackendClient.Method

/-- A response that comes back is the server's. -/
theorem Deployment.exchange_of_response {s : Deployment} {v : Circumstance}
    {request : Request} {r : Response}
    (h : (s.exchange b apiKey v request).2 = some r) :
    s.exchange b apiKey v request = b.serve (s.met b v) (v.arrived apiKey request) := by
  unfold Deployment.exchange at h ⊢
  cases harrives : v.arrives with
  | false => simp [harrives] at h
  | true =>
    cases hreturns : v.returns with
    | false => simp [harrives, hreturns] at h
    | true => rfl

/-- A method that returns a value has got it from its handler, in its one step. -/
theorem method_run {keys : Option String} (hgateway : b.gateway = .fromEnv keys)
    {m : BackendClient.Method} (hm : m.Sendable)
    {s s' : Deployment} {vs : List Circumstance} {x : m.Result}
    (hclock : ∀ t ∈ m.program.run.steps (Deployment.execute b apiKey) s vs, t.verdict.Timely)
    (hrun : m.program.run.run (Deployment.execute b apiKey) s vs = (s', some (.ok x))) :
    ∃ v answer, m.program.run.steps (Deployment.execute b apiKey) s vs = [⟨s, .http m.request, v⟩] ∧
      s'.device = s.device ∧ m.value b.web answer = some x ∧
      (m.asked.handler b v.upstream).run.run Ledger.execute (s.met b v).ledger v.verdicts =
        (s'.server.ledger, some (.ok answer)) := by
  rw [m.run_read] at hrun hclock ⊢
  cases vs with
  | nil => cases hrun
  | cons v vs =>
    obtain ⟨rfl, hresult⟩ := Prod.mk.inj hrun
    have hread : m.read (s.exchange b apiKey v m.request).2 = .ok x := Option.some.inj hresult
    obtain ⟨r, hr⟩ := BackendClient.Method.exists_response hread
    have hserve :=
      BackendClient.serve_reached (b := b) (s := s.met b v) (a := v.arrived apiKey m.request)
      (m.reaches hm apiKey b.web)
    rw [← Deployment.exchange_of_response hr] at hserve
    generalize hperformed :
      BackendClient.performed b (s.met b v) (v.arrived apiKey m.request) m.asked = out at hserve
    obtain ⟨server, answer⟩ := out
    rw [hserve] at hr hread
    obtain ⟨answer, rfl, rfl⟩ := Option.map_eq_some_iff.mp hr
    obtain ⟨herror, hvalue⟩ := BackendClient.performed_sound hgateway (congrArg Prod.snd hperformed)
    have htimely : v.Timely := hclock ⟨s, .http m.request, v⟩ List.mem_cons_self
    have hdelivered := BackendClient.delivered b.web htimely herror hvalue
    rw [BackendClient.Method.outcome_read] at hdelivered
    change m.read (some (intoResponse b.web answer)) = .ok x at hread
    rw [hread] at hdelivered
    cases answer with
    | error e => cases hdelivered
    | ok value =>
      obtain ⟨y, hy, hxy⟩ := hdelivered
      obtain rfl := Except.ok.inj hxy
      have hserver : ((Deployment.execute b apiKey s (.http m.request) v).1).server = server :=
        congrArg Prod.fst hserve
      exact ⟨v, value, rfl, rfl, hy, hserver ▸ performed_ok hperformed⟩

end Exchange

end Xend.Sdk
