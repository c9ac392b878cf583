import Mathlib.Data.List.DropRight
import Xend.Adapter
import Xend.FixedWindow

/-! The middleware in front of the versioned API: the rate limiter, and behind it
the check of the API key. Both read the `authorization` header as `to_str` gives
it, so a header that is missing or not visible ASCII is `none`. -/

namespace Xend

open FixedWindow

/-- The scalars Unicode counts as white space. -/
def isWhitespace (c : Char) : Bool :=
  (9 ≤ c.toNat && c.toNat ≤ 13) || (0x2000 ≤ c.toNat && c.toNat ≤ 0x200a) ||
    [0x20, 0x85, 0xa0, 0x1680, 0x2028, 0x2029, 0x202f, 0x205f, 0x3000].contains c.toNat

def trim (cs : List Char) : List Char := (cs.dropWhile isWhitespace).rdropWhile isWhitespace

def stripPrefix (start text : String) : Option (List Char) :=
  if start.toList.isPrefixOf text.toList then some (text.toList.drop start.toList.length) else none

structure Request where
  time : Nat
  authorization : Option String
  deriving DecidableEq

def nanosPerSec : Nat := 1000000000

def rateLimitPerMinute : Nat := 120

structure Gateway where
  apiKeys : List String
  limits : Limits

/-- `XEND_API_KEYS`, separated by commas. -/
def Gateway.fromEnv (value : Option String) : Gateway where
  apiKeys :=
    ((((value.getD "").toList.splitOn ',').map trim).filter
      fun key => !key.isEmpty).map String.ofList
  limits := ⟨rateLimitPerMinute, 60 * nanosPerSec⟩

/-- `RateLimiter::record`: the error is the number of seconds to wait. -/
def recordCaller (limits : Limits) (windows : Counters String) (caller : String) (now : Nat) :
    Counters String × Except Nat Unit :=
  let window := (windows.lookup caller).getD ⟨now, 0⟩
  let window := if limits.window ≤ now - window.started then ⟨now, 0⟩ else window
  if limits.max ≤ window.count then
    (windows.insert caller window,
      .error ((limits.window - (now - window.started)) / nanosPerSec + 1))
  else (windows.insert caller ⟨window.started, window.count + 1⟩, .ok ())

def Request.caller (r : Request) : String := r.authorization.getD "anonymous"

def enforce (limits : Limits) (windows : Counters String) (r : Request) :
    Counters String × Except AppError Unit :=
  match recordCaller limits windows r.caller r.time with
  | (windows, .ok _) => (windows, .ok ())
  | (windows, .error retryAfterSecs) => (windows, .error (.rateLimited retryAfterSecs))

def presentedKey (authHeader : Option String) : Option String :=
  (authHeader.bind (stripPrefix "Bearer ")).map fun key => String.ofList (trim key)

def isAuthorized (keys : List String) (authHeader : Option String) : Bool :=
  if keys.isEmpty then true else
  match presentedKey authHeader with
  | some key => keys.contains key
  | none => false

def requireApiKey (keys : List String) (r : Request) : Except AppError Unit :=
  if isAuthorized keys r.authorization then .ok () else .error .unauthorized

namespace Gateway

variable (gw : Gateway)

/-- The limiter is the outer layer, so it also counts what the inner one rejects. -/
def handle (windows : Counters String) (r : Request) : Counters String × Except AppError Unit :=
  match enforce gw.limits windows r with
  | (windows, .ok _) => (windows, requireApiKey gw.apiKeys r)
  | (windows, .error e) => (windows, .error e)

def run : Counters String → List Request → List (Request × Except AppError Unit)
  | _, [] => []
  | windows, r :: rs => (r, (gw.handle windows r).2) :: run (gw.handle windows r).1 rs

end Gateway

def AuthorizedUnder (keys : List String) (k : String) (r : Request) : Prop :=
  k ∈ keys ∧ presentedKey r.authorization = some k

instance (keys : List String) (k : String) (r : Request) : Decidable (AuthorizedUnder keys k r) :=
  instDecidableAnd

/-- The requests both admitted by the limiter and authorised under `k`. -/
def Gateway.servedUnder (gw : Gateway) (k : String) (rs : List Request) : List Request :=
  ((gw.run ∅ rs).filter fun e => decide (e.2 = .ok ()) &&
    decide (AuthorizedUnder gw.apiKeys k e.1)).map Prod.fst

/-- The same request with the key it is authorised under written in another header. -/
def Request.respell (keys : List String) (k header : String) (r : Request) : Request :=
  if AuthorizedUnder keys k r then { r with authorization := some header } else r

/-- One key, one budget: one bucket, the bound of one caller, and nothing to gain
from the spelling of the header. -/
structure OneBudget (gw : Gateway) (k : String) (rs : List Request) : Prop where
  bucket : ∀ r ∈ rs, ∀ r' ∈ rs, AuthorizedUnder gw.apiKeys k r → AuthorizedUnder gw.apiKeys k r' →
    r.caller = r'.caller
  bounded : ∀ t, between t (t + gw.limits.window) ((gw.servedUnder k rs).map Request.time) ≤
    2 * gw.limits.max
  respelled : ∀ header, presentedKey (some header) = some k →
    (gw.servedUnder k rs).length ≤
      (gw.servedUnder k (rs.map (Request.respell gw.apiKeys k header))).length

/-- Every request authorised under `k` writes its header in the same way. -/
def OneSpelling (gw : Gateway) (k : String) (rs : List Request) : Prop :=
  ∀ r ∈ rs, ∀ r' ∈ rs, AuthorizedUnder gw.apiKeys k r → AuthorizedUnder gw.apiKeys k r' →
    r.authorization = r'.authorization

section Runs

variable {gw : Gateway} {k : String} {r : Request} {rs : List Request} {windows : Counters String}

theorem recordCaller_of_admits {limits : Limits} {caller : String} {now : Nat}
    (h : Admits limits (windows.lookup caller) now) :
    recordCaller limits windows caller now =
      (windows.insert caller (arrive limits (windows.lookup caller) now), .ok ()) := by
  rw [arrive, if_pos h]
  exact if_neg (Nat.not_le.mpr h)

theorem recordCaller_of_full {limits : Limits} {caller : String} {now : Nat}
    (h : ¬ Admits limits (windows.lookup caller) now) :
    recordCaller limits windows caller now =
      (windows.insert caller (arrive limits (windows.lookup caller) now),
        .error ((limits.window - (now - (current limits (windows.lookup caller) now).started)) /
          nanosPerSec + 1)) := by
  rw [arrive, if_neg h]
  exact if_pos (Nat.not_lt.mp h)

theorem recordCaller_fst (limits : Limits) (windows : Counters String)
    (caller : String) (now : Nat) :
    (recordCaller limits windows caller now).1 =
      windows.insert caller (arrive limits (windows.lookup caller) now) := by
  by_cases h : Admits limits (windows.lookup caller) now
  · rw [recordCaller_of_admits h]
  · rw [recordCaller_of_full h]

theorem recordCaller_isOk (limits : Limits) (windows : Counters String)
    (caller : String) (now : Nat) :
    (recordCaller limits windows caller now).2.isOk =
      decide (Admits limits (windows.lookup caller) now) := by
  by_cases h : Admits limits (windows.lookup caller) now
  · rw [recordCaller_of_admits h, decide_eq_true h]
    rfl
  · rw [recordCaller_of_full h, decide_eq_false h]
    rfl

theorem enforce_eq (limits : Limits) (windows : Counters String) (r : Request) :
    (enforce limits windows r).1 = FixedWindow.record limits Request.caller Request.time windows r ∧
      ((enforce limits windows r).2 = .ok () ↔ Admits limits (windows.lookup r.caller) r.time) := by
  by_cases h : Admits limits (windows.lookup r.caller) r.time
  · rw [enforce, recordCaller_of_admits h]
    exact ⟨rfl, iff_of_true rfl h⟩
  · rw [enforce, recordCaller_of_full h]
    exact ⟨rfl, iff_of_false (by simp) h⟩

theorem authorized_of_under (h : AuthorizedUnder gw.apiKeys k r) :
    requireApiKey gw.apiKeys r = .ok () := by
  have hne : gw.apiKeys.isEmpty = false := List.isEmpty_eq_false_iff.mpr (List.ne_nil_of_mem h.1)
  simp [requireApiKey, isAuthorized, hne, h.2, h.1]

/-- What is served under a key is what its counters let through. -/
theorem served_eq (gw : Gateway) (k : String) (rs : List Request) (windows : Counters String) :
    ((gw.run windows rs).filter fun e => decide (e.2 = .ok ()) &&
      decide (AuthorizedUnder gw.apiKeys k e.1)).map Prod.fst =
      (passed gw.limits Request.caller Request.time windows rs).filter fun r =>
        decide (AuthorizedUnder gw.apiKeys k r) := by
  induction rs generalizing windows with
  | nil => rfl
  | cons r rs ih =>
    obtain ⟨hwindows, hok⟩ := enforce_eq gw.limits windows r
    have hnext : (gw.handle windows r).1 =
        FixedWindow.record gw.limits Request.caller Request.time windows r := by
      rw [← hwindows, Gateway.handle]
      split <;> simp_all
    have hserved : ((gw.handle windows r).2 = .ok () ∧ AuthorizedUnder gw.apiKeys k r) ↔
        Admits gw.limits (windows.lookup r.caller) r.time ∧ AuthorizedUnder gw.apiKeys k r := by
      rw [← hok]
      apply and_congr_left
      intro hk
      have hauth := authorized_of_under hk
      rw [Gateway.handle]
      split <;> simp_all
    have hrest := ih (FixedWindow.record gw.limits Request.caller Request.time windows r)
    rw [Gateway.run, hnext, passed, List.filter_cons]
    by_cases hk : AuthorizedUnder gw.apiKeys k r
    · by_cases hadmits : Admits gw.limits (windows.lookup r.caller) r.time
      · have hh := (hserved.mpr ⟨hadmits, hk⟩).1
        simp only [hh, hk, hadmits, decide_true, Bool.and_self, if_true, List.map_cons,
          List.filter_cons, hrest]
      · have hh : (gw.handle windows r).2 ≠ .ok () := fun he => hadmits (hserved.mp ⟨he, hk⟩).1
        simp only [hh, hadmits, decide_false, Bool.false_and, Bool.false_eq_true, if_false, hrest]
    · by_cases hadmits : Admits gw.limits (windows.lookup r.caller) r.time
      · simp only [hk, hadmits, decide_false, Bool.and_false, Bool.false_eq_true, if_false, if_true,
          List.filter_cons, hrest]
      · simp only [hk, hadmits, decide_false, Bool.and_false, Bool.false_eq_true, if_false, hrest]

theorem exists_header (h : AuthorizedUnder gw.apiKeys k r) :
    ∃ header, r.authorization = some header := by
  cases ha : r.authorization with
  | none =>
    have hkey := h.2
    rw [ha] at hkey
    cases hkey
  | some header => exact ⟨header, rfl⟩

theorem header_ne_anonymous {header : String} (h : presentedKey (some header) = some k) :
    header ≠ "anonymous" := by
  rintro rfl
  have hnone : presentedKey (some "anonymous") = none := by decide
  rw [hnone] at h
  cases h

theorem caller_eq_iff {header : String} (h : presentedKey (some header) = some k) :
    r.caller = header ↔ r.authorization = some header := by
  unfold Request.caller
  cases ha : r.authorization with
  | none =>
    refine iff_of_false (fun he => header_ne_anonymous h he.symm) ?_
    simp
  | some text => simp

theorem served_times {header : String}
    (h : ∀ r ∈ rs, AuthorizedUnder gw.apiKeys k r ↔ r.caller = header) :
    (gw.servedUnder k rs).map Request.time =
      admitted gw.limits none
        ((rs.filter fun r => decide (AuthorizedUnder gw.apiKeys k r)).map Request.time) := by
  have hpassed : (passed gw.limits Request.caller Request.time ∅ rs).filter
      (fun r => decide (AuthorizedUnder gw.apiKeys k r)) =
      (passed gw.limits Request.caller Request.time ∅ rs).filter fun r =>
        decide (r.caller = header) := by
    apply List.filter_congr
    intro r hr
    rw [decide_eq_decide]
    exact h r (passed_subset _ _ r hr)
  have hall : rs.filter (fun r => decide (AuthorizedUnder gw.apiKeys k r)) = rs.filter fun r =>
      decide (r.caller = header) := by
    apply List.filter_congr
    intro r hr
    rw [decide_eq_decide]
    exact h r hr
  rw [Gateway.servedUnder, served_eq, hpassed, passed_filter, hall, AList.lookup_empty]

theorem OneSpelling.caller_iff {header : String} (h : OneSpelling gw k rs)
    {r₀ : Request} (hr₀ : r₀ ∈ rs)
    (hauth : AuthorizedUnder gw.apiKeys k r₀) (hheader : r₀.authorization = some header) :
    ∀ r ∈ rs, AuthorizedUnder gw.apiKeys k r ↔ r.caller = header := by
  have hkey : presentedKey (some header) = some k := hheader ▸ hauth.2
  intro r hr
  rw [caller_eq_iff hkey]
  constructor
  · intro hk
    rw [← h r₀ hr₀ r hr hauth hk, hheader]
  · intro ha
    exact ⟨hauth.1, by rw [ha]; exact hkey⟩

theorem authorized_respell {header : String} (hkey : presentedKey (some header) = some k)
    (r : Request) :
    AuthorizedUnder gw.apiKeys k (r.respell gw.apiKeys k header) ↔
    AuthorizedUnder gw.apiKeys k r := by
  by_cases hk : AuthorizedUnder gw.apiKeys k r
  · refine iff_of_true ?_ hk
    rw [Request.respell, if_pos hk]
    exact ⟨hk.1, hkey⟩
  · rw [Request.respell, if_neg hk]

theorem caller_respell {header : String} (hmem : k ∈ gw.apiKeys)
    (hkey : presentedKey (some header) = some k) (r : Request) :
    AuthorizedUnder gw.apiKeys k (r.respell gw.apiKeys k header) ↔
    (r.respell gw.apiKeys k header).caller = header := by
  rw [authorized_respell hkey]
  by_cases hk : AuthorizedUnder gw.apiKeys k r
  · refine iff_of_true hk ?_
    rw [Request.respell, if_pos hk, Request.caller, Option.getD_some]
  · rw [Request.respell, if_neg hk, caller_eq_iff hkey]
    refine iff_of_false hk fun ha => hk ⟨hmem, ?_⟩
    rw [ha]
    exact hkey

@[simp] theorem time_respell (keys : List String) (k header : String) (r : Request) :
    (r.respell keys k header).time = r.time := by
  unfold Request.respell
  split <;> rfl

theorem respelled_times (rs : List Request) {header : String} (hmem : k ∈ gw.apiKeys)
    (hkey : presentedKey (some header) = some k) :
    (gw.servedUnder k (rs.map (Request.respell gw.apiKeys k header))).map Request.time =
      admitted gw.limits none
        ((rs.filter fun r => decide (AuthorizedUnder gw.apiKeys k r)).map Request.time) := by
  have hcaller : ∀ r ∈ rs.map (Request.respell gw.apiKeys k header),
      AuthorizedUnder gw.apiKeys k r ↔ r.caller = header := by
    intro r hr
    obtain ⟨r, -, rfl⟩ := List.mem_map.mp hr
    exact caller_respell hmem hkey r
  rw [served_times hcaller, List.filter_map, List.map_map]
  congr 1
  have hsame :
      (fun r => decide (AuthorizedUnder gw.apiKeys k r)) ∘ Request.respell gw.apiKeys k header =
      fun r => decide (AuthorizedUnder gw.apiKeys k r) := by
    funext r
    rw [Function.comp_apply, decide_eq_decide, authorized_respell hkey]
  rw [hsame]
  exact List.map_congr_left fun r _ => time_respell _ _ _ r

theorem served_eq_nil (h : ∀ r ∈ rs, ¬ AuthorizedUnder gw.apiKeys k r) :
    gw.servedUnder k rs = [] := by
  rw [Gateway.servedUnder, served_eq, List.filter_eq_nil_iff]
  intro r hr
  simpa using h r (passed_subset _ _ r hr)

theorem filter_sorted (h : (rs.map Request.time).Pairwise (· ≤ ·)) (p : Request → Bool) :
    ((rs.filter p).map Request.time).Pairwise (· ≤ ·) :=
  h.sublist ((List.filter_sublist).map Request.time)

/-- A key has one budget exactly in the sequences that always write it the same way. -/
theorem oneBudget_iff (hsorted : (rs.map Request.time).Pairwise (· ≤ ·)) : OneBudget gw k rs ↔
    OneSpelling gw k rs := by
  constructor
  · intro h r hr r' hr' hk hk'
    obtain ⟨header, ha⟩ := exists_header hk
    obtain ⟨header', ha'⟩ := exists_header hk'
    have hcaller := h.bucket r hr r' hr' hk hk'
    rw [Request.caller, Request.caller, ha, ha', Option.getD_some, Option.getD_some] at hcaller
    rw [ha, ha', hcaller]
  · intro h
    refine ⟨fun r hr r' hr' hk hk' => ?_, fun t => ?_, fun header hkey => ?_⟩
    · rw [Request.caller, Request.caller, h r hr r' hr' hk hk']
    · by_cases hsome : ∃ r ∈ rs, AuthorizedUnder gw.apiKeys k r
      · obtain ⟨r₀, hr₀, hauth⟩ := hsome
        obtain ⟨header, hheader⟩ := exists_header hauth
        rw [served_times (h.caller_iff hr₀ hauth hheader)]
        exact between_admitted_le (filter_sorted hsorted _) t
      · rw [served_eq_nil fun r hr hk => hsome ⟨r, hr, hk⟩]
        exact Nat.zero_le _
    · by_cases hsome : ∃ r ∈ rs, AuthorizedUnder gw.apiKeys k r
      · obtain ⟨r₀, hr₀, hauth⟩ := hsome
        obtain ⟨own, hown⟩ := exists_header hauth
        have htimes := congrArg List.length (served_times (h.caller_iff hr₀ hauth hown))
        have hrespelled := congrArg List.length (respelled_times rs hauth.1 hkey)
        rw [List.length_map] at htimes hrespelled
        exact le_of_eq (htimes.trans hrespelled.symm)
      · rw [served_eq_nil fun r hr hk => hsome ⟨r, hr, hk⟩]
        exact Nat.zero_le _

end Runs

def spelled (spaces : String) (time : Nat) : Request :=
  ⟨time, some ("Bearer" ++ spaces ++ "secret")⟩

theorem oneBudget_iff_secret :
    OneBudget (Gateway.fromEnv (some "secret")) "secret" [spelled " " 0, spelled " " 1] ↔
      OneSpelling (Gateway.fromEnv (some "secret")) "secret" [spelled " " 0, spelled " " 1] :=
  oneBudget_iff (by simp [spelled])

/-- Both spellings are authorised under the key, and each has its own bucket. -/
theorem secondSpelling_second_budget :
    ¬ OneBudget (Gateway.fromEnv (some "secret")) "secret" [spelled " " 0, spelled "  " 1] ∧
      (Gateway.servedUnder ⟨["secret"], ⟨1, 60 * nanosPerSec⟩⟩ "secret"
        [spelled " " 0, spelled "  " 1, spelled "   " 2]).length = 3 := by
  have hone : AuthorizedUnder (Gateway.fromEnv (some "secret")).apiKeys "secret"
      (spelled " " 0) := by decide +kernel
  have htwo : AuthorizedUnder (Gateway.fromEnv (some "secret")).apiKeys "secret"
      (spelled "  " 1) := by decide +kernel
  refine ⟨fun h => ?_, by decide +kernel⟩
  have hcaller :=
    h.bucket _ List.mem_cons_self _ (List.mem_cons_of_mem _ List.mem_cons_self) hone htwo
  exact absurd hcaller (by decide +kernel)

end Xend
