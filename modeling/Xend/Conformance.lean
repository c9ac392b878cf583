import Xend.HandlerAnswers
import Xend.RetryHint
import Xend.TypedFailures

/-! The two ends of the API: what a method of the client asks for reaches the handler it
is meant for, and what the handler answers is what the caller gets. -/

namespace Xend

open Framing Interaction

/-- The wait it asks for fits into 64 bits. -/
def AppError.InRange : AppError → Prop
  | rateLimited seconds => seconds < 2 ^ 63
  | _ => True

/-- The end of the validity of a transaction fits into 64 bits. -/
def ApiResponse.InRange : ApiResponse → Prop
  | built r => r.validUntil < 2 ^ 63
  | _ => True

namespace Sdk

/-- Path and query of a request; `resolveName` writes its one parameter itself. -/
def Request.target : Request → List Char
  | .post path _ => path.toList
  | .get path [] => path.toList
  | .get path [("name", name)] => path.toList ++ "?name=".toList ++ FormText.encode (utf8 name)
  | .get path params =>
    path.toList ++ '?' :: FormText.encodeForm (params.map fun p => (utf8 p.1, utf8 p.2))

def Request.toHttp (apiKey : Option String) (request : Request) : HttpRequest where
  method := match request with
    | .get _ _ => .get
    | .post _ _ => .post
  target := request.target
  authorization := apiKey.map fun key => "Bearer " ++ key
  jsonContentType := true
  body := match request with
    | .get _ _ => .empty
    | .post _ json => .json json

namespace BackendClient

/-- The request a method makes. -/
def Method.request : Method → Request
  | registerWallet pubkey label =>
      .post "/v1/wallets" (.obj (("pubkey", .str pubkey) :: optional "label" label))
  | buildTransfer source dest amount mint => buildRequest source dest amount mint
  | submitTransaction signed idempotencyKey source dest amount mint => .post "/v1/tx/submit"
    (.obj ([("signed", .str signed), ("idempotency_key", .str idempotencyKey),
      ("pubkey", .str source), ("to", .str dest),
      ("amount", .str (toString amount))] ++ optional "mint" mint))
  | resolveName name => .get "/v1/resolve" [("name", name)]
  | getBalance pubkey mint =>
    .get ("/v1/wallets/" ++ pubkey ++ "/balance" ++ mint.elim "" fun mint => "?mint=" ++ mint) []
  | getHistory pubkey limit before => .get ("/v1/wallets/" ++ pubkey ++ "/transactions")
    (("limit", toString limit) :: (before.map fun cursor => ("before", cursor)).toList)
  | getTransactionStatus signature => .get ("/v1/tx/" ++ signature) []

/-- The call of a handler that a method stands for. -/
def Method.asked : Method → ApiRequest
  | registerWallet pubkey label => .register pubkey label
  | buildTransfer source dest amount mint => .build ⟨source, dest, toString amount, mint⟩
  | submitTransaction signed idempotencyKey source dest amount mint =>
    .submit ⟨signed, idempotencyKey, some source, some dest, some (toString amount), mint⟩
  | resolveName name => .resolve name
  | getBalance pubkey mint => .balance pubkey mint
  | getHistory pubkey limit before => .history pubkey (some limit) before
  | getTransactionStatus signature => .status signature

/-- What the caller of a method gets of an answer of its handler. -/
def Method.value (w : Web) : (m : Method) → ApiResponse → Option m.Result
  | registerWallet _ _, .wallet (.registered walletId _) => some (w.uuidToString walletId)
  | buildTransfer _ _ _ _, .built r => some ⟨r.message, r.validUntil, r.feePayerSignature⟩
  | submitTransaction _ _ _ _ _ _, .submitted r => some ⟨r.signature, r.status⟩
  | resolveName _, .resolved r => some r.address
  | getBalance _ _, .balance amount _ => some amount
  | getHistory _ _ _, .wallet (.transactions records) => some (records.map (Record.toJson w))
  | getTransactionStatus _, .status _ text => some text
  | _, _ => none

/-- Letters and digits only: what an address, a mint or a signature is spelled with. -/
def Alphanumeric (s : String) : Prop := s ≠ "" ∧ ∀ c ∈ s.toList, c.isAlphanum = true

/-- What goes into a path, or into a query as it is, needs no escapes; `limit` is an `int`. -/
def Method.Sendable : Method → Prop
  | getBalance pubkey mint => Alphanumeric pubkey ∧ ∀ text ∈ mint, Alphanumeric text
  | getHistory pubkey limit _ => Alphanumeric pubkey ∧ -2 ^ 63 ≤ limit ∧ limit < 2 ^ 63
  | getTransactionStatus signature => Alphanumeric signature ∧ signature ≠ "build" ∧
      signature ≠ "submit"
  | _ => True

theorem Method.run_program (m : Method) : m.program.run = .call (.http m.request) fun response =>
    .done ((do
      let body ← decodeResponse response
      m.extract body : Except DartError m.Result).mapError .thrown) := by
  have hsend : ∀ {α : Type} (request : Request) (f : Json → Except DartError α),
      (send request >>= fun body => throwing (f body)).run = .call (.http request) fun response =>
        .done ((decodeResponse response >>= f).mapError .thrown) := by
    intro α request f
    rw [send, bind_assoc, run_request_bind]
    refine congrArg (Prog.call _) (funext fun response => ?_)
    rw [throwing, run_attempt_bind]
    cases decodeResponse response with
    | error e => rfl
    | ok body => rfl
  cases m with
  | submitTransaction signed idempotencyKey source dest amount mint =>
    rw [program, submitTransaction_eq, hsend]
    rfl
  | registerWallet pubkey label => exact hsend _ _
  | buildTransfer source dest amount mint => exact hsend _ _
  | resolveName name => exact hsend _ _
  | getBalance pubkey mint => exact hsend _ _
  | getHistory pubkey limit before => exact hsend _ _
  | getTransactionStatus signature => exact hsend _ _

section Routing

variable {r : HttpRequest} {w : Web}

/-- A path of segments, each behind a slash. -/
def pathOf (segments : List (List Char)) : List Char :=
  segments.flatMap fun segment => '/' :: segment

theorem intercalate_slash (segment : List Char) (segments : List (List Char)) :
    ['/'].intercalate (segment :: segments) = segment ++ pathOf segments := by
  induction segments generalizing segment with
  | nil => simp [List.intercalate, pathOf]
  | cons next rest ih =>
    have hstep : ['/'].intercalate (segment :: next :: rest) = segment ++ '/' ::
        ['/'].intercalate (next :: rest) := by
      simp [List.intercalate]
    rw [hstep, ih, pathOf, pathOf, List.flatMap_cons, List.cons_append]

/-- A target built of segments, and perhaps a query, is taken apart again. -/
theorem segments_of_target {segments : List (List Char)} {rest : List Char}
    (htarget : r.target = pathOf segments ++ rest)
    (hrest : rest = [] ∨ ∃ query, rest = '?' :: query)
    (hplain : ∀ segment ∈ segments, '/' ∉ segment ∧ '?' ∉ segment) :
    r.segments = [] :: segments ∧ r.query = rest.drop 1 := by
  have hpath : ∀ c ∈ pathOf segments, (c != '?') = true := by
    intro c hc
    obtain ⟨segment, hsegment, hmem⟩ := List.mem_flatMap.mp hc
    rw [bne_iff_ne]
    rintro rfl
    rcases List.mem_cons.mp hmem with heq | hmem
    · cases heq
    · exact (hplain segment hsegment).2 hmem
  have hfirst : rest.takeWhile (· != '?') = [] ∧ rest.dropWhile (· != '?') = rest := by
    rcases hrest with rfl | ⟨query, rfl⟩ <;> simp
  have hsplit : (pathOf segments).splitOn '/' = [] :: segments := by
    have hslash : ∀ segment ∈ [] :: segments, '/' ∉ segment := by
      intro segment hsegment
      rcases List.mem_cons.mp hsegment with rfl | hsegment
      · exact List.not_mem_nil
      · exact (hplain segment hsegment).1
    have hwhole := List.splitOn_intercalate '/' hslash (by simp)
    rwa [intercalate_slash, List.nil_append] at hwhole
  constructor
  · rw [HttpRequest.segments, HttpRequest.path, htarget, List.takeWhile_append_of_pos hpath,
      hfirst.1, List.append_nil, hsplit]
  · rw [HttpRequest.query, htarget, List.dropWhile_append_of_pos hpath, hfirst.2]

theorem Alphanumeric.plain {s : String} (h : Alphanumeric s) :
    s.toList ≠ [] ∧ ∀ c ∈ s.toList, c ≠ '/' ∧ c ≠ '?' ∧ c ≠ '%' ∧ c ≠ '+' ∧ c ≠ '&' ∧ c ≠ '=' := by
  refine ⟨fun hnil => h.1 (String.toList_eq_nil_iff.mp hnil), fun c hc => ?_⟩
  have halnum := h.2 c hc
  refine ⟨?_, ?_, ?_, ?_, ?_, ?_⟩ <;> rintro rfl <;> exact absurd halnum (by decide)

theorem extractPath_alphanumeric {s : String} (h : Alphanumeric s) :
    extractPath s.toList = .ok s := by
  have hdecode : FormText.decode false s.toList = utf8 (String.ofList s.toList) :=
    FormText.decode_plain fun c hc => ⟨(h.plain.2 c hc).2.2.1, (h.plain.2 c hc).2.2.2.1⟩
  rw [extractPath, hdecode, String.ofList_toList, ofUtf8_utf8]
  rfl

theorem fromUtf8Lossy_utf8 (w : Web) (s : String) : w.fromUtf8Lossy (utf8 s) = s := by
  rw [Web.fromUtf8Lossy, ofUtf8_utf8]
  rfl

theorem utf8_ne_nil {s : String} (h : s ≠ "") : utf8 s ≠ [] := by
  intro hnil
  exact h (utf8_injective (hnil.trans rfl))

/-- Parameters in a form arrive as they are. -/
theorem queryPairs_encodeForm (w : Web) {params : List (String × String)}
    (h : ∀ p ∈ params, p.1 ≠ "") :
    queryPairs w (FormText.encodeForm (params.map fun p => (utf8 p.1, utf8 p.2))) = params := by
  have hnames : ∀ pair ∈ params.map (fun p => (utf8 p.1, utf8 p.2)), pair.1 ≠ [] := by
    intro pair hpair
    obtain ⟨p, hp, rfl⟩ := List.mem_map.mp hpair
    exact utf8_ne_nil (h p hp)
  have hread : (fun pair : Bytes × Bytes => (w.fromUtf8Lossy pair.1, w.fromUtf8Lossy pair.2)) ∘
      (fun p : String × String => (utf8 p.1, utf8 p.2)) = id := by
    funext p
    simp only [Function.comp_apply, fromUtf8Lossy_utf8, id_eq]
  rw [queryPairs, FormText.parseForm_encodeForm hnames, List.map_map, hread, List.map_id]

theorem digits_toDigits (n : Nat) :
    ¬ (Nat.toDigits 10 n = [] ∨ (Nat.toDigits 10 n).all Char.isDigit = false) ∧
    ∀ c ∈ Nat.toDigits 10 n, c.isDigit = true := by
  have hdigit : ∀ c ∈ Nat.toDigits 10 n, c.isDigit = true := fun c hc =>
    Nat.isDigit_of_mem_toDigits (by omega) (by omega) hc
  refine ⟨?_, hdigit⟩
  rintro (hnil | hnot)
  · exact Nat.toDigits_ne_nil hnil
  · rw [List.all_eq_true.mpr hdigit] at hnot
    cases hnot

theorem splitSign_digits {cs : List Char} (h : ∀ c ∈ cs, c.isDigit = true) :
    splitSign cs = (false, cs) := by
  unfold splitSign
  split
  · exact absurd (h '-' List.mem_cons_self) (by decide)
  · exact absurd (h '+' List.mem_cons_self) (by decide)
  · rfl

theorem i64FromStr_toString {i : Int} (h : -2 ^ 63 ≤ i ∧ i < 2 ^ 63) :
    i64FromStr (toString i) = some i := by
  cases i with
  | ofNat n =>
    obtain ⟨hwell, hdigit⟩ := digits_toDigits n
    have hlist : splitSign (toString (Int.ofNat n)).toList = (false, Nat.toDigits 10 n) := by
      have htext : (toString (Int.ofNat n)).toList = Nat.toDigits 10 n := Nat.toList_repr
      rw [htext, splitSign_digits hdigit]
    simp only [i64FromStr, hlist, hwell, if_false, Nat.ofDigitChars_ten_toDigits,
      Bool.false_eq_true]
    exact if_pos h
  | negSucc n =>
    obtain ⟨hwell, -⟩ := digits_toDigits (n + 1)
    have hlist : splitSign (toString (Int.negSucc n)).toList = (true, Nat.toDigits 10 (n + 1)) := by
      have htext : toString (Int.negSucc n) = "-" ++ (n + 1).repr := rfl
      rw [htext, String.toList_append, Nat.toList_repr]
      rfl
    simp only [i64FromStr, hlist, hwell, if_false, if_true, Nat.ofDigitChars_ten_toDigits]
    exact if_pos h

variable {apiKey : Option String}

/-- The request is routed to the endpoint whose extractors find `asked`. -/
def Reaches (w : Web) (r : HttpRequest) (asked : ApiRequest) : Prop :=
  ∃ e, Endpoint.ofSegments r.segments = some e ∧ e.method = r.method ∧ e.extract w r = .ok asked

theorem reaches_of_target {r : HttpRequest} {asked : ApiRequest} (e : Endpoint)
    (segments : List (List Char))
    (rest : List Char) (htarget : r.target = pathOf segments ++ rest)
    (hrest : rest = [] ∨ ∃ query, rest = '?' :: query)
    (hplain : ∀ segment ∈ segments, '/' ∉ segment ∧ '?' ∉ segment)
    (hroute : Endpoint.ofSegments ([] :: segments) = some e) (hmethod : e.method = r.method)
    (hextract : r.query = rest.drop 1 → e.extract w r = .ok asked) : Reaches w r asked := by
  obtain ⟨hsegments, hquery⟩ := segments_of_target htarget hrest hplain
  exact ⟨e, by rw [hsegments, hroute], hmethod, hextract hquery⟩

theorem reaches_registerWallet (pubkey : String) (label : Option String) :
    Reaches w ((Method.registerWallet pubkey label).request.toHttp apiKey)
      (.register pubkey label) := by
  apply reaches_of_target .register ["v1".toList, "wallets".toList] [] rfl
    (.inl rfl) (by decide) rfl rfl
  intro _
  cases label <;> rfl

theorem reaches_buildTransfer (source dest : String) (amount : Int) (mint : Option String) :
    Reaches w ((Method.buildTransfer source dest amount mint).request.toHttp apiKey)
      (.build ⟨source, dest, toString amount, mint⟩) := by
  apply reaches_of_target .build ["v1".toList, "tx".toList, "build".toList] [] rfl
    (.inl rfl) (by decide) rfl rfl
  intro _
  cases mint <;> rfl

theorem reaches_submitTransaction (signed idempotencyKey source dest : String) (amount : Int)
    (mint : Option String) :
    Reaches w
      ((Method.submitTransaction signed idempotencyKey source dest amount mint).request.toHttp
        apiKey)
      (.submit ⟨signed, idempotencyKey, some source, some dest, some (toString amount), mint⟩) := by
  apply reaches_of_target .submit ["v1".toList, "tx".toList, "submit".toList] [] rfl
    (.inl rfl) (by decide) rfl rfl
  intro _
  cases mint <;> rfl

theorem reaches_resolveName (name : String) :
    Reaches w ((Method.resolveName name).request.toHttp apiKey) (.resolve name) := by
  have htarget : ((Method.resolveName name).request.toHttp apiKey).target =
      pathOf ["v1".toList, "resolve".toList] ++ "?name=".toList ++
        FormText.encode (utf8 name) := rfl
  rw [List.append_assoc] at htarget
  apply reaches_of_target .resolve ["v1".toList, "resolve".toList] _ htarget
    (.inr ⟨_, rfl⟩) (by decide) rfl rfl
  intro hquery
  have hpiece : ((Method.resolveName name).request.toHttp apiKey).query =
      FormText.encode (utf8 "name") ++ '=' :: FormText.encode (utf8 name) := hquery
  have hplain : '&' ∉ FormText.encode (utf8 "name") ++ '=' :: FormText.encode (utf8 name) := by
    intro hmem
    rcases List.mem_append.mp hmem with hmem | hmem
    · exact (FormText.encode_plain hmem).1 rfl
    · rcases List.mem_cons.mp hmem with heq | hmem
      · cases heq
      · exact (FormText.encode_plain hmem).1 rfl
  have hform := FormText.parseForm_single (by simp) hplain
  rw [FormText.parsePair_equals] at hform
  have hpairs : queryPairs w (FormText.encode (utf8 "name") ++ '=' :: FormText.encode (utf8 name)) =
      [("name", name)] := by
    rw [queryPairs, hform, List.map_singleton, fromUtf8Lossy_utf8, fromUtf8Lossy_utf8]
  rw [Endpoint.extract, hpiece, hpairs]
  rfl

theorem segments_plain {s : String} (h : Alphanumeric s) {before after : List (List Char)}
    (hfixed : ∀ segment ∈ before ++ after, '/' ∉ segment ∧ '?' ∉ segment) :
    ∀ segment ∈ before ++ s.toList :: after, '/' ∉ segment ∧ '?' ∉ segment := by
  intro segment hsegment
  rcases List.mem_append.mp hsegment with hmem | hmem
  · exact hfixed segment (List.mem_append_left _ hmem)
  · rcases List.mem_cons.mp hmem with rfl | hmem
    · exact ⟨fun hc => (h.plain.2 _ hc).1 rfl, fun hc => (h.plain.2 _ hc).2.1 rfl⟩
    · exact hfixed segment (List.mem_append_right _ hmem)

theorem reaches_getTransactionStatus {signature : String}
    (h : (Method.getTransactionStatus signature).Sendable) :
    Reaches w ((Method.getTransactionStatus signature).request.toHttp apiKey)
      (.status signature) := by
  obtain ⟨halnum, hbuild, hsubmit⟩ := h
  have htarget : ((Method.getTransactionStatus signature).request.toHttp apiKey).target =
      pathOf (["v1".toList, "tx".toList] ++ [signature.toList]) ++ [] := by
    have hpath : ("/v1/tx/" ++ signature).toList = "/v1/tx/".toList ++ signature.toList :=
      String.toList_append
    change ("/v1/tx/" ++ signature).toList = _
    rw [hpath]
    simp [pathOf]
  have hroute : Endpoint.ofSegments ([] :: (["v1".toList, "tx".toList] ++ [signature.toList])) =
      some (.status signature.toList) := by
    have hne : signature.toList ≠ "build".toList ∧ signature.toList ≠ "submit".toList :=
      ⟨fun he => hbuild (String.toList_inj.mp he), fun he => hsubmit (String.toList_inj.mp he)⟩
    have hlast : Endpoint.ofRoute ["tx".toList, signature.toList] =
        some (.status signature.toList) := by
      rw [Endpoint.ofRoute, if_pos rfl, if_neg hne.1, if_neg hne.2, if_neg halnum.plain.1]
    exact hlast
  apply reaches_of_target (.status signature.toList) _ _ htarget (.inl rfl)
    (segments_plain halnum (by decide)) hroute rfl
  intro _
  rw [Endpoint.extract, extractPath_alphanumeric halnum]
  rfl

/-- A mint written into the query as it is arrives as it is. -/
theorem queryPairs_mint (w : Web) {mint : String} (h : Alphanumeric mint) :
    queryPairs w ("mint=".toList ++ mint.toList) = [("mint", mint)] := by
  have hplain : '&' ∉ "mint=".toList ++ mint.toList := by
    intro hmem
    rcases List.mem_append.mp hmem with hmem | hmem
    · exact absurd hmem (by decide)
    · exact (h.plain.2 _ hmem).2.2.2.2.1 rfl
  have hvalue : FormText.decode true mint.toList = utf8 mint := by
    have hdecode : FormText.decode true mint.toList = utf8 (String.ofList mint.toList) :=
      FormText.decode_plain fun c hc => ⟨(h.plain.2 c hc).2.2.1, (h.plain.2 c hc).2.2.2.1⟩
    rwa [String.ofList_toList] at hdecode
  have hpair : FormText.parsePair ("mint=".toList ++ mint.toList) = (utf8 "mint", utf8 mint) := by
    have hsplit : "mint=".toList ++ mint.toList = "mint".toList ++ '=' :: mint.toList := rfl
    have hname : ∀ c ∈ "mint".toList, c ≠ '=' := by simp
    obtain ⟨htake, hdrop⟩ := FormText.takeWhile_until hname
    rw [hsplit, FormText.parsePair, htake, hdrop, List.drop_one, List.tail_cons, hvalue]
    rfl
  rw [queryPairs, FormText.parseForm_single (by simp) hplain, List.map_singleton,
    hpair, fromUtf8Lossy_utf8, fromUtf8Lossy_utf8]

theorem reaches_getBalance {pubkey : String} {mint : Option String}
    (h : (Method.getBalance pubkey mint).Sendable) :
    Reaches w ((Method.getBalance pubkey mint).request.toHttp apiKey) (.balance pubkey mint) := by
  obtain ⟨halnum, hmint⟩ := h
  have hsegments : ∀ segment ∈ ["v1".toList, "wallets".toList] ++
      pubkey.toList :: ["balance".toList],
      '/' ∉ segment ∧ '?' ∉ segment := segments_plain halnum (by decide)
  have hroute :
      Endpoint.ofSegments
        ([] :: (["v1".toList, "wallets".toList] ++ pubkey.toList :: ["balance".toList])) =
      some (.balance pubkey.toList) := rfl
  have hpath : ("/v1/wallets/" ++ pubkey ++ "/balance").toList =
      pathOf (["v1".toList, "wallets".toList] ++ pubkey.toList :: ["balance".toList]) := by
    rw [String.toList_append, String.toList_append]
    simp [pathOf]
  cases mint with
  | none =>
    have htarget : ((Method.getBalance pubkey none).request.toHttp apiKey).target =
        pathOf (["v1".toList, "wallets".toList] ++ pubkey.toList :: ["balance".toList]) ++ [] := by
      change ("/v1/wallets/" ++ pubkey ++ "/balance" ++ "").toList = _
      rw [String.toList_append, hpath]
      rfl
    apply reaches_of_target (.balance pubkey.toList) _ _ htarget (.inl rfl) hsegments hroute rfl
    intro hquery
    rw [Endpoint.extract, extractPath_alphanumeric halnum, hquery]
    rfl
  | some mint =>
    have htarget : ((Method.getBalance pubkey (some mint)).request.toHttp apiKey).target =
        pathOf (["v1".toList, "wallets".toList] ++ pubkey.toList :: ["balance".toList]) ++
          ("?mint=".toList ++ mint.toList) := by
      have htext : ("/v1/wallets/" ++ pubkey ++ "/balance" ++ ("?mint=" ++ mint)).toList =
          ("/v1/wallets/" ++ pubkey ++ "/balance").toList ++ ("?mint=" ++ mint).toList :=
            String.toList_append
      change ("/v1/wallets/" ++ pubkey ++ "/balance" ++ ("?mint=" ++ mint)).toList = _
      rw [htext, hpath, String.toList_append]
    apply reaches_of_target (.balance pubkey.toList) _ _ htarget
      (.inr ⟨_, rfl⟩) hsegments hroute rfl
    intro hquery
    have hpairs := queryPairs_mint w (hmint mint rfl)
    change _ = "mint=".toList ++ mint.toList at hquery
    rw [Endpoint.extract, extractPath_alphanumeric halnum, hquery, hpairs]
    rfl

theorem reaches_getHistory {pubkey : String} {limit : Int} {before : Option String}
    (h : (Method.getHistory pubkey limit before).Sendable) :
    Reaches w ((Method.getHistory pubkey limit before).request.toHttp apiKey)
      (.history pubkey (some limit) before) := by
  obtain ⟨halnum, hlimit⟩ := h
  let params := ("limit", toString limit) :: (before.map fun cursor => ("before", cursor)).toList
  have hsegments : ∀ segment ∈ ["v1".toList, "wallets".toList] ++ pubkey.toList ::
      ["transactions".toList],
      '/' ∉ segment ∧ '?' ∉ segment := segments_plain halnum (by decide)
  have hroute :
      Endpoint.ofSegments
        ([] :: (["v1".toList, "wallets".toList] ++ pubkey.toList :: ["transactions".toList])) =
      some (.history pubkey.toList) := rfl
  have htarget : ((Method.getHistory pubkey limit before).request.toHttp apiKey).target =
      pathOf (["v1".toList, "wallets".toList] ++ pubkey.toList :: ["transactions".toList]) ++
        '?' :: FormText.encodeForm (params.map fun p => (utf8 p.1, utf8 p.2)) := by
    have hform : ((Method.getHistory pubkey limit before).request.toHttp apiKey).target =
        ("/v1/wallets/" ++ pubkey ++ "/transactions").toList ++
          '?' :: FormText.encodeForm (params.map fun p => (utf8 p.1, utf8 p.2)) := by
      cases before <;> rfl
    rw [hform, String.toList_append, String.toList_append]
    simp [pathOf]
  apply reaches_of_target (.history pubkey.toList) _ _ htarget (.inr ⟨_, rfl⟩) hsegments hroute rfl
  intro hquery
  have hnames : ∀ p ∈ params, p.1 ≠ "" := by
    intro p hp
    cases before with
    | none =>
      obtain rfl : p = ("limit", toString limit) := by simpa [params] using hp
      simp
    | some cursor =>
      obtain rfl | rfl : p = ("limit", toString limit) ∨ p = ("before", cursor) := by
        simpa [params] using hp
      · simp
      · simp
  have hpairs := queryPairs_encodeForm w hnames
  have htext : i64FromStr (toString limit) = some limit := i64FromStr_toString hlimit
  rw [List.drop_one, List.tail_cons] at hquery
  have hextracted : optionalI64 params "limit" = .ok (some limit) ∧
      optionalField params "before" = .ok before := by
    have hread : (i64FromStr (toString limit)).elim (.error (rejection 400))
        (fun i => .ok (some i)) =
        (.ok (some limit) : Except Response (Option Int)) := by rw [htext]; rfl
    cases before with
    | none => exact ⟨hread, rfl⟩
    | some cursor => exact ⟨hread, rfl⟩
  simp only [Endpoint.extract, extractPath_alphanumeric halnum, hquery, hpairs,
    hextracted.1, hextracted.2]
  rfl

theorem Method.reaches {m : Method} (hm : m.Sendable) (apiKey : Option String) (w : Web) :
    Reaches w (m.request.toHttp apiKey) m.asked := by
  cases m with
  | registerWallet pubkey label => exact reaches_registerWallet pubkey label
  | buildTransfer source dest amount mint => exact reaches_buildTransfer source dest amount mint
  | submitTransaction signed idempotencyKey source dest amount mint =>
    exact reaches_submitTransaction signed idempotencyKey source dest amount mint
  | resolveName name => exact reaches_resolveName name
  | getBalance pubkey mint => exact reaches_getBalance hm
  | getHistory pubkey limit before => exact reaches_getHistory hm
  | getTransactionStatus signature => exact reaches_getTransactionStatus hm

end Routing

section Errors

/-- What the client makes of an error of the backend. -/
def reported : AppError → XendError
  | .rateLimited seconds => .rateLimited seconds
  | .insufficientFunds => .insufficientFunds
  | .invalidRecipient => .invalidRecipient
  | .blockhashExpired => .blockhashExpired
  | .chainRejected reason => .chainRejected ("chain rejected: " ++ reason)
  | e => .networkError ("backend error (" ++ toString e.statusCode ++ "): " ++ e.publicMessage)

def errorFields (e : AppError) : Json :=
  .obj [("code", .str e.code), ("message", .str e.publicMessage), ("retry_after", e.retryAfter)]

theorem decodeResponse_body (e : AppError) :
    decodeResponse (some ⟨e.statusCode, .json e.body⟩) =
      (mapCode e.statusCode (errorFields e) e.publicMessage (some e.code)).bind fun x =>
        .error (.xend x) := by
  rw [AppError.body, decodeResponse_of_status e.statusCode_ge]
  rfl

theorem mapCode_other {code : String} (status : Nat) (error : Json) (message : String)
    (h : code ∉ ["insufficient_funds", "invalid_recipient", "blockhash_expired",
      "chain_rejected", "rate_limited"]) :
    mapCode status error message (some code) =
      .ok (.networkError ("backend error (" ++ toString status ++ "): " ++ message)) := by
  unfold mapCode
  split
  all_goals first | rfl | exact absurd (by simp_all) h

theorem decodeResponse_error {e : AppError} (h : e.InRange) :
    decodeResponse (some ⟨e.statusCode, .json e.body⟩) = .error (.xend (reported e)) := by
  have hother : e.code ∉ ["insufficient_funds", "invalid_recipient", "blockhash_expired",
      "chain_rejected", "rate_limited"] →
      decodeResponse (some ⟨e.statusCode, .json e.body⟩) =
        .error (.xend (.networkError ("backend error (" ++ toString e.statusCode ++ "): " ++
          e.publicMessage))) := by
    intro hcode
    rw [decodeResponse_body, mapCode_other _ _ _ hcode]
    rfl
  cases e with
  | rateLimited seconds => exact rateLimited_thrown h
  | insufficientFunds => rfl
  | invalidRecipient => rfl
  | blockhashExpired => rfl
  | chainRejected reason => rfl
  | badRequest message => exact hother (by simp [AppError.code])
  | network detail => exact hother (by simp [AppError.code])
  | unauthorized => exact hother (by simp [AppError.code])
  | database detail => exact hother (by simp [AppError.code])
  | internal detail => exact hother (by simp [AppError.code])

end Errors
section Values

variable {w : Web}

theorem unsignedFromChars_digits {cs : List Char} (hne : cs ≠ []) (h : ∀ c ∈ cs, c.isDigit = true) :
    unsignedFromChars cs = some (Nat.ofDigitChars 10 cs 0) := by
  cases cs with
  | nil => exact absurd rfl hne
  | cons c cs =>
    have hall : (c :: cs).all Char.isDigit = true := List.all_eq_true.mpr h
    simp only [unsignedFromChars, hall, if_true]

theorem isBlank_digit {c : Char} (h : c.isDigit = true) : isBlank c = false := by
  have hrange : 48 ≤ c.toNat ∧ c.toNat ≤ 57 := by
    simpa [Char.isDigit, UInt32.le_iff_toNat_le] using h
  have hspace : isSpace c = false := by
    have hlisted : [0x20, 0x85, 0xA0, 0x1680, 0x2028, 0x2029, 0x202F, 0x205F, 0x3000,
        0xFEFF].contains c.toNat = false := by
      simp only [List.contains_eq_mem, decide_eq_false_iff_not, List.mem_cons,
        List.not_mem_nil, or_false]
      omega
    have hlow : (9 ≤ c.toNat && c.toNat ≤ 13) = false := by simp; omega
    have hhigh : (0x2000 ≤ c.toNat && c.toNat ≤ 0x200A) = false := by simp; omega
    rw [isSpace, hlow, hhigh, hlisted]
    rfl
  rw [isBlank, hspace, Bool.false_and]

theorem bigIntParse_repr (n : Nat) : bigIntParse n.repr = .ok (n : Int) := by
  obtain ⟨-, hdigit⟩ := digits_toDigits n
  have hne : Nat.toDigits 10 n ≠ [] := Nat.toDigits_ne_nil
  have hblank : ∀ cs : List Char, (∀ c ∈ cs, c.isDigit = true) → cs.dropWhile isBlank = cs := by
    intro cs hcs
    cases cs with
    | nil => rfl
    | cons c cs =>
      rw [List.dropWhile_cons_of_neg (by simp [isBlank_digit (hcs c List.mem_cons_self)])]
  have htrim : ((n.repr.toList.dropWhile isBlank).reverse.dropWhile isBlank).reverse =
      Nat.toDigits 10 n := by
    rw [Nat.toList_repr, hblank _ hdigit, hblank _ (by simpa using hdigit), List.reverse_reverse]
  have hvalue := unsignedFromChars_digits hne hdigit
  rw [Nat.ofDigitChars_ten_toDigits] at hvalue
  rw [bigIntParse, bigIntTryParse, htrim]
  split
  · rename_i cs hcs
    exact absurd (hdigit '-' (hcs ▸ List.mem_cons_self)) (by decide)
  · rename_i cs hcs
    exact absurd (hdigit '+' (hcs ▸ List.mem_cons_self)) (by decide)
  · rw [hvalue]
    rfl

theorem outcome_value {m : Method} {v : ApiResponse} {x : m.Result} (h : m.value w v = some x)
    (hrange : v.InRange) :
    m.outcome (.response (intoResponse w (.ok v))) = .ok x := by
  have hdecoded : ∀ {fields : List (String × Json)}, v.toJson w = .obj fields →
      m.extract (.obj fields) = .ok x →
      m.outcome (.response (intoResponse w (.ok v))) = .ok x := by
    intro fields hjson hextract
    have hbody : decodeResponse (some (intoResponse w (.ok v))) = .ok (.obj fields) := by
      rw [intoResponse, hjson]
      rfl
    rw [Method.outcome_response, hbody]
    change (m.extract (.obj fields)).mapError _ = _
    rw [hextract]
    rfl
  unfold Method.value at h
  split at h
  case h_8 => cases h
  case h_5 =>
    cases h
    exact hdecoded rfl (bigIntParse_repr _)
  case h_2 r =>
    cases h
    obtain ⟨hmessage, htime, hsponsor⟩ := XendWallet.toJson_fields r
    have hint : asInt (.int r.validUntil) = .ok (r.validUntil : Int) := by
      have hlt : r.validUntil < 2 ^ 63 := hrange
      rw [asInt, if_pos]
      constructor <;> omega
    have hbuilt : builtFrom r.toJson = .ok ⟨r.message, r.validUntil, r.feePayerSignature⟩ :=
      XendWallet.builtFrom_eq_ok (by rw [hmessage, asString]) (by rw [htime, hint]) hsponsor
    exact hdecoded rfl hbuilt
  all_goals
    cases h
    exact hdecoded rfl rfl

end Values

section Conformance

/-- What becomes of a request behind the gateway, once it reached its handler. -/
def performed (b : Backend) (s : ServerState) (a : Arrived) (asked : ApiRequest) :
    ServerState × Option (Except AppError ApiResponse) :=
  match b.gateway.handle s.windows ⟨a.time, a.request.authorization⟩ with
  | (windows, .error error) => (⟨windows, s.ledger⟩, some (.error error))
  | (windows, .ok _) =>
    let out := (asked.handler b a.upstream).run.run Ledger.execute s.ledger a.verdicts
    (⟨windows, out.1⟩, out.2)

/-- An answer is delivered as its value, an error as the one it is reported as. -/
def Delivered (w : Web) (m : Method) (answer : Except AppError ApiResponse)
    (outcome : Except (Halt DartError) m.Result) : Prop :=
  match answer with
  | .error e => outcome = .error (.thrown (.xend (reported e)))
  | .ok v => ∃ x, m.value w v = some x ∧ outcome = .ok x

variable {b : Backend} {m : Method} {s : ServerState} {a : Arrived}

theorem serve_reached {asked : ApiRequest} (h : Reaches b.web a.request asked) :
    b.serve s a =
      ((performed b s a asked).1, (performed b s a asked).2.map (intoResponse b.web)) := by
  obtain ⟨e, hroute, hmethod, hextract⟩ := h
  have hhealth : a.request.path ≠ "/health".toList := by
    intro hpath
    rw [HttpRequest.segments, hpath] at hroute
    have hnone : Endpoint.ofSegments ("/health".toList.splitOn '/') = none := by rfl
    rw [hnone] at hroute
    cases hroute
  have hendpoint : b.endpoint s.ledger a e =
      (((asked.handler b a.upstream).run.run Ledger.execute s.ledger a.verdicts).1,
        ((asked.handler b a.upstream).run.run Ledger.execute s.ledger a.verdicts).2.map
          (intoResponse b.web)) := by
    have haccepts : e.accepts a.request.method = true := by simp [Endpoint.accepts, hmethod]
    rw [Backend.endpoint, haccepts, hextract]
    rfl
  have hhead : a.request.method ≠ .head := by
    rw [← hmethod]
    cases e <;> simp [Endpoint.method]
  rw [Backend.serve, Backend.route, if_neg hhealth, hroute, performed]
  obtain ⟨windows, r⟩ := b.gateway.handle s.windows ⟨a.time, a.request.authorization⟩
  cases r with
  | error error => simp only [if_neg hhead, Option.map_some]
  | ok _ =>
    dsimp only
    rw [hendpoint, if_neg hhead]

theorem gateway_inRange {keys : Option String} (windows : FixedWindow.Counters String)
    (r : Xend.Request) {e : AppError}
    (h : ((Gateway.fromEnv keys).handle windows r).2 = .error e) : e.InRange := by
  have hlimits : (Gateway.fromEnv keys).limits.window = 60 * nanosPerSec := rfl
  by_cases hadmits : FixedWindow.Admits (Gateway.fromEnv keys).limits
    (windows.lookup r.caller) r.time
  · rw [Gateway.handle, enforce, recordCaller_of_admits hadmits] at h
    change requireApiKey _ r = .error e at h
    rw [requireApiKey] at h
    split at h
    · cases h
    · obtain rfl := Except.error.inj h
      trivial
  · rw [Gateway.handle, enforce, recordCaller_of_full hadmits] at h
    obtain rfl := Except.error.inj h
    rw [AppError.InRange, hlimits]
    have hle := Nat.sub_le (60 * nanosPerSec)
      (r.time - (FixedWindow.current (Gateway.fromEnv keys).limits
        (windows.lookup r.caller) r.time).started)
    unfold nanosPerSec at hle ⊢
    omega

theorem value_of_answeredBy (w : Web) {up : Upstream} {v : ApiResponse}
    (h : m.asked.AnsweredBy up v) :
    ∃ x, m.value w v = some x := by
  cases m with
  | registerWallet pubkey label =>
    rcases v with (⟨walletId, p⟩ | _) | _ | _ | _ | _ | _ <;>
      first | exact absurd h id | exact ⟨_, rfl⟩
  | getHistory pubkey limit before =>
    rcases v with (_ | records) | _ | _ | _ | _ | _ <;> first | exact absurd h id | exact ⟨_, rfl⟩
  | _ => cases v <;> first | exact absurd h id | exact ⟨_, rfl⟩

theorem delivered (w : Web) {answer : Except AppError ApiResponse} {up : Upstream}
    (hclock : up.build.now + 90 < 2 ^ 63)
    (herror : ∀ e, answer = .error e → e.InRange)
    (hvalue : ∀ v, answer = .ok v → m.asked.AnsweredBy up v) :
    Delivered w m answer (m.outcome (.response (intoResponse w answer))) := by
  cases answer with
  | error e =>
    rw [Delivered, Method.outcome_response, intoResponse, decodeResponse_error (herror e rfl)]
    rfl
  | ok v =>
    have hanswered := hvalue v rfl
    obtain ⟨x, hx⟩ := value_of_answeredBy w hanswered
    have hrange : v.InRange := by
      cases v with
      | built r =>
        have htime : r.validUntil = up.build.now + 90 := by
          cases m <;> first | exact absurd hanswered id | exact hanswered
        rw [ApiResponse.InRange, htime]
        exact hclock
      | _ => trivial
    exact ⟨x, hx, outcome_value hx hrange⟩

theorem performed_sound {keys : Option String} (hgateway : b.gateway = .fromEnv keys)
    {asked : ApiRequest}
    {answer : Except AppError ApiResponse} (h : (performed b s a asked).2 = some answer) :
    (∀ e, answer = .error e → e.InRange) ∧ ∀ v, answer = .ok v → asked.AnsweredBy a.upstream v := by
  have hrange : ∀ e, (b.gateway.handle s.windows ⟨a.time, a.request.authorization⟩).2 = .error e →
      e.InRange := by
    intro e he
    rw [hgateway] at he
    exact gateway_inRange _ _ he
  rw [performed] at h
  generalize b.gateway.handle s.windows ⟨a.time, a.request.authorization⟩ = admitted at h hrange
  obtain ⟨windows, _ | _⟩ := admitted
  · obtain rfl := Option.some.inj h
    refine ⟨fun e he => ?_, fun v hv => (by cases hv)⟩
    obtain rfl := Except.error.inj he
    exact hrange _ rfl
  · have hends :=
      ((answering_handler b a.upstream asked s.ledger).run a.verdicts fun _ _ => trivial).2 answer h
    cases answer with
    | error e =>
      refine ⟨fun e' he => ?_, fun v hv => (by cases hv)⟩
      obtain rfl := Except.error.inj he
      cases e with
      | rateLimited seconds => exact absurd rfl (hends seconds)
      | _ => trivial
    | ok v =>
      refine ⟨fun e he => (by cases he), fun v' hv => ?_⟩
      obtain rfl := Except.ok.inj hv
      exact hends

/-- Whatever the backend has served before: the one request of a method is served by the
handler it is meant for, with the method's arguments, and its caller gets the handler's
value or the error that stands for the handler's. -/
theorem requests_conform {keys : Option String} (hgateway : b.gateway = .fromEnv keys)
    (hm : m.Sendable)
    {apiKey : Option String} (hrequest : a.request = m.request.toHttp apiKey)
    (hclock : a.upstream.build.now + 90 < 2 ^ 63)
    (s : ServerState) :
    let out := performed b s a m.asked
    (∃ k : Option Response →
      _, m.program.run = .call (.http m.request) fun response => .done (k response)) ∧
      (b.serve s a).1 = out.1 ∧ (out.2 = none → (b.serve s a).2 = none) ∧
      ∀ answer, out.2 = some answer →
        ∃ response, (b.serve s a).2 = some response ∧
        Delivered b.web m answer (m.outcome (.response response)) := by
  intro out
  have hreaches : Reaches b.web a.request m.asked := hrequest ▸ m.reaches hm apiKey b.web
  have hserve : b.serve s a = (out.1, out.2.map (intoResponse b.web)) := serve_reached hreaches
  refine ⟨⟨_, m.run_program⟩, by rw [hserve], fun hnone => by rw [hserve, hnone]; rfl,
    fun answer hanswer => ?_⟩
  obtain ⟨herror, hvalue⟩ := performed_sound hgateway hanswer
  exact ⟨intoResponse b.web answer, by rw [hserve, hanswer]; rfl,
    delivered b.web hclock herror hvalue⟩

def sampleWeb : Web where
  bs58 := Base58.decode
  parseFromRfc3339 _ := none
  replaceInvalid _ := ""
  uuidToString := Nat.repr
  toRfc3339 := Nat.repr

def sampleBackend : Backend where
  adapter := XendWallet.sampleAdapter
  web := sampleWeb
  gateway := .fromEnv none
  hashv _ := default
  display _ := ""

/-- Every signature is finalised. -/
def finalizedUpstream : Upstream where
  build := Reference.buildRpc true
  read :=
    { signatureStatuses _ := nodeReply
        (.obj [("err", .null), ("confirmationStatus", .str "finalized")])
      balance _ := nodeReply .null
      tokenAccountsByOwner _ _ := nodeReply .null
      accountInfo _ := nodeReply .null }

def registerMethod : Method := .registerWallet "11111111111111111111111111111111" (some "main")

def registerArrived : Arrived :=
  ⟨registerMethod.request.toHttp (some "key"), 0, finalizedUpstream,
    [⟨none, 0, true, nodeReply .null⟩]⟩

/-- The first wallet to be registered. -/
theorem requests_conform_register :
    (sampleBackend.serve ⟨∅, .empty ∅⟩ registerArrived).1.ledger.findIdByPubkey
      "11111111111111111111111111111111" =
        some 1 ∧
      ∃ response, (sampleBackend.serve ⟨∅, .empty ∅⟩ registerArrived).2 = some response ∧
        registerMethod.outcome (.response response) = .ok "1" := by
  obtain ⟨-, hstate, -, h⟩ :=
    requests_conform (b := sampleBackend) (m := registerMethod)
      (a := registerArrived) rfl trivial rfl
    (show 0 + 90 < 2 ^ 63 by omega) ⟨∅, .empty ∅⟩
  rw [hstate]
  obtain ⟨response, hresponse, x, hx, houtcome⟩ := h (.ok (.wallet (.registered 1 _))) rfl
  obtain rfl : "1" = x := Option.some.inj hx
  exact ⟨rfl, response, hresponse, houtcome⟩

end Conformance
end BackendClient

end Sdk

end Xend
