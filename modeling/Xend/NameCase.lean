import Mathlib
import Xend.ChainReads
import Xend.SigningBoundary

/-! Resolution of a name through both sides: the SDK takes it for a name whatever
the case of its letters, and the backend strips the suffix and hashes the label as
they are spelled. -/

namespace Xend

open Framing

structure ResolveResponse where
  name : String
  address : String

def ResolveResponse.toJson (r : ResolveResponse) : Json :=
  .obj [("name", .str r.name), ("address", .str r.address)]

section Handler

variable (sdk : SolanaSdk) (hashv : List Bytes → Hash) (rpc : ReadRpc)

def resolve (name : String) : Except AppError ResolveResponse := do
  let address ← resolveName sdk hashv rpc name
  .ok ⟨name, address⟩

/-- The owner of the domain account of a label, as the chain assigns it. -/
def labelOwner (label : List Char) : Except AppError String := do
  let owner ← snsDomainOwner
      (rpc.accountInfo (sdk.pubkeyToString (solDomainKey sdk hashv (String.ofList label))))
  .ok (sdk.pubkeyToString owner)

end Handler

/-- What stands in front of a suffix of four characters. -/
def frontLabel (name : String) : List Char := name.toList.take (name.toList.length - 4)

def suffixIsExact (name : String) : Bool := decide (".sol".toList <:+ name.toList)

/-- Domain accounts are addressed by a hash of their seeds: they are not all one. -/
def SolanaSdk.SpreadsDomains (sdk : SolanaSdk) : Prop :=
  ∃ hashv hashv' : List Bytes → Hash,
    sdk.pubkeyToString (solDomainKey sdk hashv "") ≠ sdk.pubkeyToString (solDomainKey sdk hashv' "")

namespace Sdk

open BackendClient Interaction

/-- A name of one label, as the SDK accepts it. -/
structure OneLabel (name : String) : Prop where
  accepted : isSolName name = true
  nonempty : frontLabel name ≠ []
  dotless : '.' ∉ frontLabel name

section Resolution

variable (sdk : SolanaSdk) (hashv : List Bytes → Hash) (rpc : ReadRpc)

def resolveEndpoint (name : String) : Response :=
  match resolve sdk hashv rpc name with
  | .ok r => ⟨200, .json r.toJson⟩
  | .error e => ⟨e.statusCode, .json e.body⟩

/-- Requests for a name reach the handler. -/
def directory : Call → Verdict
  | .http (.get path query) =>
    let response :=
      if path = "/v1/resolve" then (query.lookup "name").elim ⟨400, .malformed⟩
        (resolveEndpoint sdk hashv rpc)
      else ⟨404, .empty⟩
    XendWallet.respond response (.http (.get path query))
  | c => XendWallet.respond ⟨404, .empty⟩ c

/-- What the caller of `resolveName` gets, from the client through the handler and back. -/
def resolution (name : String) : Except (Halt DartError) String :=
  ((XendWallet.resolveName name).run.answered Device.execute
    (directory sdk hashv rpc) Device.blank).2

end Resolution

section Backend

variable {sdk : SolanaSdk} {hashv : List Bytes → Hash} {rpc : ReadRpc} {name : String}

/-- An answer, or that there is none, or that the chain could not be asked. -/
def Answers {α : Type} (r : Except AppError α) : Prop :=
  (∃ a, r = .ok a) ∨ r = .error .invalidRecipient ∨ ∃ detail, r = .error (.network detail)

theorem Answers.bind {α β : Type} {r : Except AppError α}
    {f : α → Except AppError β} (h : Answers r)
    (hf : ∀ a, Answers (f a)) : Answers (r >>= f) := by
  obtain ⟨a, rfl⟩ | rfl | ⟨detail, rfl⟩ := h
  · exact hf a
  · exact .inr (.inl rfl)
  · exact .inr (.inr ⟨detail, rfl⟩)

theorem answers_okOr {α : Type} (o : Option α) (detail : String) :
    Answers (okOr o (.network detail)) := by
  cases o with
  | none => exact .inr (.inr ⟨detail, rfl⟩)
  | some a => exact .inl ⟨a, rfl⟩

theorem answers_snsDomainOwner (reply : RpcReply) : Answers (snsDomainOwner reply) := by
  have hjson : Answers reply.snsJson := by
    cases reply with
    | transport e => exact .inr (.inr ⟨_, rfl⟩)
    | undecodable e => exact .inr (.inr ⟨_, rfl⟩)
    | body j => exact .inl ⟨j, rfl⟩
  apply hjson.bind
  intro body
  by_cases hnull : ((body.field "result").field "value").isNull = true
  · simp only [hnull, if_true]
    exact .inr (.inl rfl)
  · simp only [hnull, Bool.false_eq_true, if_false]
    apply (answers_okOr _ _).bind
    intro encoded
    apply (answers_okOr _ _).bind
    intro data
    exact answers_okOr _ _

theorem answers_labelOwner (sdk : SolanaSdk) (hashv : List Bytes → Hash) (rpc : ReadRpc)
    (label : List Char) :
    Answers (labelOwner sdk hashv rpc label) := by
  apply (answers_snsDomainOwner _).bind
  intro owner
  exact .inl ⟨_, rfl⟩

theorem resolveName_of_exact (h : OneLabel name) (hexact : suffixIsExact name = true) :
    Xend.resolveName sdk hashv rpc name = labelOwner sdk hashv rpc (frontLabel name) := by
  have hsuffix : ".sol".toList.isSuffixOf name.toList = true :=
    List.isSuffixOf_iff_suffix.mpr (of_decide_eq_true hexact)
  have hempty : (frontLabel name).isEmpty = false := List.isEmpty_eq_false_iff.mpr h.nonempty
  have hdot : (frontLabel name).contains '.' = false := by simpa using h.dotless
  have hlabel : solLabel name = some (String.ofList (frontLabel name)) := by
    simp only [frontLabel] at hempty hdot
    simp only [solLabel, hsuffix, if_true, hempty, hdot, Bool.or_false, Bool.false_eq_true,
      if_false, frontLabel]
  simp only [Xend.resolveName, hlabel]
  rfl

theorem resolveName_of_miscased (hexact : suffixIsExact name = false) :
    Xend.resolveName sdk hashv rpc name = .error .invalidRecipient := by
  have hsuffix : ".sol".toList.isSuffixOf name.toList = false := by
    rw [← Bool.not_eq_true, List.isSuffixOf_iff_suffix]
    exact of_decide_eq_false hexact
  simp only [Xend.resolveName, solLabel, hsuffix]
  rfl

end Backend

section Client

variable {sdk : SolanaSdk} {hashv : List Bytes → Hash} {rpc : ReadRpc} {name : String}

theorem resolution_of_accepted (h : isSolName name = true) :
    resolution sdk hashv rpc name = (do
      let body ← decodeResponse (some (resolveEndpoint sdk hashv rpc name))
      asString (body.field "address") : Except DartError String).mapError .thrown := by
  simp only [resolution, XendWallet.resolveName, h, if_true, BackendClient.resolveName]
  rw [answered_send]
  rfl

theorem resolution_of_ok {address : String} (h : isSolName name = true)
    (hname : Xend.resolveName sdk hashv rpc name = .ok address) :
    resolution sdk hashv rpc name = .ok address := by
  have hendpoint : resolveEndpoint sdk hashv rpc name =
      ⟨200, .json (ResolveResponse.toJson ⟨name, address⟩)⟩ := by
    simp only [resolveEndpoint, resolve, hname, bind, Except.bind]
  rw [resolution_of_accepted h, hendpoint]
  rfl

theorem resolution_of_error {e : AppError} (h : isSolName name = true)
    (hname : Xend.resolveName sdk hashv rpc name = .error e) :
    resolution sdk hashv rpc name =
      ((mapError e.statusCode e.body).bind fun x => .error (.xend x) : Except DartError
        String).mapError .thrown := by
  have hendpoint : resolveEndpoint sdk hashv rpc name = ⟨e.statusCode, .json e.body⟩ := by
    simp only [resolveEndpoint, resolve, hname, bind, Except.bind]
  rw [resolution_of_accepted h, hendpoint]
  have hdecoded : decodeResponse (some ⟨e.statusCode, .json e.body⟩) =
      (mapError e.statusCode e.body).bind fun x => .error (.xend x) :=
        decodeResponse_of_status e.statusCode_ge _
  rw [hdecoded]
  cases mapError e.statusCode e.body with
  | error x => rfl
  | ok x => rfl

theorem resolution_of_invalid (h : isSolName name = true)
    (hname : Xend.resolveName sdk hashv rpc name = .error .invalidRecipient) :
    resolution sdk hashv rpc name = .error (.thrown (.xend .invalidRecipient)) :=
  resolution_of_error h hname

theorem resolution_of_network {detail : String} (h : isSolName name = true)
    (hname : Xend.resolveName sdk hashv rpc name = .error (.network detail)) :
    resolution sdk hashv rpc name =
      .error (.thrown (.xend (.networkError ("backend error (" ++ toString 502 ++ "): " ++
        ("upstream/network error: " ++ detail))))) :=
  resolution_of_error h hname

theorem answers_resolveName (h : OneLabel name) :
    Answers (Xend.resolveName sdk hashv rpc name) := by
  by_cases hexact : suffixIsExact name = true
  · rw [resolveName_of_exact h hexact]
    exact answers_labelOwner sdk hashv rpc _
  · rw [resolveName_of_miscased (Bool.eq_false_iff.mpr hexact)]
    exact .inr (.inl rfl)

/-- The SDK tells apart what the backend tells apart, and nothing else. -/
theorem resolution_eq_iff {name' : String} (h : OneLabel name) (h' : OneLabel name') :
    resolution sdk hashv rpc name = resolution sdk hashv rpc name' ↔
      Xend.resolveName sdk hashv rpc name = Xend.resolveName sdk hashv rpc name' := by
  have hr : Answers (Xend.resolveName sdk hashv rpc name) := answers_resolveName h
  have hr' : Answers (Xend.resolveName sdk hashv rpc name') := answers_resolveName h'
  obtain ⟨address, hr⟩ | hr | ⟨detail, hr⟩ := hr
  · rw [resolution_of_ok h.accepted hr, hr]
    obtain ⟨address', hr'⟩ | hr' | ⟨detail', hr'⟩ := hr'
    · rw [resolution_of_ok h'.accepted hr', hr', Except.ok.injEq, Except.ok.injEq]
    · simp [resolution_of_invalid h'.accepted hr', hr']
    · simp [resolution_of_network h'.accepted hr', hr']
  · rw [resolution_of_invalid h.accepted hr, hr]
    obtain ⟨address', hr'⟩ | hr' | ⟨detail', hr'⟩ := hr'
    · simp [resolution_of_ok h'.accepted hr', hr']
    · simp [resolution_of_invalid h'.accepted hr', hr']
    · simp [resolution_of_network h'.accepted hr', hr']
  · rw [resolution_of_network h.accepted hr, hr]
    obtain ⟨address', hr'⟩ | hr' | ⟨detail', hr'⟩ := hr'
    · simp [resolution_of_ok h'.accepted hr', hr']
    · simp [resolution_of_invalid h'.accepted hr', hr']
    · simp [resolution_of_network h'.accepted hr', hr', String.append_right_inj]

end Client

section Lowercase

variable {name : String}

theorem toLower_toList (name : String) : name.toLower.toList = name.toList.map Char.toLower :=
  String.toList_map ..

theorem toLower_eq_dot {c : Char} : c.toLower = '.' ↔ c = '.' := by
  by_cases hupper : c.isUpper = true
  · have hlower : c.toLower.isLower = true := by
      rw [Char.isLower_toLower_eq_isAlpha, Char.isAlpha, hupper, Bool.true_or]
    refine iff_of_false (fun h => ?_) (fun h => ?_)
    · rw [h] at hlower
      exact absurd hlower (by decide)
    · rw [h] at hupper
      exact absurd hupper (by decide)
  · rw [Char.toLower_eq_of_not_isUpper hupper]

theorem frontLabel_toLower (name : String) :
    frontLabel name.toLower = (frontLabel name).map Char.toLower := by
  simp only [frontLabel, toLower_toList, List.length_map, List.map_take]

theorem OneLabel.suffixIsExact_toLower (h : OneLabel name) : suffixIsExact name.toLower = true := by
  rw [suffixIsExact, toLower_toList]
  exact h.accepted

theorem OneLabel.toLower (h : OneLabel name) : OneLabel name.toLower where
  accepted := by
    have htwice : (name.toList.map Char.toLower).map Char.toLower =
        name.toList.map Char.toLower := by
      rw [List.map_map]
      exact List.map_congr_left fun c _ => Char.toLower_toLower_eq_toLower c
    rw [isSolName, toLower_toList, htwice]
    exact h.accepted
  nonempty := by
    rw [frontLabel_toLower, ne_eq, List.map_eq_nil_iff]
    exact h.nonempty
  dotless := by
    rw [frontLabel_toLower, List.mem_map]
    intro hdot
    obtain ⟨c, hc, hlower⟩ := hdot
    exact h.dotless (toLower_eq_dot.mp hlower ▸ hc)

theorem frontLabel_append (hexact : suffixIsExact name = true) :
    frontLabel name ++ ".sol".toList = name.toList :=
  List.suffix_iff_eq_append.mp (of_decide_eq_true hexact)

theorem OneLabel.toLower_eq (h : OneLabel name) (hexact : suffixIsExact name = true)
    (hlabel : frontLabel name = frontLabel name.toLower) : name.toLower = name := by
  have hlower := frontLabel_append h.suffixIsExact_toLower
  rw [← hlabel, frontLabel_append hexact] at hlower
  exact String.toList_inj.mp hlower.symm

end Lowercase

section Registry

def domainReply (owner : Pubkey) : RpcReply :=
  .body (.obj
    [("result",
      .obj [("value",
        .obj [("data", .arr [.str (Base64.encode ((default : Pubkey).1 ++ owner.1))])])])])

def unregisteredReply : RpcReply := .body (.obj [("result", .obj [("value", .null)])])

def oneDomain (account : String) (owner : Pubkey) : ReadRpc where
  signatureStatuses _ := unregisteredReply
  balance _ := unregisteredReply
  tokenAccountsByOwner _ _ := unregisteredReply
  accountInfo key := if key = account then domainReply owner else unregisteredReply

theorem snsDomainOwner_domainReply (owner : Pubkey) :
    snsDomainOwner (domainReply owner) = .ok owner := by
  have hdecode := Base64.decode_encode ((default : Pubkey).1 ++ owner.1)
  have hfield : ((default : Pubkey).1 ++ owner.1).drop 32 = owner.1 :=
    List.drop_left' (default : Pubkey).2
  have howner : ownerField ((default : Pubkey).1 ++ owner.1) = some owner := by
    have htake : (((default : Pubkey).1 ++ owner.1).drop 32).take 32 = owner.1 := by
      rw [hfield, List.take_of_length_le (le_of_eq owner.2)]
    simp only [ownerField, htake, owner.2, dite_true]
  simp only [domainReply, snsDomainOwner, RpcReply.snsJson, bind, Except.bind]
  -- the bytes and their encoding are opaque from here on: nothing may evaluate them
  generalize (default : Pubkey).1 ++ owner.1 = data at hdecode howner ⊢
  generalize Base64.encode data = text at hdecode ⊢
  change (okOr (Base64.decode text) _).bind _ = _
  rw [hdecode]
  change okOr (ownerField data) _ = _
  rw [howner]
  rfl

theorem labelOwner_oneDomain {sdk : SolanaSdk} {hashv : List Bytes → Hash}
    {account : String} {owner : Pubkey}
    {label : List Char}
    (h : sdk.pubkeyToString (solDomainKey sdk hashv (String.ofList label)) = account) :
    labelOwner sdk hashv (oneDomain account owner) label = .ok (sdk.pubkeyToString owner) := by
  simp only [labelOwner, oneDomain, h, if_true, snsDomainOwner_domainReply, bind, Except.bind]

theorem labelOwner_oneDomain_ne {sdk : SolanaSdk} {hashv : List Bytes → Hash}
    {account : String} {owner : Pubkey}
    {label : List Char}
    (h : sdk.pubkeyToString (solDomainKey sdk hashv (String.ofList label)) ≠ account) :
    labelOwner sdk hashv (oneDomain account owner) label = .error .invalidRecipient := by
  simp only [labelOwner, oneDomain, h, if_false]
  rfl

end Registry

section Spelling

variable {sdk : SolanaSdk} {name : String}

theorem resolution_toLower_iff (hname : OneLabel name) (hashv : List Bytes → Hash) (rpc : ReadRpc) :
    resolution sdk hashv rpc name = resolution sdk hashv rpc name.toLower ↔
      (suffixIsExact name = true →
        labelOwner sdk hashv rpc (frontLabel name) =
          labelOwner sdk hashv rpc (frontLabel name.toLower)) ∧
      (suffixIsExact name = false → labelOwner sdk hashv rpc (frontLabel name.toLower) =
        .error .invalidRecipient) := by
  rw [resolution_eq_iff hname hname.toLower,
    resolveName_of_exact hname.toLower hname.suffixIsExact_toLower]
  by_cases hexact : suffixIsExact name = true
  · simp only [resolveName_of_exact hname hexact, hexact, true_imp_iff, Bool.true_eq_false,
      false_imp_iff, and_true]
  · rw [Bool.not_eq_true] at hexact
    simp only [resolveName_of_miscased hexact, hexact, Bool.false_eq_true, false_imp_iff,
      true_imp_iff, true_and]
    exact eq_comm

/-- Some hash and some registry set two labels apart. -/
theorem exists_other_owner (hsdk : sdk.SpreadsDomains) {label label' : List Char}
    (h : label ≠ label') :
    ∃ hashv rpc, labelOwner sdk hashv rpc label ≠ labelOwner sdk hashv rpc label' := by
  obtain ⟨hash, hash', hne⟩ := hsdk
  let hashv : List Bytes → Hash := fun seeds =>
    if seeds = [utf8 snsHashPrefix, utf8 (String.ofList label)] then hash
      [utf8 snsHashPrefix, utf8 ""]
    else hash' [utf8 snsHashPrefix, utf8 ""]
  have htext : utf8 (String.ofList label') ≠ utf8 (String.ofList label) := fun heq =>
    h (String.ofList_injective (utf8_injective heq)).symm
  have hkey : solDomainKey sdk hashv (String.ofList label) = solDomainKey sdk hash "" := by
    simp only [solDomainKey, hashv, if_true]
  have hkey' : solDomainKey sdk hashv (String.ofList label') = solDomainKey sdk hash' "" := by
    have hseeds : ¬ [utf8 snsHashPrefix, utf8 (String.ofList label')] =
        [utf8 snsHashPrefix, utf8 (String.ofList label)] := by
      simpa using htext
    simp only [solDomainKey, hashv, if_neg hseeds]
  refine ⟨hashv, oneDomain (sdk.pubkeyToString (solDomainKey sdk hash "")) default, ?_⟩
  rw [labelOwner_oneDomain (congrArg sdk.pubkeyToString hkey),
    labelOwner_oneDomain_ne (hkey' ▸ hne.symm)]
  simp

/-- Where the suffix is not in lower case, the lower case name may still have an owner. -/
theorem exists_lost_owner (sdk : SolanaSdk) (label : List Char) :
    ∃ hashv rpc, labelOwner sdk hashv rpc label ≠ .error .invalidRecipient := by
  refine ⟨fun _ => default,
    oneDomain (sdk.pubkeyToString (solDomainKey sdk (fun _ => default) (String.ofList label)))
      default, ?_⟩
  rw [labelOwner_oneDomain rfl]
  simp

theorem spelling_immaterial_iff (hsdk : sdk.SpreadsDomains) (hname : OneLabel name) :
    ((∀ hashv rpc, resolution sdk hashv rpc name = resolution sdk hashv rpc name.toLower) ↔
      name.toLower = name) ∧
    ∀ hashv rpc, resolution sdk hashv rpc name = resolution sdk hashv rpc name.toLower ↔
      (suffixIsExact name = true →
        labelOwner sdk hashv rpc (frontLabel name) =
          labelOwner sdk hashv rpc (frontLabel name.toLower)) ∧
      (suffixIsExact name = false → labelOwner sdk hashv rpc (frontLabel name.toLower) =
        .error .invalidRecipient) := by
  refine ⟨⟨fun hall => ?_, fun hlower hashv rpc => by rw [hlower]⟩, resolution_toLower_iff hname⟩
  by_cases hexact : suffixIsExact name = true
  · apply hname.toLower_eq hexact
    by_contra hlabel
    obtain ⟨hashv, rpc, hne⟩ := exists_other_owner hsdk hlabel
    exact hne (((resolution_toLower_iff hname hashv rpc).mp (hall hashv rpc)).1 hexact)
  · obtain ⟨hashv, rpc, hne⟩ := exists_lost_owner sdk (frontLabel name.toLower)
    exact absurd (((resolution_toLower_iff hname hashv rpc).mp (hall hashv rpc)).2
      (Bool.eq_false_iff.mpr hexact)) hne

end Spelling

section Samples

open Reference

def giftHash : Hash := ⟨base58 "2hmBN66M8EEXTwVAx1QwrkTFeg3vUqusKKCXtW7FaAhh", by decide +kernel⟩

def capitalGiftHash : Hash :=
  ⟨base58 "CwLYUe5S9z9R8RpeNtpZF9ZLSCciv8chejKi5wV5SnPK", by decide +kernel⟩

def giftDomain : String := "F1QKc8JZ6AdoSZaFG89zJCPJvbmHeeZodqNwrEQbCcph"

def capitalGiftDomain : String := "HF8w6tDPymKMoJzPgaX4uUombRca6YJrR2tPRiWzKbBQ"

def nameHash (seeds : List Bytes) : Hash :=
  if seeds = [utf8 snsHashPrefix, utf8 "Gift"] then capitalGiftHash else giftHash

def nameSdk : SolanaSdk :=
  sdk (fun seeds _ =>
    (keyFromStr (if seeds.head? = some capitalGiftHash.1 then capitalGiftDomain
      else giftDomain)).getD default)
    fun _ _ _ => false

def giftOwners : ReadRpc where
  signatureStatuses _ := unregisteredReply
  balance _ := unregisteredReply
  tokenAccountsByOwner _ _ := unregisteredReply
  accountInfo key :=
    if key = giftDomain then domainReply senderKey else if key = capitalGiftDomain then domainReply
      destKey else unregisteredReply

theorem pubkeyToString_of_keyFromStr {s : String} {key : Pubkey} (h : keyFromStr s = some key) :
    nameSdk.pubkeyToString key = s := by
  simp only [nameSdk, sdk, encode_of_keyFromStr h, Option.getD_some]

theorem giftHash_ne : giftHash.1 ≠ capitalGiftHash.1 := by
  intro h
  have htext : base58 "2hmBN66M8EEXTwVAx1QwrkTFeg3vUqusKKCXtW7FaAhh" =
      base58 "CwLYUe5S9z9R8RpeNtpZF9ZLSCciv8chejKi5wV5SnPK" := h
  exact absurd (base58_inj htext giftHash.2) (by decide)

theorem nameSdk_domain (hashv : List Bytes → Hash) (label : String) :
    nameSdk.pubkeyToString (solDomainKey nameSdk hashv label) =
      if (hashv [utf8 snsHashPrefix, utf8 label]).1 = capitalGiftHash.1 then capitalGiftDomain
        else giftDomain := by
  obtain ⟨gift, hgift⟩ : ∃ key, keyFromStr giftDomain = some key :=
    Option.isSome_iff_exists.mp (by decide +kernel)
  obtain ⟨capital, hcapital⟩ : ∃ key, keyFromStr capitalGiftDomain = some key :=
    Option.isSome_iff_exists.mp (by decide +kernel)
  have hkey : solDomainKey nameSdk hashv label = (keyFromStr
      (if (hashv [utf8 snsHashPrefix, utf8 label]).1 = capitalGiftHash.1 then capitalGiftDomain
        else giftDomain)).getD default := by
    simp only [solDomainKey, nameSdk, sdk, List.head?_cons, Option.some.injEq]
  rw [hkey]
  split
  · rw [hcapital, Option.getD_some, pubkeyToString_of_keyFromStr hcapital]
  · rw [hgift, Option.getD_some, pubkeyToString_of_keyFromStr hgift]

theorem nameSdk_spreads : nameSdk.SpreadsDomains := by
  refine ⟨fun _ => giftHash, fun _ => capitalGiftHash, ?_⟩
  rw [nameSdk_domain, nameSdk_domain, if_neg giftHash_ne, if_pos rfl]
  decide

theorem spelling_immaterial_iff_gift :
    ((∀ hashv rpc, resolution nameSdk hashv rpc "Gift.sol" =
      resolution nameSdk hashv rpc "Gift.sol".toLower) ↔
      "Gift.sol".toLower = "Gift.sol") ∧
    ∀ hashv rpc, resolution nameSdk hashv rpc "Gift.sol" =
      resolution nameSdk hashv rpc "Gift.sol".toLower ↔
      (suffixIsExact "Gift.sol" = true →
        labelOwner nameSdk hashv rpc (frontLabel "Gift.sol") =
          labelOwner nameSdk hashv rpc (frontLabel "Gift.sol".toLower)) ∧
      (suffixIsExact "Gift.sol" = false →
        labelOwner nameSdk hashv rpc (frontLabel "Gift.sol".toLower) = .error .invalidRecipient) :=
  spelling_immaterial_iff nameSdk_spreads ⟨by decide +kernel, by decide +kernel, by decide +kernel⟩

/-- Spelled in capitals, a name that has an owner is refused, or pays somebody else. -/
theorem giftName_misresolved :
    resolution nameSdk nameHash giftOwners "gift.sol" = .ok senderAddress ∧
    resolution nameSdk nameHash giftOwners "Gift.sol" = .ok destAddress ∧
    resolution nameSdk nameHash giftOwners "GIFT.SOL" = .error (.thrown (.xend .invalidRecipient)) ∧
    ¬ ∀ (sdk : SolanaSdk) (hashv : List Bytes → Hash) (rpc : ReadRpc) (name : String),
    OneLabel name →
      resolution sdk hashv rpc name = resolution sdk hashv rpc name.toLower := by
  have hgift : OneLabel "gift.sol" := ⟨by decide +kernel, by decide +kernel, by decide +kernel⟩
  have hcapital : OneLabel "Gift.sol" := ⟨by decide +kernel, by decide +kernel, by decide +kernel⟩
  have hcapitals : OneLabel "GIFT.SOL" := ⟨by decide +kernel, by decide +kernel, by decide +kernel⟩
  have hsmall : resolution nameSdk nameHash giftOwners "gift.sol" = .ok senderAddress := by
    apply resolution_of_ok hgift.accepted
    have hkey :
        nameSdk.pubkeyToString
          (solDomainKey nameSdk nameHash (String.ofList (frontLabel "gift.sol"))) = giftDomain := by
      have hhash : nameHash [utf8 snsHashPrefix, utf8 (String.ofList (frontLabel "gift.sol"))] =
          giftHash :=
        if_neg (by decide +kernel)
      rw [nameSdk_domain, hhash, if_neg giftHash_ne]
    have howner : nameSdk.pubkeyToString senderKey = senderAddress :=
      pubkeyToString_of_keyFromStr keyFromStr_sender
    have hreply : giftOwners.accountInfo giftDomain = domainReply senderKey := by
      simp only [giftOwners, if_true]
    rw [resolveName_of_exact hgift (by rfl), labelOwner, hkey, hreply, snsDomainOwner_domainReply]
    exact congrArg Except.ok howner
  have hlarge : resolution nameSdk nameHash giftOwners "Gift.sol" = .ok destAddress := by
    apply resolution_of_ok hcapital.accepted
    have hkey :
        nameSdk.pubkeyToString
          (solDomainKey nameSdk nameHash (String.ofList (frontLabel "Gift.sol"))) =
        capitalGiftDomain := by
      have hhash : nameHash [utf8 snsHashPrefix, utf8 (String.ofList (frontLabel "Gift.sol"))] =
          capitalGiftHash :=
        if_pos (by decide +kernel)
      rw [nameSdk_domain, hhash, if_pos rfl]
    have howner : nameSdk.pubkeyToString destKey = destAddress :=
      pubkeyToString_of_keyFromStr keyFromStr_dest
    have hother : ¬ capitalGiftDomain = giftDomain := by decide
    have hreply : giftOwners.accountInfo capitalGiftDomain = domainReply destKey := by
      simp only [giftOwners, hother, if_false, if_true]
    rw [resolveName_of_exact hcapital (by rfl), labelOwner, hkey, hreply,
      snsDomainOwner_domainReply]
    exact congrArg Except.ok howner
  have hrefused : resolution nameSdk nameHash giftOwners "GIFT.SOL" =
      .error (.thrown (.xend .invalidRecipient)) :=
    resolution_of_invalid hcapitals.accepted (resolveName_of_miscased (by rfl))
  refine ⟨hsmall, hlarge, hrefused, fun h => ?_⟩
  have hlower : "GIFT.SOL".toLower = "gift.sol" := by decide +kernel
  have hsame := h nameSdk nameHash giftOwners "GIFT.SOL" hcapitals
  rw [hlower, hsmall, hrefused] at hsame
  cases hsame

end Samples

end Sdk

end Xend
