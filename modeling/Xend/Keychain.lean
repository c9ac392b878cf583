import Xend.Channel

/-! One phone for all its wallets: a Keychain whose items carry an account and an
Enclave whose keys carry a tag, and what each wallet sees of the two. -/

namespace Xend.Sdk

open Framing Interaction

namespace SecureSigner

def pubService : String := "ai.xend.pub"

def ciphertextService : String := "ai.xend.ct"

def mnemonicService : String := "ai.xend.mn"

def seedVaultService : String := "ai.xend.seed"

def enclaveTag (walletId : String) : Bytes := utf8 ("ai.xend.enclave." ++ walletId)

theorem enclaveTag_injective : Function.Injective enclaveTag := by
  intro a b h
  have htext : "ai.xend.enclave." ++ a = "ai.xend.enclave." ++ b := by
    have hread := congrArg ofUtf8 h
    rw [enclaveTag, enclaveTag, ofUtf8_utf8, ofUtf8_utf8] at hread
    exact Option.some.inj hread
  have hchars := congrArg String.toList htext
  rw [String.toList_append, String.toList_append] at hchars
  exact String.toList_inj.mp (List.append_cancel_left hchars)

end SecureSigner

open SecureSigner

/-- What tells generic passwords apart. -/
structure Attributes where
  service : String
  account : String
  synchronizable : Bool
  deriving DecidableEq

namespace Item

def service : Item → String
  | pub => pubService
  | ciphertext => ciphertextService
  | mnemonic => mnemonicService
  | seedVault _ => seedVaultService

/-- A query that does not say is for the items that stay on the phone. -/
def synchronizable : Item → Bool
  | seedVault synchronizable => synchronizable
  | _ => false

def attributes (walletId : String) (item : Item) : Attributes :=
  ⟨item.service, walletId, item.synchronizable⟩

theorem attributes_inj {a b : String} {i j : Item} : i.attributes a = j.attributes b ↔
    a = b ∧ i = j := by
  constructor
  · intro h
    have hservice : i.service = j.service := congrArg Attributes.service h
    have hsync : i.synchronizable = j.synchronizable := congrArg Attributes.synchronizable h
    refine ⟨congrArg Attributes.account h, ?_⟩
    cases i <;> cases j <;> simp_all [service, synchronizable, pubService, ciphertextService,
      mnemonicService, seedVaultService]
  · rintro ⟨rfl, rfl⟩
    rfl

end Item

/-- A key by its tag and by how many were made under the tag before it. -/
structure EnclaveKey where
  tag : Bytes
  serial : Nat
  deriving DecidableEq

inductive Stored where
  | plain (bytes : Bytes)
  | wrapped (key : EnclaveKey) (plaintext : Bytes)
  deriving DecidableEq

/-- As the wallet the item belongs to knows it. -/
def Stored.data : Stored → Data
  | plain bytes => .plain bytes
  | wrapped key plaintext => .wrapped key.serial plaintext

def Data.stored (tag : Bytes) : Data → Stored
  | plain bytes => .plain bytes
  | wrapped key plaintext => .wrapped ⟨tag, key⟩ plaintext

@[simp] theorem Data.data_stored (tag : Bytes) (data : Data) : (data.stored tag).data = data := by
  cases data <;> rfl

/-- `keys` is in the order of lookup. -/
structure Keychain where
  row : Attributes → Option Stored
  keys : List EnclaveKey
  created : Bytes → Nat
  keys_lt : ∀ key ∈ keys, key.serial < created key.tag
  row_wrapped : ∀ a key plaintext, row a = some (.wrapped key plaintext) →
    key.tag = enclaveTag a.account ∧ key.serial < created key.tag

namespace Keychain

variable (k : Keychain) (walletId : String)

def put (item : Item) (data : Data) : Keychain where
  row := Function.update k.row (item.attributes walletId) (some (data.stored (enclaveTag walletId)))
  keys := k.keys
  created :=
    Function.update k.created (enclaveTag walletId)
      (max (k.created (enclaveTag walletId)) data.bound)
  keys_lt key hkey := by
    by_cases htag : key.tag = enclaveTag walletId
    · rw [htag, Function.update_self]
      exact lt_of_lt_of_le (htag ▸ k.keys_lt key hkey) (le_max_left _ _)
    · rw [Function.update_of_ne htag]
      exact k.keys_lt key hkey
  row_wrapped a key plaintext ha := by
    by_cases hattributes : a = item.attributes walletId
    · subst hattributes
      rw [Function.update_self, Option.some.injEq] at ha
      cases data with
      | plain bytes => cases ha
      | wrapped serial bytes =>
        cases ha
        refine ⟨rfl, ?_⟩
        rw [Function.update_self]
        exact lt_of_lt_of_le (Nat.lt_succ_self serial) (le_max_right _ _)
    · rw [Function.update_of_ne hattributes] at ha
      obtain ⟨htag, hlt⟩ := k.row_wrapped a key plaintext ha
      refine ⟨htag, ?_⟩
      by_cases hsame : key.tag = enclaveTag walletId
      · rw [hsame, Function.update_self]
        exact lt_of_lt_of_le (hsame ▸ hlt) (le_max_left _ _)
      · rw [Function.update_of_ne hsame]
        exact hlt

def remove (items : List Item) : Keychain where
  row a := if a ∈ items.map (Item.attributes walletId) then none else k.row a
  keys := k.keys
  created := k.created
  keys_lt := k.keys_lt
  row_wrapped a key plaintext ha := by
    by_cases hmem : a ∈ items.map (Item.attributes walletId)
    · rw [if_pos hmem] at ha
      cases ha
    · rw [if_neg hmem] at ha
      exact k.row_wrapped a key plaintext ha

def removeKeys : Keychain where
  row := k.row
  keys := k.keys.filter fun key => key.tag ≠ enclaveTag walletId
  created := k.created
  keys_lt key hkey := k.keys_lt key (List.mem_of_mem_filter hkey)
  row_wrapped := k.row_wrapped

/-- The key that comes next under the wallet's tag. -/
def next : EnclaveKey := ⟨enclaveTag walletId, k.created (enclaveTag walletId)⟩

def createKey (front : Bool) : Keychain where
  row := k.row
  keys := if front then k.next walletId :: k.keys else k.keys ++ [k.next walletId]
  created := Function.update k.created (enclaveTag walletId) (k.created (enclaveTag walletId) + 1)
  keys_lt key hkey := by
    have hmem : key = k.next walletId ∨ key ∈ k.keys := by
      cases front <;> simpa [or_comm] using hkey
    rcases hmem with rfl | hmem
    · rw [next, Function.update_self]
      exact Nat.lt_succ_self _
    · have hlt := k.keys_lt key hmem
      by_cases htag : key.tag = enclaveTag walletId
      · rw [htag, Function.update_self]
        exact Nat.lt_succ_of_lt (htag ▸ hlt)
      · rwa [Function.update_of_ne htag]
  row_wrapped a key plaintext ha := by
    obtain ⟨htag, hlt⟩ := k.row_wrapped a key plaintext ha
    refine ⟨htag, ?_⟩
    by_cases hsame : key.tag = enclaveTag walletId
    · rw [hsame, Function.update_self]
      exact Nat.lt_succ_of_lt (hsame ▸ hlt)
    · rwa [Function.update_of_ne hsame]

/-- The keys a query with the wallet's tag finds. -/
def tagged : List EnclaveKey := k.keys.filter fun key => key.tag = enclaveTag walletId

/-- A call of the signer for the wallet: its queries carry the wallet as the account
and as the tag. -/
def execute : (c : Call) → Verdict → Keychain × Reply c
  | .secItemAdd item data, v =>
    if v.status ≠ errSecSuccess then (k, v.status)
    else if (k.row (item.attributes walletId)).isSome then (k, errSecDuplicateItem)
    else (k.put walletId item data, errSecSuccess)
  | .secItemCopyMatching item, v =>
    if v.status ≠ errSecSuccess then (k, v.status, none)
    else match k.row (item.attributes walletId) with
      | some stored => (k, errSecSuccess, some stored.data)
      | none => (k, errSecItemNotFound, none)
  | .secItemDelete items, v =>
    if v.status ≠ errSecSuccess then (k, v.status)
    else if items.any fun item => (k.row (item.attributes walletId)).isSome then
      (k.remove walletId items, errSecSuccess)
    else (k, errSecItemNotFound)
  | .copyMatchingKey _, v =>
    if v.status ≠ errSecSuccess then (k, v.status, none)
    else match k.tagged walletId with
      | key :: _ => (k, errSecSuccess, some key.serial)
      | [] => (k, errSecItemNotFound, none)
  | .deleteKeys, v =>
    if v.status ≠ errSecSuccess then (k, v.status)
    else if (k.tagged walletId).isEmpty then (k, errSecItemNotFound)
    else (k.removeKeys walletId, errSecSuccess)
  | .secKeyCreateRandomKey _ _, v =>
    if v.status ≠ errSecSuccess then (k, .error v.detail)
    else (k.createKey walletId v.front, .ok (k.next walletId).serial)
  | .secKeyCreateEncryptedData key plaintext, v =>
    if v.status ≠ errSecSuccess then (k, none) else (k, some (.wrapped key plaintext))
  | .secKeyCreateDecryptedData key data, v =>
    if v.status ≠ errSecSuccess then (k, .error v.code)
    else match data with
      | .plain _ => (k, .error v.code)
      | .wrapped key' plaintext => (k, if key = key' then .ok plaintext else .error v.code)
  | .secureEnclaveIsAvailable, v => (k, v.holds)
  | .canEvaluatePolicy, v => (k, v.holds)
  | .secAccessControlCreateWithFlags _, v => (k, v.holds)
  | .secKeyCopyPublicKey _, v => (k, v.holds)
  | .secKeyIsAlgorithmSupported _, v => (k, v.holds)
  | .secRandomCopyBytes, v => (k, v.entropy)
  | .signature _ _, v => (k, v.signature)
  | .randomSecure, v => (k, v.entropy)
  | .invokeMethod _, _ => (k, ())
  | .http _, v => (k, v.response)

/-- What the phone is to one wallet. -/
def view : Device where
  item i := (k.row (i.attributes walletId)).map Stored.data
  enclave := (k.tagged walletId).map EnclaveKey.serial
  created := k.created (enclaveTag walletId)
  enclave_lt serial hserial := by
    obtain ⟨key, hkey, rfl⟩ := List.mem_map.mp hserial
    obtain ⟨hmem, htag⟩ := List.mem_filter.mp hkey
    have hlt := k.keys_lt key hmem
    rwa [of_decide_eq_true htag] at hlt
  item_le i data hdata := by
    obtain ⟨stored, hrow, rfl⟩ := Option.map_eq_some_iff.mp hdata
    cases stored with
    | plain bytes => exact Nat.zero_le _
    | wrapped key plaintext =>
      obtain ⟨htag, hlt⟩ := k.row_wrapped _ key plaintext hrow
      rw [htag] at hlt
      exact hlt

section Views

variable {k : Keychain} {walletId other : String}

theorem ext_device {d d' : Device} (hitem : d.item = d'.item) (henclave : d.enclave = d'.enclave)
    (hcreated : d.created = d'.created) : d = d' := by
  cases d
  cases d'
  simp only at hitem henclave hcreated
  subst hitem henclave hcreated
  rfl

theorem view_put (item : Item) (data : Data) :
    (k.put walletId item data).view walletId = (k.view walletId).put item data := by
  refine ext_device (funext fun i => ?_) rfl (Function.update_self ..)
  by_cases hi : i = item
  · subst hi
    have hrow : (k.put walletId i data).row (i.attributes walletId) =
        some (data.stored (enclaveTag walletId)) :=
      Function.update_self ..
    simp only [view, hrow, Option.map_some, Data.data_stored, Device.put_self]
  · have hne : i.attributes walletId ≠ item.attributes walletId :=
      fun h => hi (Item.attributes_inj.mp h).2
    rw [Device.put_ne _ _ _ _ hi]
    exact congrArg (Option.map Stored.data) (Function.update_of_ne hne ..)

theorem view_put_other (h : other ≠ walletId) (item : Item) (data : Data) :
    (k.put walletId item data).view other = k.view other := by
  refine ext_device (funext fun i => ?_) rfl ?_
  · have hne : i.attributes other ≠ item.attributes walletId :=
      fun he => h (Item.attributes_inj.mp he).1
    exact congrArg (Option.map Stored.data) (Function.update_of_ne hne ..)
  · have htag : enclaveTag other ≠ enclaveTag walletId := fun he => h (enclaveTag_injective he)
    exact Function.update_of_ne htag ..

theorem mem_attributes {items : List Item} {i : Item} :
    i.attributes other ∈ items.map (Item.attributes walletId) ↔ other = walletId ∧ i ∈ items := by
  constructor
  · intro hi
    obtain ⟨item, hitem, hsame⟩ := List.mem_map.mp hi
    obtain ⟨rfl, rfl⟩ := Item.attributes_inj.mp hsame
    exact ⟨rfl, hitem⟩
  · rintro ⟨rfl, hi⟩
    exact List.mem_map_of_mem hi

theorem view_remove (items : List Item) :
    (k.remove walletId items).view walletId = (k.view walletId).remove items := by
  refine ext_device (funext fun i => ?_) rfl rfl
  simp only [view, remove, mem_attributes, true_and, Device.remove]
  split <;> rfl

theorem view_remove_other (h : other ≠ walletId) (items : List Item) :
    (k.remove walletId items).view other = k.view other := by
  refine ext_device (funext fun i => ?_) rfl rfl
  simp only [view, remove, mem_attributes, h, false_and, if_false]

theorem view_removeKeys : (k.removeKeys walletId).view walletId = (k.view walletId).removeKeys := by
  refine ext_device rfl ?_ rfl
  simp [view, tagged, removeKeys, Device.removeKeys, List.filter_filter]

theorem view_removeKeys_other (h : other ≠ walletId) :
    (k.removeKeys walletId).view other = k.view other := by
  refine ext_device rfl ?_ rfl
  have htag : enclaveTag other ≠ enclaveTag walletId := fun he => h (enclaveTag_injective he)
  have hkept : (k.removeKeys walletId).tagged other = k.tagged other := by
    rw [tagged, removeKeys, List.filter_filter]
    refine List.filter_congr fun key _ => ?_
    by_cases hkey : key.tag = enclaveTag other
    · simp [hkey, htag]
    · simp [hkey]
  exact congrArg (List.map EnclaveKey.serial) hkept

theorem view_createKey (front : Bool) :
    (k.createKey walletId front).view walletId = (k.view walletId).createKey front := by
  refine ext_device rfl ?_ (Function.update_self ..)
  cases front <;> simp [view, tagged, createKey, next, Device.createKey]

theorem view_createKey_other (h : other ≠ walletId) (front : Bool) :
    (k.createKey walletId front).view other = k.view other := by
  have htag : enclaveTag walletId ≠ enclaveTag other := fun he => h (enclaveTag_injective he).symm
  refine ext_device rfl ?_ (Function.update_of_ne htag.symm ..)
  cases front <;> simp [view, tagged, createKey, next, htag]

/-- The wallet's call finds and does on the phone what it would on a device of its own. -/
theorem execute_view (k : Keychain) (walletId : String) (c : Call) (v : Verdict) :
    (k.view walletId).execute c v =
      ((k.execute walletId c v).1.view walletId, (k.execute walletId c v).2) := by
  have hrow : ∀ item : Item, ((k.view walletId).item item).isSome =
      (k.row (item.attributes walletId)).isSome :=
    fun item => Option.isSome_map
  have hkeys : (k.view walletId).enclave.isEmpty = (k.tagged walletId).isEmpty := List.isEmpty_map
  by_cases hs : v.status = errSecSuccess
  · cases c with
    | secItemAdd item data =>
      simp only [Device.execute, execute, hs, ne_eq, not_true_eq_false, if_false, hrow]
      split
      · rfl
      · rw [view_put]
    | secItemCopyMatching item =>
      simp only [Device.execute, execute, hs, ne_eq, not_true_eq_false, if_false]
      cases hitem : k.row (item.attributes walletId) <;> simp [view, hitem]
    | secItemDelete items =>
      simp only [Device.execute, execute, hs, ne_eq, not_true_eq_false, if_false, hrow]
      split
      · rw [view_remove]
      · rfl
    | copyMatchingKey reason =>
      simp only [Device.execute, execute, hs, ne_eq, not_true_eq_false, if_false]
      cases hkeys : k.tagged walletId <;> simp [view, hkeys]
    | deleteKeys =>
      simp only [Device.execute, execute, hs, ne_eq, not_true_eq_false, if_false, hkeys]
      split
      · rfl
      · rw [view_removeKeys]
    | secKeyCreateRandomKey flags inSecureEnclave =>
      simp only [Device.execute, execute, hs, ne_eq, not_true_eq_false, if_false]
      rw [view_createKey]
      rfl
    | secKeyCreateEncryptedData key plaintext => simp [Device.execute, execute, hs]
    | secKeyCreateDecryptedData key data => cases data <;> simp [Device.execute, execute, hs]
    | _ => rfl
  · cases c <;> simp [Device.execute, execute, hs]

/-- A call for one wallet is not seen by another. -/
theorem execute_view_other (k : Keychain) (h : other ≠ walletId) (c : Call) (v : Verdict) :
    (k.execute walletId c v).1.view other = k.view other := by
  by_cases hs : v.status = errSecSuccess
  · cases c with
    | secItemAdd item data =>
      simp only [execute, hs, ne_eq, not_true_eq_false, if_false]
      split
      · rfl
      · exact view_put_other h item data
    | secItemDelete items =>
      simp only [execute, hs, ne_eq, not_true_eq_false, if_false]
      split
      · exact view_remove_other h items
      · rfl
    | deleteKeys =>
      simp only [execute, hs, ne_eq, not_true_eq_false, if_false]
      split
      · rfl
      · exact view_removeKeys_other h
    | secKeyCreateRandomKey flags inSecureEnclave =>
      simp only [execute, hs, ne_eq, not_true_eq_false, if_false]
      exact view_createKey_other h v.front
    | secItemCopyMatching item =>
      simp only [execute, hs, ne_eq, not_true_eq_false, if_false]
      split <;> rfl
    | copyMatchingKey reason =>
      simp only [execute, hs, ne_eq, not_true_eq_false, if_false]
      split <;> rfl
    | secKeyCreateDecryptedData key data => cases data <;> simp [execute, hs]
    | secKeyCreateEncryptedData key plaintext => simp [execute, hs]
    | _ => rfl
  · cases c <;> simp [execute, hs]

end Views

section Runs

variable {α : Type} {k : Keychain} {walletId other : String}

theorem run_view (p : Prog Call Reply α) (k : Keychain) (walletId : String) (vs : List Verdict) :
    p.run Device.execute (k.view walletId) vs =
      ((p.run (fun k => k.execute walletId) k vs).1.view walletId,
        (p.run (fun k => k.execute walletId) k vs).2) := by
  have hrun := Prog.run_seen (fun (k : Keychain) c v => k.execute_view walletId c v) p k vs
  rwa [List.map_id'] at hrun

theorem run_view_other (h : other ≠ walletId) (p : Prog Call Reply α) (vs : List Verdict) :
    (p.run (fun k => k.execute walletId) k vs).1.view other = k.view other := by
  have hstep : ∀ t : Step Call Keychain Verdict, True → t.before.view other = k.view other →
      (t.before.execute walletId t.call t.verdict).1.view other = k.view other :=
    fun t _ ht => (t.before.execute_view_other h t.call t.verdict).trans ht
  exact Prog.run_preserves (J := fun k' : Keychain => k'.view other = k.view other) hstep p rfl vs
    fun _ _ => trivial

end Runs

end Keychain

namespace XendSecurePlugin

/-- One call, on the phone's one Keychain. -/
def handleOn (kit : Kit) (k : Keychain) (call : FlutterMethodCall) (vs : List Verdict) :
    Keychain × Option ChannelReply :=
  match dispatch kit call with
  | .error e => (k, some (.failure (flutterError (.secureSigner e))))
  | .ok none => (k, some .notImplemented)
  | .ok (some (walletId, work)) =>
    let r := work.run.run (fun k => k.execute walletId) k vs
    (r.1, r.2.bind replyTo)

def serveOn (kit : Kit) (k : Keychain) : List (FlutterMethodCall × List Verdict) →
    Keychain × List (FlutterMethodCall × Option ChannelReply)
  | [] => (k, [])
  | (call, vs) :: rest =>
    let r := handleOn kit k call vs
    let r' := serveOn kit r.1 rest
    (r'.1, (call, r.2) :: r'.2)

variable {kit : Kit}

theorem handle_view (k : Keychain) (call : FlutterMethodCall) (vs : List Verdict) :
    handle kit Device.execute k.view call vs =
      ((handleOn kit k call vs).1.view, (handleOn kit k call vs).2) := by
  rcases dispatched kit call with ⟨walletId, work, hd, -⟩ | ⟨hd, -⟩ | ⟨_, _, _, -, -, hd⟩
  · simp only [handle, handleOn, hd, k.run_view]
    refine congrArg (·, _) (funext fun other => ?_)
    by_cases hother : other = walletId
    · subst hother
      exact Function.update_self ..
    · rw [Function.update_of_ne hother, Keychain.run_view_other hother]
  · simp only [handle, handleOn, hd]
  · simp only [handle, handleOn, hd]

/-- The one phone serves every wallet as a device of its own would. -/
theorem serve_view (k : Keychain) (calls : List (FlutterMethodCall × List Verdict)) :
    serve kit Device.execute k.view calls =
      ((serveOn kit k calls).1.view, (serveOn kit k calls).2) := by
  induction calls generalizing k with
  | nil => rfl
  | cons c rest ih =>
    obtain ⟨call, vs⟩ := c
    simp only [serve, serveOn, handle_view, ih]

theorem handleOn_turned (k : Keychain) {call : FlutterMethodCall} (vs : List Verdict)
    (h : walletOf kit call = none) :
    ∃ reply, handleOn kit k call vs = (k, some reply) ∧ Turned call reply := by
  rcases dispatched kit call with ⟨walletId, work, hd, -⟩ | ⟨hd, hnone⟩ | ⟨keys, key,
    kind, hkeys, hfind, hd⟩
  · simp [walletOf, hd, Except.toOption] at h
  · refine ⟨.notImplemented, ?_, hnone⟩
    rw [handleOn, hd]
  · refine ⟨.failure ⟨"bad_arguments", "Missing/invalid argument: " ++ key⟩, ?_, keys, key,
      kind, hkeys, hfind, rfl⟩
    rw [handleOn, hd]
    rfl

/-- One phone serves every wallet as a phone of its own would: a call that names no
wallet changes nothing, and calls for another wallet are neither noticed by this one nor
do they notice it. -/
theorem wallets_independent (kit : Kit) (k : Keychain)
    (calls : List (FlutterMethodCall × List Verdict)) :
    serve kit Device.execute k.view calls =
      ((serveOn kit k calls).1.view, (serveOn kit k calls).2) ∧
    (∀ call vs, walletOf kit call = none →
      ∃ reply, handleOn kit k call vs = (k, some reply) ∧ Turned call reply) ∧
    ∀ walletId, (∀ call, walletOf kit call = some walletId →
        string call.arguments.stringKeyed "walletId" = .ok walletId) ∧
      let own := calls.filter fun c => names kit c.1 walletId
      (serveOn kit k calls).1.view walletId = (serveOn kit k own).1.view walletId ∧
        (serveOn kit k calls).2.filter (fun r => names kit r.1 walletId) =
          (serveOn kit k own).2 := by
  refine ⟨serve_view k calls, fun _ vs h => handleOn_turned k vs h,
    fun walletId => ⟨fun _ h => string_of_walletOf h, ?_⟩⟩
  have hown := @serve_own kit Device Verdict Device.execute k.view k.view walletId calls rfl
  rwa [serve_view, serve_view] at hown

end XendSecurePlugin

end Xend.Sdk
