import Xend.Framing
import Xend.Interaction
import Xend.Json

/-! The phone as one wallet sees it: its Keychain items and Secure Enclave keys,
and the calls by which the SDK reaches them, the prompts and the network. -/

namespace Xend.Sdk

open Framing Interaction

abbrev OSStatus := Int

def errSecSuccess : OSStatus := 0

def errSecItemNotFound : OSStatus := -25300

def errSecDuplicateItem : OSStatus := -25299

def errSecAuthFailed : OSStatus := -25293

/-- The services under which items of one account are kept. -/
inductive Item where
  | pub
  | ciphertext
  | mnemonic
  | seedVault (synchronizable : Bool)
  deriving DecidableEq

/-- Wrapped data opens under the key it was wrapped to and no other. -/
inductive Data where
  | plain (bytes : Bytes)
  | wrapped (key : Nat) (plaintext : Bytes)
  deriving DecidableEq

namespace Data

/-- No key with this number or a later one is needed to open the data. -/
def bound : Data → Nat
  | plain _ => 0
  | wrapped key _ => key + 1

/-- A ciphertext is not text. -/
def text : Data → Option String
  | plain bytes => ofUtf8 bytes
  | wrapped _ _ => none

end Data

/-- `enclave` lists the keys under the wallet's tag, the one a lookup finds first. -/
structure Device where
  item : Item → Option Data
  enclave : List Nat
  created : Nat
  enclave_lt : ∀ key ∈ enclave, key < created
  item_le : ∀ i data, item i = some data → data.bound ≤ created

inductive AccessFlag where
  | privateKeyUsage
  | biometryCurrentSet
  | userPresence
  deriving DecidableEq

inductive MethodCall where
  | generateKeyPair
  | restore (mnemonic : String)
  | loadOrRecover
  | revealMnemonic (reason : String)
  | signMessage (bytes : Bytes) (reason : String)
  | deleteKey
  deriving DecidableEq

inductive Request where
  | get (path : String) (query : List (String × String))
  | post (path : String) (json : Json)

inductive Body where
  | empty
  | malformed
  | json (value : Json)

structure Response where
  statusCode : Nat
  body : Body

/-- Item and key queries carry the wallet's account or tag. -/
inductive Call where
  | secItemAdd (item : Item) (data : Data)
  | secItemCopyMatching (item : Item)
  | secItemDelete (items : List Item)
  | copyMatchingKey (reason : String)
  | deleteKeys
  | secureEnclaveIsAvailable
  | canEvaluatePolicy
  | secAccessControlCreateWithFlags (flags : List AccessFlag)
  | secKeyCreateRandomKey (flags : List AccessFlag) (inSecureEnclave : Bool)
  | secKeyCopyPublicKey (key : Nat)
  | secKeyIsAlgorithmSupported (key : Nat)
  | secKeyCreateEncryptedData (key : Nat) (plaintext : Bytes)
  | secKeyCreateDecryptedData (key : Nat) (data : Data)
  | secRandomCopyBytes
  | signature (privateKey message : Bytes)
  | randomSecure
  | invokeMethod (method : MethodCall)
  | http (request : Request)

/-- Calls that write, wrap or make a key. -/
def Call.establishing : Call → Bool
  | .secItemAdd _ _ => true
  | .secItemDelete _ => true
  | .deleteKeys => true
  | .secureEnclaveIsAvailable => true
  | .canEvaluatePolicy => true
  | .secAccessControlCreateWithFlags _ => true
  | .secKeyCreateRandomKey _ _ => true
  | .secKeyCopyPublicKey _ => true
  | .secKeyIsAlgorithmSupported _ => true
  | .secKeyCreateEncryptedData _ _ => true
  | _ => false

abbrev Entropy := {bytes : Bytes // bytes.length = 16}

abbrev Signature := {bytes : Bytes // bytes.length = 64}

abbrev Reply : Call → Type
  | .secItemAdd _ _ => OSStatus
  | .secItemCopyMatching _ => OSStatus × Option Data
  | .secItemDelete _ => OSStatus
  | .copyMatchingKey _ => OSStatus × Option Nat
  | .deleteKeys => OSStatus
  | .secureEnclaveIsAvailable => Bool
  | .canEvaluatePolicy => Bool
  | .secAccessControlCreateWithFlags _ => Bool
  | .secKeyCreateRandomKey _ _ => Except (Option String) Nat
  | .secKeyCopyPublicKey _ => Bool
  | .secKeyIsAlgorithmSupported _ => Bool
  | .secKeyCreateEncryptedData _ _ => Option Data
  | .secKeyCreateDecryptedData _ _ => Except (Option Int) Bytes
  | .secRandomCopyBytes => Entropy
  | .signature _ _ => Option Signature
  | .randomSecure => Entropy
  | .invokeMethod _ => Unit
  | .http _ => Option Response

/-- How the phone treats one call: any status but success leaves everything as it
was. `front` puts a new key before the older ones in the order of lookup. -/
structure Verdict where
  status : OSStatus
  front : Bool
  holds : Bool
  entropy : Entropy
  signature : Option Signature
  code : Option Int
  detail : Option String
  response : Option Response

namespace Device

def put (d : Device) (item : Item) (data : Data) : Device where
  item := Function.update d.item item (some data)
  enclave := d.enclave
  created := max d.created data.bound
  enclave_lt key hkey := lt_of_lt_of_le (d.enclave_lt key hkey) (le_max_left _ _)
  item_le i data' hi := by
    by_cases h : i = item
    · subst h
      rw [Function.update_self, Option.some.injEq] at hi
      exact hi ▸ le_max_right _ _
    · rw [Function.update_of_ne h] at hi
      exact (d.item_le i data' hi).trans (le_max_left _ _)

def remove (d : Device) (items : List Item) : Device where
  item i := if i ∈ items then none else d.item i
  enclave := d.enclave
  created := d.created
  enclave_lt := d.enclave_lt
  item_le i data hi := by
    by_cases h : i ∈ items
    · simp [h] at hi
    · exact d.item_le i data (by simpa [h] using hi)

def removeKeys (d : Device) : Device where
  item := d.item
  enclave := []
  created := d.created
  enclave_lt := by simp
  item_le := d.item_le

def createKey (d : Device) (front : Bool) : Device where
  item := d.item
  enclave := if front then d.created :: d.enclave else d.enclave ++ [d.created]
  created := d.created + 1
  enclave_lt key hkey := by
    have hmem : key = d.created ∨ key ∈ d.enclave := by
      cases front <;> simpa [or_comm] using hkey
    rcases hmem with rfl | hmem
    · omega
    · have hh := d.enclave_lt key hmem
      omega
  item_le i data hi := (d.item_le i data hi).trans (by omega)

def blank : Device where
  item _ := none
  enclave := []
  created := 0
  enclave_lt := by simp
  item_le := by simp

section Fields

variable (d : Device) (item i : Item) (items : List Item) (data : Data) (front : Bool)

@[simp] theorem put_self : (d.put item data).item item = some data := Function.update_self ..

theorem put_ne (h : i ≠ item) : (d.put item data).item i = d.item i := Function.update_of_ne h ..

@[simp] theorem put_enclave : (d.put item data).enclave = d.enclave := rfl

theorem remove_item : (d.remove items).item i = if i ∈ items then none else d.item i := rfl

@[simp] theorem remove_enclave : (d.remove items).enclave = d.enclave := rfl

@[simp] theorem removeKeys_item : d.removeKeys.item = d.item := rfl

@[simp] theorem removeKeys_enclave : d.removeKeys.enclave = [] := rfl

@[simp] theorem createKey_item : (d.createKey front).item = d.item := rfl

theorem createKey_enclave :
    (d.createKey front).enclave = if front then d.created ::
      d.enclave else d.enclave ++ [d.created] := rfl

end Fields

def execute (d : Device) : (c : Call) → Verdict → Device × Reply c
  | .secItemAdd item data, v =>
    if v.status ≠ errSecSuccess then (d, v.status)
    else if (d.item item).isSome then (d, errSecDuplicateItem)
    else (d.put item data, errSecSuccess)
  | .secItemCopyMatching item, v =>
    if v.status ≠ errSecSuccess then (d, v.status, none)
    else if (d.item item).isSome then (d, errSecSuccess, d.item item)
    else (d, errSecItemNotFound, none)
  | .secItemDelete items, v =>
    if v.status ≠ errSecSuccess then (d, v.status)
    else if items.any fun item => (d.item item).isSome then (d.remove items, errSecSuccess)
    else (d, errSecItemNotFound)
  | .copyMatchingKey _, v =>
    if v.status ≠ errSecSuccess then (d, v.status, none)
    else if d.enclave.isEmpty then (d, errSecItemNotFound, none)
    else (d, errSecSuccess, d.enclave.head?)
  | .deleteKeys, v =>
    if v.status ≠ errSecSuccess then (d, v.status)
    else if d.enclave.isEmpty then (d, errSecItemNotFound)
    else (d.removeKeys, errSecSuccess)
  | .secKeyCreateRandomKey _ _, v =>
    if v.status ≠ errSecSuccess then (d, .error v.detail) else (d.createKey v.front, .ok d.created)
  | .secKeyCreateEncryptedData key plaintext, v =>
    if v.status ≠ errSecSuccess then (d, none) else (d, some (.wrapped key plaintext))
  | .secKeyCreateDecryptedData key data, v =>
    if v.status ≠ errSecSuccess then (d, .error v.code)
    else match data with
      | .plain _ => (d, .error v.code)
      | .wrapped key' plaintext => (d, if key = key' then .ok plaintext else .error v.code)
  | .secureEnclaveIsAvailable, v => (d, v.holds)
  | .canEvaluatePolicy, v => (d, v.holds)
  | .secAccessControlCreateWithFlags _, v => (d, v.holds)
  | .secKeyCopyPublicKey _, v => (d, v.holds)
  | .secKeyIsAlgorithmSupported _, v => (d, v.holds)
  | .secRandomCopyBytes, v => (d, v.entropy)
  | .signature _ _, v => (d, v.signature)
  | .randomSecure, v => (d, v.entropy)
  | .invokeMethod _, _ => (d, ())
  | .http _, v => (d, v.response)

theorem execute_delete_item (d : Device) (items : List Item) (v : Verdict) (i : Item) :
    (d.execute (.secItemDelete items) v).1.item i =
      if v.status = errSecSuccess ∧ i ∈ items then none else d.item i := by
  by_cases hs : v.status = errSecSuccess
  · by_cases hi : items.any fun item => (d.item item).isSome
    · simp [execute, hs, hi, remove_item]
    · have hnone : ∀ j ∈ items, d.item j = none := by simpa using hi
      by_cases hmem : i ∈ items
      · simp [execute, hs, hi, hmem, hnone i hmem]
      · simp [execute, hs, hi, hmem]
  · simp [execute, hs]

theorem execute_delete_enclave (d : Device) (items : List Item) (v : Verdict) :
    (d.execute (.secItemDelete items) v).1.enclave = d.enclave := by
  by_cases hs : v.status = errSecSuccess
  · by_cases hi : items.any fun item => (d.item item).isSome <;> simp [execute, hs, hi]
  · simp [execute, hs]

theorem execute_add {d : Device} {item : Item} {v : Verdict} (data : Data)
    (hs : v.status = errSecSuccess)
    (hnone : d.item item = none) :
    d.execute (.secItemAdd item data) v = (d.put item data, errSecSuccess) := by
  simp [execute, hs, hnone]

theorem execute_add_of_ne {d : Device} {item : Item} {v : Verdict} (data : Data)
    (h : ¬ (v.status = errSecSuccess ∧ d.item item = none)) :
    (d.execute (.secItemAdd item data) v).1 = d ∧
    (d.execute (.secItemAdd item data) v).2 ≠ errSecSuccess := by
  by_cases hs : v.status = errSecSuccess
  · have hsome : (d.item item).isSome = true := by
      rw [Option.isSome_iff_ne_none]
      exact fun hnone => h ⟨hs, hnone⟩
    simp [execute, hs, hsome, errSecDuplicateItem, errSecSuccess]
  · simp [execute, hs]

inductive Effect (d : Device) (v : Verdict) : Call → Device → Prop
  | add (item : Item) (data : Data) (h : d.item item = none) :
      Effect d v (.secItemAdd item data) (d.put item data)
  | delete (items : List Item) : Effect d v (.secItemDelete items) (d.remove items)
  | deleteKeys : Effect d v .deleteKeys d.removeKeys
  | create (flags : List AccessFlag) (inSecureEnclave : Bool) :
    Effect d v (.secKeyCreateRandomKey flags inSecureEnclave) (d.createKey v.front)

/-- A call leaves the device alone or is one of the four that change it. -/
theorem execute_cases (d : Device) (c : Call) (v : Verdict) :
    (d.execute c v).1 = d ∨ v.status = errSecSuccess ∧ Effect d v c (d.execute c v).1 := by
  by_cases hs : v.status = errSecSuccess
  · cases c with
    | secItemAdd item data =>
      by_cases hi : (d.item item).isSome
      · left
        simp [execute, hs, hi]
      · right
        refine ⟨hs, ?_⟩
        simp only [execute, hs, ne_eq, not_true_eq_false, if_false, hi]
        exact .add item data (by simpa using hi)
    | secItemDelete items =>
      by_cases hi : items.any fun item => (d.item item).isSome
      · right
        refine ⟨hs, ?_⟩
        simp only [execute, hs, ne_eq, not_true_eq_false, if_false, hi]
        exact .delete items
      · left
        simp [execute, hs, hi]
    | deleteKeys =>
      by_cases hi : d.enclave.isEmpty
      · left
        simp [execute, hs, hi]
      · right
        refine ⟨hs, ?_⟩
        simp only [execute, hs, ne_eq, not_true_eq_false, if_false, hi]
        exact .deleteKeys
    | secKeyCreateRandomKey flags inSecureEnclave =>
      right
      refine ⟨hs, ?_⟩
      simp only [execute, hs, ne_eq, not_true_eq_false, if_false]
      exact .create flags inSecureEnclave
    | secKeyCreateDecryptedData key data =>
      left
      cases data <;> simp [execute, hs]
    | secItemCopyMatching item =>
      left
      by_cases hi : (d.item item).isSome <;> simp [execute, hs, hi]
    | copyMatchingKey reason =>
      left
      by_cases hi : d.enclave.isEmpty <;> simp [execute, hs, hi]
    | secKeyCreateEncryptedData key plaintext =>
      left
      simp [execute, hs]
    | _ =>
      left
      rfl
  · left
    cases c <;> simp [execute, hs]

end Device

abbrev DeviceStep := Step Call Device Verdict

end Xend.Sdk
