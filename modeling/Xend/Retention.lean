import Xend.Creation
import Xend.StartUp

/-! Where the copies of a recovery phrase are, and which calls of `create` take them
away. -/

namespace Xend.Sdk

open Framing Interaction

/-- Where a phrase is kept: wrapped on the phone, in the synced vault or in its local
stand-in. -/
inductive Place where
  | device
  | vault (synchronizable : Bool)
  deriving DecidableEq

def Place.item : Place → Item
  | device => .mnemonic
  | vault synchronizable => .seedVault synchronizable

def Data.plaintext : Data → Bytes
  | plain bytes => bytes
  | wrapped _ bytes => bytes

/-- The current key opens a wrapped phrase; a seed lies open. -/
def Device.Opens (d : Device) (data : Data) (phrase : String) : Place → Prop
  | .device => ∃ key bytes, d.enclave.head? = some key ∧ data = .wrapped key bytes ∧
      ofUtf8 bytes = some phrase
  | .vault _ => data.text = some phrase

def Device.HasCopy (d : Device) (phrase : String) (place : Place) : Prop :=
  ∃ data, d.item place.item = some data ∧ d.Opens data phrase place

/-- The call took effect on the copy kept at the place, or on the key that opens it. -/
def Touches (t : DeviceStep) (place : Place) : Prop :=
  t.verdict.status = errSecSuccess ∧
    match t.call with
    | .secItemDelete items => place.item ∈ items
    | .deleteKeys => place = .device
    | .secKeyCreateRandomKey _ _ => place = .device ∧ t.verdict.front = true
    | _ => False

section Reads

variable (service : Service) (d : Device) {phrase : String}

def keyNotFound : Halt NativeError := .thrown (.secureSigner .keyNotFound)

theorem loadEnclaveKey_served (reason : String) :
    served service (SecureSigner.loadEnclaveKey reason) d =
      (d, d.enclave.head?.elim (.error keyNotFound) .ok) := by
  rw [served, SecureSigner.loadEnclaveKey, run_request_bind, Prog.answered]
  cases hlist : d.enclave with
  | nil => simp [Device.execute, Service.answer, hlist]; rfl
  | cons key keys => simp [Device.execute, Service.answer, hlist]; rfl

theorem keychainGet_served {item : Item} (hreads : service.reads item = errSecSuccess) :
    served service (SecureSigner.keychainGet item) d =
      (d, (d.item item).elim (.error keyNotFound) .ok) := by
  rw [served, SecureSigner.keychainGet, run_request_bind, Prog.answered]
  cases hi : d.item item with
  | none => simp [Device.execute, Service.answer, hreads, hi]; rfl
  | some data => simp [Device.execute, Service.answer, hreads, hi]; rfl

theorem unwrap_served (key : Nat) (data : Data) (label : String) :
    ∃ r, served service (SecureSigner.unwrap key data label) d = (d, r) ∧
      ∀ bytes, r = .ok bytes ↔ data = .wrapped key bytes := by
  rw [served, SecureSigner.unwrap, run_request_bind, Prog.answered]
  cases data with
  | plain bytes => exact ⟨_, rfl, by simp⟩
  | wrapped key' bytes =>
    by_cases hk : key = key'
    · subst hk
      simp only [Device.execute, Service.answer, ne_eq, not_true_eq_false, if_false, if_true]
      exact ⟨_, rfl, by simp⟩
    · simp only [Device.execute, Service.answer, ne_eq, not_true_eq_false, if_false, hk]
      exact ⟨_, rfl, by simp [Ne.symm hk]⟩

theorem revealMnemonic_served (hreads : service.reads .mnemonic = errSecSuccess) (reason : String) :
    (served service (SecureSigner.revealMnemonic reason) d).2 = .ok phrase ↔
    d.HasCopy phrase .device := by
  have hkey := loadEnclaveKey_served service d reason
  have hget := keychainGet_served service d hreads
  cases hhead : d.enclave.head? with
  | none =>
    rw [hhead] at hkey
    rw [served, SecureSigner.revealMnemonic, answered_exceptBind_error hkey]
    simp [Device.HasCopy, Device.Opens, hhead]
  | some key =>
    rw [hhead] at hkey
    rw [served, SecureSigner.revealMnemonic, answered_exceptBind hkey]
    cases hitem : d.item .mnemonic with
    | none =>
      rw [hitem] at hget
      rw [answered_exceptBind_error hget]
      simp [Device.HasCopy, Place.item, hitem]
    | some data =>
      rw [hitem] at hget
      rw [answered_exceptBind hget]
      obtain ⟨r, hunwrap, hr⟩ := unwrap_served service d key data "the recovery phrase"
      have hcopy : d.HasCopy phrase .device ↔ ∃ bytes, r = .ok bytes ∧
          ofUtf8 bytes = some phrase := by
        simp [Device.HasCopy, Device.Opens, Place.item, hitem, hhead, hr]
      rw [hcopy]
      cases r with
      | error e =>
        rw [answered_exceptBind_error hunwrap]
        simp
      | ok bytes =>
        rw [answered_exceptBind hunwrap]
        cases htext : ofUtf8 bytes with
        | none => simp [htext, SecureSigner.fail, attempt, Prog.answered]
        | some mnemonic => simp [htext, Prog.answered]

theorem loadRecoverySeedFrom_served (synchronizable : Bool)
    (hreads : service.reads (.seedVault synchronizable) = errSecSuccess) :
    (served service (SecureSigner.loadRecoverySeedFrom [synchronizable]) d).2 = .ok (some phrase) ↔
      d.HasCopy phrase (.vault synchronizable) := by
  have hread : (d.execute _ (service.answer (.secItemCopyMatching (.seedVault synchronizable)))).1 =
      d ∧
      SecureSigner.readText _ = d.lookup service.reads (.seedVault synchronizable) :=
        execute_read rfl
  have hcopy : d.HasCopy phrase (.vault synchronizable) ↔
      d.lookup service.reads (.seedVault synchronizable) = some phrase := by
    simp [Device.HasCopy, Device.Opens, Place.item, Device.lookup, hreads, Option.bind_eq_some_iff]
  rw [hcopy, served, SecureSigner.run_loadRecoverySeedFrom, Prog.answered, hread.2]
  cases d.lookup service.reads (.seedVault synchronizable) with
  | none => simp [SecureSigner.loadRecoverySeedFrom, Prog.answered]
  | some text => simp [Prog.answered]

end Reads

section Steps

variable {d d' : Device} {c : Call} {v : Verdict} {data : Data} {phrase : String} {place : Place}

theorem Device.Opens.plaintext (h : d.Opens data phrase place) :
    ofUtf8 data.plaintext = some phrase := by
  cases place with
  | device =>
    obtain ⟨key, bytes, -, rfl, htext⟩ := h
    exact htext
  | vault synchronizable =>
    cases data with
    | plain bytes => exact h
    | wrapped key bytes => simp [Opens, Data.text] at h

theorem Device.Opens.congr (h : d.Opens data phrase place)
    (hkey : place = .device → d'.enclave.head? = d.enclave.head?) : d'.Opens data phrase place := by
  cases place with
  | device =>
    obtain ⟨key, bytes, hhead, hrest⟩ := h
    exact ⟨key, bytes, (hkey rfl).trans hhead, hrest⟩
  | vault synchronizable => exact h

theorem Device.HasCopy.step (h : d.HasCopy phrase place) (hq : ¬ Touches ⟨d, c, v⟩ place) :
    (d.execute c v).1.HasCopy phrase place := by
  obtain ⟨data, hitem, hopens⟩ := h
  rcases d.execute_cases c v with he | ⟨hs, he⟩
  · rw [he]
    exact ⟨data, hitem, hopens⟩
  · generalize (d.execute c v).1 = d' at he
    simp only [Touches, hs, true_and] at hq
    cases he with
    | add item data' hnone =>
      have hne : place.item ≠ item := by
        rintro rfl
        simp [hitem] at hnone
      exact ⟨data, (d.put_ne _ _ _ hne).trans hitem, hopens.congr fun _ => rfl⟩
    | delete items =>
      refine ⟨data, ?_, hopens.congr fun _ => rfl⟩
      rw [d.remove_item, if_neg hq, hitem]
    | deleteKeys => exact ⟨data, hitem, hopens.congr fun hp => absurd hp hq⟩
    | create flags inSecureEnclave =>
      refine ⟨data, hitem, hopens.congr fun hp => ?_⟩
      subst hp
      have hback : v.front = false := by simpa using hq
      obtain ⟨key, -, hhead, -⟩ := hopens
      rw [d.createKey_enclave, hback]
      cases hlist : d.enclave with
      | nil => simp [hlist] at hhead
      | cons k ks => rfl

end Steps

section Runs

variable {α : Type} {d : Device} {phrase : String} {place : Place}

theorem Device.HasCopy.run (h : d.HasCopy phrase place) (p : Prog Call Reply α) (vs : List Verdict)
    (hq : ∀ t ∈ p.steps Device.execute d vs, ¬ Touches t place) :
    (p.run Device.execute d vs).1.HasCopy phrase place :=
  Prog.run_preserves (J := fun d => d.HasCopy phrase place) (fun _ ht h => h.step ht) p h vs hq

theorem Device.HasCopy.steps (h : d.HasCopy phrase place)
    (p : Prog Call Reply α) (vs : List Verdict)
    (hq : ∀ t ∈ p.steps Device.execute d vs, ¬ Touches t place) :
    ∀ t ∈ p.steps Device.execute d vs, t.before.HasCopy phrase place :=
  Prog.steps_preserve (J := fun d => d.HasCopy phrase place) (fun _ ht h => h.step ht) p h vs hq

end Runs

/-- None of these calls is carried out. -/
def Refused (steps : List DeviceStep) (c : Call) : Prop :=
  ∀ t ∈ steps, t.call = c → t.verdict.status ≠ errSecSuccess

section Steps

variable {steps : List DeviceStep} {t : DeviceStep} {place : Place}

theorem Touches.erasing (h : Touches t place) : t.call.erasing = true := by
  obtain ⟨-, h⟩ := h
  revert h
  cases t.call <;> simp [Call.erasing]

end Steps

section Creations

variable {kit : Kit} {d : Device} {phrase : String} {place : Place} {creations : Creations}

end Creations

section Retry

variable {service : Service} {d d' : Device}

theorem invoke_served {α : Type} {method : MethodCall} {x : Native α} {a : α}
    (h : served service x d = (d', .ok a)) : served service (invoke method x) d = (d', .ok a) := by
  have hmap : (Except.mapError acrossChannel <$> x.run).answered Device.execute service.answer d =
      (d', .ok a) := by
    rw [served] at h
    rw [Prog.answered_map, h]
    rfl
  exact hmap

end Retry

end Xend.Sdk
