import Xend.StartUp
import Xend.KeyStore

/-! What is left of a wallet after `deleteKey`: its five deletions are carried out
whatever the others come back with, and it never throws. -/

namespace Xend.Sdk

open Framing Interaction

/-- A deletion is refused that has something to delete. -/
def Overlooks (t : DeviceStep) : Prop :=
  t.verdict.status ≠ errSecSuccess ∧
    match t.call with
    | .secItemDelete items => ∃ item ∈ items, t.before.item item ≠ none
    | .deleteKeys => t.before.enclave ≠ []
    | _ => False

structure Device.Erased (d : Device) : Prop where
  item : ∀ item, d.item item = none
  enclave : d.enclave = []

/-- Nothing is stored, recovery finds no wallet, and signing fails, whatever the phone
answers. -/
structure Device.Forgotten (kit : Kit) (d : Device) : Prop where
  erased : d.Erased
  unloadable : ∀ vs r, ((SecureSigner.loadOrRecover kit).run.run Device.execute d vs).2 = some r →
    r = .ok none
  unusable : ∀ message reason vs r,
    ((SecureSigner.signMessage kit message reason).run.run Device.execute d vs).2 = some r →
    ∃ e, r = .error (.thrown e)

section Lookups

variable {d : Device} {vs : List Verdict}

theorem readText_of_absent {item : Item} (h : d.item item = none) (v : Verdict) :
    (d.execute (.secItemCopyMatching item) v).1 = d ∧
      SecureSigner.readText (d.execute (.secItemCopyMatching item) v).2 = none := by
  have hlookup : d.lookup (fun _ => v.status) item = none := by simp [Device.lookup, h]
  rw [← hlookup]
  exact execute_read rfl

theorem search_absent
    {onFound : Item → String →
      Prog Call Reply (Except (Halt NativeError) (Option SecureSigner.Loaded))}
    {items : List Item} (h : ∀ item ∈ items, d.item item = none)
    {r : Except (Halt NativeError) (Option SecureSigner.Loaded)}
    (hr : ((SecureSigner.search onFound items).run Device.execute d vs).2 = some r) :
    r = .ok none := by
  induction items generalizing vs with
  | nil => exact (Option.some.inj hr).symm
  | cons item rest ih =>
    cases vs with
    | nil => simp [SecureSigner.search, Prog.run] at hr
    | cons v vs =>
      obtain ⟨hkept, hread⟩ := readText_of_absent (h item List.mem_cons_self) v
      simp only [SecureSigner.search, Prog.run, hkept, hread] at hr
      exact ih (fun other hother => h other (List.mem_cons_of_mem _ hother)) hr

theorem loadOrRecover_absent (h : d.Absent) (kit : Kit)
    {r : Except (Halt NativeError) (Option SecureSigner.Loaded)}
    (hr : ((SecureSigner.loadOrRecover kit).run.run Device.execute d vs).2 = some r) :
    r = .ok none := by
  rw [SecureSigner.run_loadOrRecover_eq_search] at hr
  exact search_absent h hr

theorem signMessage_keyless (h : d.enclave = []) (kit : Kit) (message : Bytes) (reason : String)
    {r : Except (Halt NativeError) Signature}
    (hr : ((SecureSigner.signMessage kit message reason).run.run Device.execute d vs).2 = some r) :
    ∃ e, r = .error (.thrown e) := by
  rw [SecureSigner.signMessage, SecureSigner.loadEnclaveKey, bind_assoc, run_request_bind] at hr
  cases vs with
  | nil => simp [Prog.run] at hr
  | cons v vs =>
    have hnone : (d.execute (.copyMatchingKey reason) v).2.2 = none := by
      by_cases hs : v.status = errSecSuccess <;> simp [Device.execute, hs, h]
    obtain ⟨e, he⟩ : ∃ e,
        (SecureSigner.found (d.execute (.copyMatchingKey reason) v).2 : Native Nat) =
          SecureSigner.fail e :=
      SecureSigner.found_refused (by simp [hnone])
    rw [Prog.run, he] at hr
    exact ⟨.secureSigner e, (Option.some.inj hr).symm⟩

theorem Device.Erased.forgotten (h : d.Erased) (kit : Kit) : d.Forgotten kit where
  erased := h
  unloadable _ _ hr := loadOrRecover_absent (fun item _ => h.item item) kit hr
  unusable message reason _ _ hr := signMessage_keyless h.enclave kit message reason hr

end Lookups

section Deletions

variable {d : Device} {vs : List Verdict}

theorem execute_deleteKeys_item (d : Device) (v : Verdict) :
    (d.execute .deleteKeys v).1.item = d.item := by
  by_cases hs : v.status = errSecSuccess
  · by_cases hempty : d.enclave.isEmpty <;> simp [Device.execute, hs, hempty]
  · simp [Device.execute, hs]

theorem execute_deleteKeys_enclave (d : Device) (v : Verdict) :
    (d.execute .deleteKeys v).1.enclave = if v.status = errSecSuccess then [] else d.enclave := by
  by_cases hs : v.status = errSecSuccess
  · by_cases hempty : d.enclave.isEmpty
    · have hnil : d.enclave = [] := List.isEmpty_iff.mp hempty
      simp [Device.execute, hs, hnil]
    · simp [Device.execute, hs, hempty]
  · simp [Device.execute, hs]

theorem deleteKey_complete (h : ((SecureSigner.deleteKey).run.run Device.execute d vs).2 ≠ none) :
    ∃ v₁ v₂ v₃ v₄ v₅ rest, vs = v₁ :: v₂ :: v₃ :: v₄ :: v₅ :: rest := by
  match vs with
  | v₁ :: v₂ :: v₃ :: v₄ :: v₅ :: rest => exact ⟨v₁, v₂, v₃, v₄, v₅, rest, rfl⟩
  | [] | [_] | [_, _] | [_, _, _] | [_, _, _, _] => exact absurd rfl h

theorem not_overlooks_delete {items : List Item} {v : Verdict} :
    ¬ Overlooks ⟨d, .secItemDelete items, v⟩ ↔
    ∀ item ∈ items, (d.execute (.secItemDelete items) v).1.item item = none := by
  by_cases hs : v.status = errSecSuccess
  · simp +contextual [Overlooks, Device.execute_delete_item, hs]
  · simp [Overlooks, Device.execute_delete_item, hs]

theorem not_overlooks_deleteKeys {v : Verdict} :
    ¬ Overlooks ⟨d, .deleteKeys, v⟩ ↔ (d.execute .deleteKeys v).1.enclave = [] := by
  by_cases hs : v.status = errSecSuccess
  · simp [Overlooks, execute_deleteKeys_enclave, hs]
  · simp [Overlooks, execute_deleteKeys_enclave, hs]

/-- Each deletion stands for itself: no later one touches what it left. -/
theorem erased_iff (h : ((SecureSigner.deleteKey).run.run Device.execute d vs).2 ≠ none) :
    ((SecureSigner.deleteKey).run.run Device.execute d vs).1.Erased ↔
      ∀ t ∈ (SecureSigner.deleteKey).run.steps Device.execute d vs, ¬ Overlooks t := by
  obtain ⟨v₁, v₂, v₃, v₄, v₅, rest, rfl⟩ := deleteKey_complete h
  let d₁ := (d.execute (.secItemDelete [.ciphertext]) v₁).1
  let d₂ := (d₁.execute (.secItemDelete [.mnemonic]) v₂).1
  let d₃ := (d₂.execute (.secItemDelete [.pub]) v₃).1
  let d₄ := (d₃.execute (.secItemDelete [.seedVault true, .seedVault false]) v₄).1
  let d₅ := (d₄.execute .deleteKeys v₅).1
  have hrun :
      ((SecureSigner.deleteKey).run.run Device.execute d (v₁ :: v₂ :: v₃ :: v₄ :: v₅ :: rest)).1 =
        d₅ := rfl
  have hsteps : (SecureSigner.deleteKey).run.steps Device.execute d (v₁ :: v₂ ::
      v₃ :: v₄ :: v₅ :: rest) =
      [⟨d, .secItemDelete [.ciphertext], v₁⟩, ⟨d₁, .secItemDelete [.mnemonic], v₂⟩,
        ⟨d₂, .secItemDelete [.pub], v₃⟩,
        ⟨d₃, .secItemDelete [.seedVault true, .seedVault false], v₄⟩, ⟨d₄, .deleteKeys, v₅⟩] := rfl
  have hciphertext : d₅.item .ciphertext = d₁.item .ciphertext := by
    simp [d₅, d₄, d₃, d₂, execute_deleteKeys_item, Device.execute_delete_item]
  have hmnemonic : d₅.item .mnemonic = d₂.item .mnemonic := by
    simp [d₅, d₄, d₃, execute_deleteKeys_item, Device.execute_delete_item]
  have hpub : d₅.item .pub = d₃.item .pub := by
    simp [d₅, d₄, execute_deleteKeys_item, Device.execute_delete_item]
  have hseed : ∀ synchronizable, d₅.item (.seedVault synchronizable) =
      d₄.item (.seedVault synchronizable) := by
    intro synchronizable
    simp [d₅, execute_deleteKeys_item]
  rw [hrun, hsteps]
  simp only [List.forall_mem_cons, List.not_mem_nil, false_imp_iff, implies_true, and_true,
    not_overlooks_delete, not_overlooks_deleteKeys]
  constructor
  · intro herased
    exact ⟨hciphertext ▸ herased.item _, hmnemonic ▸ herased.item _, hpub ▸ herased.item _,
      ⟨hseed true ▸ herased.item _, hseed false ▸ herased.item _⟩, herased.enclave⟩
  · intro hall
    obtain ⟨h₁, h₂, h₃, ⟨htrue, hfalse⟩, h₅⟩ := hall
    refine ⟨fun item => ?_, h₅⟩
    cases item with
    | pub => exact hpub.trans h₃
    | ciphertext => exact hciphertext.trans h₁
    | mnemonic => exact hmnemonic.trans h₂
    | seedVault synchronizable =>
      cases synchronizable with
      | true => exact (hseed true).trans htrue
      | false => exact (hseed false).trans hfalse

/-- It returns without throwing, whatever becomes of the deletions. -/
theorem deleteKey_ok (h : ((SecureSigner.deleteKey).run.run Device.execute d vs).2 ≠ none) :
    ((SecureSigner.deleteKey).run.run Device.execute d vs).2 = some (.ok ()) := by
  obtain ⟨v₁, v₂, v₃, v₄, v₅, rest, rfl⟩ := deleteKey_complete h
  rfl

theorem forgotten_iff_unrefused (kit : Kit)
    (h : ((SecureSigner.deleteKey).run.run Device.execute d vs).2 = some (.ok ())) :
    ((SecureSigner.deleteKey).run.run Device.execute d vs).1.Forgotten kit ↔
      ∀ t ∈ (SecureSigner.deleteKey).run.steps Device.execute d vs, ¬ Overlooks t := by
  have hdone : ((SecureSigner.deleteKey).run.run Device.execute d vs).2 ≠ none := by
    rw [h]
    exact Option.some_ne_none _
  rw [← erased_iff hdone]
  exact ⟨fun hforgotten => hforgotten.erased, fun herased => herased.forgotten kit⟩

end Deletions

section Samples

theorem forgotten_iff_unrefused_locked :
    ((SecureSigner.deleteKey).run.run Device.execute lockedPhone
      (List.replicate 5 (sampleService.answer .deleteKeys))).1.Forgotten
        sampleKit ↔
      ∀ t ∈ (SecureSigner.deleteKey).run.steps Device.execute lockedPhone
        (List.replicate 5 (sampleService.answer .deleteKeys)),
        ¬ Overlooks t :=
  forgotten_iff_unrefused sampleKit rfl

/-- The vault is locked while everything else is deleted. -/
def vaultLocked : List Verdict :=
  let answer := sampleService.answer .deleteKeys
  [answer, answer, answer, { answer with status := -25308 }, answer]

/-- With its seed left behind, a wallet that was generated and deleted is loaded again,
under the same address. -/
theorem deletedWallet_reloaded (kit : Kit) :
    ∃ (d d' : Device) (address phrase : String),
      served sampleService (SecureSigner.generateKeyPair kit) Device.blank =
        (d, .ok (address, phrase)) ∧
      ((SecureSigner.deleteKey).run.run Device.execute d vaultLocked).2 = some (.ok ()) ∧
      served sampleService (SecureSigner.loadOrRecover kit)
        ((SecureSigner.deleteKey).run.run Device.execute d vaultLocked).1 =
        (d', .ok (some ⟨address, true⟩)) := by
  obtain ⟨d, privateKey, phrase, address, -, hkey, haddress, hgen, -, hseed, -⟩ :=
    SecureSigner.generateKeyPair_served sampleService Device.blank kit
  have hdelete : ((SecureSigner.deleteKey).run.run Device.execute d vaultLocked).1.item .pub =
      none ∧
      ((SecureSigner.deleteKey).run.run Device.execute d vaultLocked).1.item (.seedVault true) =
        d.item (.seedVault true) := by
    simp [SecureSigner.deleteKey, SecureSigner.deleteEnclaveKey, vaultLocked, Prog.run,
      execute_deleteKeys_item, Device.execute_delete_item, sampleService,
      Service.answer, errSecSuccess]
  have hreads : sampleService.reads (.seedVault true) = errSecSuccess := rfl
  obtain ⟨d', privateKey', address', hkey', haddress', hload⟩ :=
    loadOrRecover_seeded hreads hdelete.1 (hdelete.2.trans hseed) kit
  have hsame : privateKey' = privateKey := Subtype.ext (Option.some.inj (hkey'.symm.trans hkey))
  obtain rfl : address' = address := by
    rw [hsame, haddress] at haddress'
    exact (Option.some.inj haddress').symm
  exact ⟨d, d', address', phrase, hgen, rfl, hload⟩

/-- A deletion that is reported as done leaves the wallet in place. -/
theorem deletedWallet_returns :
    ¬ ∃ kit : Kit, ∀ (runs : List (Operation × List Verdict)) (vs : List Verdict),
      let d := Prog.session Device.execute
        (fun op => (Operation.program kit op).run) Device.blank runs
      ((SecureSigner.deleteKey).run.run Device.execute d vs).2 = some (.ok ()) →
        ((SecureSigner.deleteKey).run.run Device.execute d vs).1.Forgotten kit := by
  rintro ⟨kit, h⟩
  obtain ⟨d, d', address, phrase, hgen, hdone, hload⟩ := deletedWallet_reloaded kit
  have hprogram : (Operation.program kit .generateKeyPair).run.answered Device.execute
      sampleService.answer Device.blank =
      (d, .ok ()) := answered_exceptBind hgen
  obtain ⟨vs, hrun⟩ := Prog.exists_run hprogram
  have hforgotten := h [(.generateKeyPair, vs)] vaultLocked
  simp only [Prog.session, hrun] at hforgotten
  obtain ⟨vs', hrun'⟩ := Prog.exists_run hload
  have hnil := (hforgotten hdone).unloadable vs' _ (congrArg Prod.snd hrun')
  cases hnil

end Samples

end Xend.Sdk
