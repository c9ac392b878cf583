import Xend.SecureSigner
import Xend.SeedDerivation

/-! What establishing a wallet does when no call fails on the way. -/

namespace Xend.Sdk

open Framing Interaction

structure Service where
  reads : Item → OSStatus
  entropy : Entropy
  response : Option Response

/-- Every call is carried out and a new key goes first; reading an item comes back
with the status in `reads`. -/
def Service.answer (service : Service) (c : Call) : Verdict where
  status :=
    match c with
    | .secItemCopyMatching item => service.reads item
    | _ => errSecSuccess
  front := true
  holds := true
  entropy := service.entropy
  signature := none
  code := none
  detail := none
  response := service.response

/-- The call is carried out; what a read of an item comes back with is left open. -/
structure Serves (t : DeviceStep) : Prop where
  carried : t.verdict.status = errSecSuccess ∨ ∃ item, t.call = .secItemCopyMatching item
  granted : t.verdict.holds = true ∨ t.call = .canEvaluatePolicy

abbrev served {ε α : Type} (service : Service) (x : Acting ε α) (d : Device) :
    Device × Except (Halt ε) α :=
  x.run.answered Device.execute service.answer d

/-- Where every call is carried out, `x` succeeds and ends in `Q`. -/
abbrev Serving {α : Type} (x : Native α) (Q : α → Device → Prop) (d : Device) : Prop :=
  x.run.Spec Device.execute Serves (fun _ => True) (Ends (fun _ _ => False) Q) d

/-- The items and the current key of a device that holds one whole wallet. -/
structure Device.Provisioned (d : Device) (address : String) (privateKey : Bytes)
    (phrase : String) : Prop where
  pub : d.item .pub = some (.plain (utf8 address))
  wrapped : ∃ key, d.enclave.head? = some key ∧
    d.item .ciphertext = some (.wrapped key privateKey) ∧
    d.item .mnemonic = some (.wrapped key (utf8 phrase))

theorem Serves.status {t : DeviceStep} (h : Serves t)
    (hc : ∀ item, t.call ≠ .secItemCopyMatching item) :
    t.verdict.status = errSecSuccess := by
  refine h.carried.resolve_right ?_
  rintro ⟨item, hi⟩
  exact hc item hi

theorem Serves.holds {t : DeviceStep} (h : Serves t) (hc : t.call ≠ .canEvaluatePolicy) :
    t.verdict.holds = true :=
  h.granted.resolve_right hc

theorem Service.serves (service : Service) (d : Device) (c : Call) :
    Serves ⟨d, c, service.answer c⟩ := by
  refine ⟨?_, .inl rfl⟩
  cases c with
  | secItemCopyMatching item => exact .inr ⟨item, rfl⟩
  | _ => exact .inl rfl

theorem Serving.served {α : Type} {x : Native α} {Q : α → Device → Prop}
    {d : Device} (h : Serving x Q d)
    (service : Service) : ∃ d' a, served service x d = (d', .ok a) ∧ Q a d' := by
  have hend := h.answered service.serves
  generalize hr : x.run.answered Device.execute service.answer d = out at hend
  obtain ⟨d', r⟩ := out
  cases r with
  | error e => exact absurd hend id
  | ok a => exact ⟨d', a, hr, hend⟩

namespace SecureSigner

variable {service : Service} {d : Device} {kit : Kit}

theorem serving_keychainSet (d : Device) (item : Item) (data : Data) :
    Serving (keychainSet item data)
      (fun _ d' => d'.item = Function.update d.item item (some data) ∧
        d'.enclave = d.enclave) d := by
  refine spec_bind (spec_request trivial fun v hv => ⟨trivial, ?_⟩)
  have hitem : ∀ i, (d.execute (.secItemDelete [item]) v).1.item i =
      if i = item then none else d.item i := by
    intro i
    rw [d.execute_delete_item, hv.status (by simp)]
    simp
  have henclave := d.execute_delete_enclave [item] v
  generalize (d.execute (.secItemDelete [item]) v).1 = d₁ at hitem henclave ⊢
  refine spec_bind (spec_request trivial fun w hw => ⟨trivial, ?_⟩)
  have hadd : d₁.execute (.secItemAdd item data) w = (d₁.put item data, errSecSuccess) :=
    Device.execute_add data (hw.status (by simp)) (by rw [hitem, if_pos rfl])
  rw [hadd]
  refine spec_pure trivial ⟨funext fun i => ?_, henclave⟩
  by_cases hi : i = item
  · subst hi
    rw [Device.put_self, Function.update_self]
  · rw [d₁.put_ne _ _ _ hi, Function.update_of_ne hi, hitem, if_neg hi]

theorem serving_makeWrappingKey {d : Device} (hempty : d.enclave = []) (flags : List AccessFlag)
    (inSecureEnclave : Bool) :
    Serving (makeWrappingKey flags inSecureEnclave) (fun key d' => d'.item = d.item ∧
      d'.enclave.head? = some key) d := by
  refine spec_bind (spec_request trivial fun v hv => ⟨trivial, ?_⟩)
  have hholds : v.holds = true := hv.holds (by simp)
  simp only [Device.execute, hholds]
  refine spec_bind (spec_pure trivial (spec_bind (spec_request trivial fun w hw => ⟨trivial, ?_⟩)))
  have hstatus : w.status = errSecSuccess := hw.status (by simp)
  have hexec : d.execute (.secKeyCreateRandomKey flags inSecureEnclave) w =
      (d.createKey w.front, .ok d.created) := by
    simp [Device.execute, hstatus]
  rw [hexec]
  refine spec_pure trivial ⟨rfl, ?_⟩
  rw [Device.createKey_enclave, hempty]
  cases w.front <;> rfl

theorem serving_createEnclaveKey (d : Device) (simulator : Bool) :
    Serving (createEnclaveKey simulator) (fun key d' => d'.item = d.item ∧
      d'.enclave.head? = some key) d := by
  refine spec_bind (spec_bind (spec_request trivial fun v hv => ⟨trivial, spec_pure trivial ?_⟩))
  have hdeleted : (d.execute .deleteKeys v).1.item = d.item ∧
      (d.execute .deleteKeys v).1.enclave = [] := by
    have hstatus : v.status = errSecSuccess := hv.status (by simp)
    by_cases hempty : d.enclave.isEmpty
    · have hkept : (d.execute .deleteKeys v).1 = d := by simp [Device.execute, hstatus, hempty]
      rw [hkept]
      exact ⟨rfl, List.isEmpty_iff.mp hempty⟩
    · have hremoved : (d.execute .deleteKeys v).1 = d.removeKeys := by
        simp [Device.execute, hstatus, hempty]
      rw [hremoved]
      exact ⟨rfl, rfl⟩
  generalize (d.execute .deleteKeys v).1 = d₁ at hdeleted ⊢
  refine spec_bind
    (spec_request trivial fun v hv => ⟨trivial,
      spec_bind (spec_request trivial fun w hw => ⟨trivial, ?_⟩)⟩)
  have hholds : v.holds = true := hv.holds (by simp)
  simp only [Device.execute, hholds]
  obtain ⟨first, rest, hattempts⟩ : ∃ first rest,
      attempts simulator true w.holds = first :: rest := by
    cases simulator <;> cases w.holds <;> exact ⟨_, _, rfl⟩
  rw [hattempts, firstKey]
  refine spec_catching ((serving_makeWrappingKey hdeleted.2 first.1 first.2).mono
    fun r d' _ hr => ?_)
  cases r with
  | error e => exact absurd hr id
  | ok key => exact ⟨hr.1.trans hdeleted.1, hr.2⟩

theorem serving_wrap (d : Device) (plaintext : Bytes) (key : Nat) (label : String) :
    Serving (wrap plaintext key label) (fun data d' => data = .wrapped key plaintext ∧
      d' = d) d := by
  refine spec_bind (spec_request trivial fun v hv => ⟨trivial, ?_⟩)
  have hstatus : v.status = errSecSuccess := hv.status (by simp)
  simp only [Device.execute, hstatus, ne_eq, not_true_eq_false, if_false]
  exact spec_pure trivial ⟨rfl, rfl⟩

/-- What is left to do once the signing key and its address are known. -/
def provision (kit : Kit) (privateKey : Bytes) (mnemonic address : String) : Native String := do
  let enclaveKey ← createEnclaveKey kit.simulator
  let derived ← ask (.secKeyCopyPublicKey enclaveKey)
  require derived (.enclave "could not derive enclave public key")
  let supported ← ask (.secKeyIsAlgorithmSupported enclaveKey)
  require supported (.enclave "ECIES not supported by enclave key")
  let keyCiphertext ← wrap privateKey enclaveKey "the private key"
  let phraseCiphertext ← wrap (utf8 mnemonic) enclaveKey "the recovery phrase"
  keychainSet .ciphertext keyCiphertext
  keychainSet .mnemonic phraseCiphertext
  keychainSet .pub (.plain (utf8 address))
  pure address

theorem establish_eq (kit : Kit) (privateKey : Bytes) (mnemonic : String) :
    establish kit privateKey mnemonic = rawRepresentation kit privateKey >>= fun signingKey =>
      orTrap (address kit signingKey) >>= provision kit privateKey mnemonic := rfl

theorem serving_provision (d : Device) (kit : Kit) (privateKey : Bytes) (phrase text : String) :
    Serving (provision kit privateKey phrase text)
      (fun a d' => a = text ∧ d'.Provisioned text privateKey phrase ∧
        ∀ synchronizable, d'.item (.seedVault synchronizable) =
          d.item (.seedVault synchronizable)) d := by
  refine spec_bind (spec_mono (serving_createEnclaveKey d kit.simulator) fun key d₁ _ h₁ => ?_)
  obtain ⟨hitem₁, hhead⟩ := h₁
  refine spec_bind (spec_request trivial fun v hv => ⟨trivial, ?_⟩)
  have hderived : v.holds = true := hv.holds (by simp)
  simp only [Device.execute, hderived]
  refine spec_bind (spec_pure trivial (spec_bind (spec_request trivial fun w hw => ⟨trivial, ?_⟩)))
  have hsupported : w.holds = true := hw.holds (by simp)
  simp only [Device.execute, hsupported]
  refine spec_bind
    (spec_pure trivial (spec_bind (spec_mono (serving_wrap d₁ _ key _) fun _ d' _ hw => ?_)))
  obtain ⟨rfl, rfl⟩ := hw
  refine spec_bind (spec_mono (serving_wrap d' _ key _) fun _ d₁ _ hw => ?_)
  obtain ⟨rfl, rfl⟩ := hw
  refine spec_bind (spec_mono (serving_keychainSet d₁ .ciphertext _) fun _ d₂ _ h₂ => ?_)
  refine spec_bind (spec_mono (serving_keychainSet d₂ .mnemonic _) fun _ d₃ _ h₃ => ?_)
  refine spec_bind (spec_mono (serving_keychainSet d₃ .pub _) fun _ d₄ _ h₄ => spec_pure trivial ?_)
  refine ⟨rfl, ⟨?_, key, ?_, ?_, ?_⟩, fun synchronizable => ?_⟩
  · simp [h₄.1]
  · rw [h₄.2, h₃.2, h₂.2, hhead]
  · simp [h₄.1, h₃.1, h₂.1]
  · simp [h₄.1, h₃.1]
  · simp [h₄.1, h₃.1, h₂.1, hitem₁]

theorem exists_address (kit : Kit) (privateKey : PrivateKey) :
    ∃ text, address kit privateKey = some text :=
  Base58.exists_encode _

theorem establish_served (service : Service) (d : Device) (kit : Kit) (phrase : String) :
    ∃ (d' : Device) (privateKey : PrivateKey) (text : String),
      Mnemonic.solanaPrivateKey kit.toPrimitives phrase "" = some privateKey.1 ∧
      address kit privateKey = some text ∧
      served service (establish kit privateKey.1 phrase) d = (d', .ok text) ∧
      d'.Provisioned text privateKey.1 phrase ∧
      ∀ synchronizable, d'.item (.seedVault synchronizable) =
        d.item (.seedVault synchronizable) := by
  obtain ⟨key, hkey, hlen⟩ : ∃ key, Mnemonic.solanaPrivateKey kit.toPrimitives phrase "" =
      some key ∧ key.length = 32 :=
    Mnemonic.exists_solanaPrivateKey phrase ""
  obtain ⟨text, htext⟩ := exists_address kit ⟨key, hlen⟩
  obtain ⟨d', a, hserved, ha, hprovisioned, hseeds⟩ :=
    (serving_provision d kit key phrase text).served service
  rw [ha] at hserved
  have hraw : served service (rawRepresentation kit key) d = (d, .ok ⟨key, hlen⟩) := by
    simp only [served, rawRepresentation, hlen, dif_pos]
    rfl
  have htrap : served service (orTrap (address kit ⟨key, hlen⟩)) d = (d, .ok text) := by
    rw [htext]
    rfl
  refine ⟨d', ⟨key, hlen⟩, text, hkey, htext, ?_, hprovisioned, hseeds⟩
  rw [served, establish_eq, answered_exceptBind hraw, answered_exceptBind htrap]
  exact hserved

/-- The seed ends up in the vault, and whatever local copy there was stays. -/
theorem serving_storeRecoverySeed (d : Device) (phrase : String) :
    Serving (storeRecoverySeed phrase) (fun _ d' => d'.item =
      Function.update d.item (.seedVault true) (some (.plain (utf8 phrase))) ∧
      d'.enclave = d.enclave) d := by
  refine spec_catching ((serving_keychainSet d (.seedVault true) (.plain (utf8 phrase))).mono
    fun r d' _ hr => ?_)
  cases r with
  | error e => exact absurd hr id
  | ok _ => exact hr

theorem generateKeyPair_served (service : Service) (d : Device) (kit : Kit) :
    ∃ (d' : Device) (privateKey : PrivateKey) (phrase text : String),
      Mnemonic.encode kit.toPrimitives service.entropy.1 = some phrase ∧
      Mnemonic.solanaPrivateKey kit.toPrimitives phrase "" = some privateKey.1 ∧
      address kit privateKey = some text ∧
      served service (generateKeyPair kit) d = (d', .ok (text, phrase)) ∧
      d'.Provisioned text privateKey.1 phrase ∧
      d'.item (.seedVault true) = some (.plain (utf8 phrase)) ∧
      d'.item (.seedVault false) = d.item (.seedVault false) := by
  obtain ⟨phrase, hphrase⟩ : ∃ phrase,
      Mnemonic.encode kit.toPrimitives service.entropy.1 = some phrase :=
    Mnemonic.exists_encode (show _ = 4 * 4 from service.entropy.2) (by omega)
  obtain ⟨d₁, privateKey, text, hkey, htext, h₁, ⟨hpub, k, hhead, hct, hmn⟩, hseed⟩ :=
    establish_served service d kit phrase
  obtain ⟨d₂, _, h₂, hitem, henc⟩ := (serving_storeRecoverySeed d₁ phrase).served service
  have hgen : served service (generate kit) d = (d, .ok phrase) := by
    simp only [served, generate, run_request_bind, Prog.answered]
    change served service (orTrap (Mnemonic.encode kit.toPrimitives service.entropy.1)) d =
      (d, .ok phrase)
    rw [hphrase]
    rfl
  have htrap : served service (orTrap (Mnemonic.solanaPrivateKey kit.toPrimitives phrase "")) d =
      (d, .ok privateKey.1) := by
    rw [hkey]
    rfl
  refine ⟨d₂, privateKey, phrase, text, hphrase, hkey, htext, ?_, ⟨?_, k, ?_, ?_, ?_⟩, ?_, ?_⟩
  · rw [served, generateKeyPair, answered_exceptBind hgen, answered_exceptBind htrap,
      answered_exceptBind h₁, answered_exceptBind h₂]
    rfl
  · simp [hitem, hpub]
  · rw [henc, hhead]
  · simp [hitem, hct]
  · simp [hitem, hmn]
  · simp [hitem]
  · simp [hitem, hseed]

theorem restore_served (service : Service) (d : Device) (kit : Kit) {phrase : String}
    (hvalid : Mnemonic.validate kit.toPrimitives phrase = .ok ()) :
    ∃ (d' : Device) (privateKey : PrivateKey) (text : String),
      address kit privateKey = some text ∧
      served service (restore kit phrase) d = (d', .ok text) := by
  obtain ⟨d₁, privateKey, text, hkey, htext, h₁, -⟩ := establish_served service d kit phrase
  obtain ⟨d₂, _, h₂, -⟩ := (serving_storeRecoverySeed d₁ phrase).served service
  have hvalidate : served service (validate kit phrase) d = (d, .ok ()) := by
    rw [validate, hvalid]
    rfl
  have htrap : served service (orTrap (Mnemonic.solanaPrivateKey kit.toPrimitives phrase "")) d =
      (d, .ok privateKey.1) := by
    rw [hkey]
    rfl
  refine ⟨d₂, privateKey, text, htext, ?_⟩
  rw [served, restore, answered_exceptBind hvalidate, answered_exceptBind htrap,
    answered_exceptBind h₁, answered_exceptBind h₂]
  rfl

end SecureSigner

/-- Ed25519 as it is on the key of all zeros. -/
def sampleKit : Kit where
  toPrimitives := Mnemonic.zeroPrimitives
  publicKey _ :=
    ⟨[0x3b, 0x6a, 0x27, 0xbc, 0xce, 0xb6, 0xa4, 0x2d, 0x62, 0xa3, 0xa8, 0xd0,
      0x2a, 0x6f, 0x0d, 0x73, 0x65, 0x32, 0x15, 0x77, 0x1d, 0xe2, 0x43, 0xa6, 0x3a, 0xc0, 0x48,
      0xa1, 0x8b, 0x59, 0xda, 0x29], rfl⟩
  sizeError := "incorrectKeySize"
  signingError := "underlyingCoreCryptoError"
  simulator := false

def sampleService : Service where
  reads _ := errSecSuccess
  entropy := ⟨List.replicate 16 0, rfl⟩
  response := none

end Xend.Sdk
