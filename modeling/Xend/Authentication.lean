import Xend.Channel
import Xend.KeyStore

/-! The access control of the keys in the Enclave. Over every sequence of channel
calls, what a device build signs or reveals was authenticated by its user. -/

namespace Xend.Sdk

open Framing Interaction

structure AccessControl where
  flags : List AccessFlag
  inSecureEnclave : Bool

/-- Using the key makes the phone ask for its user. -/
def AccessControl.asks (a : AccessControl) : Bool :=
  a.flags.contains .biometryCurrentSet || a.flags.contains .userPresence

/-- The phone with the access control of each key it made. -/
structure Phone where
  device : Device
  access : Nat → Option AccessControl

/-- How the phone treats a call, and whether its user answered the prompt. -/
structure Attended where
  verdict : Verdict
  authenticated : Bool

abbrev PhoneStep := Step Call Phone Attended

namespace Phone

def blank : Phone := ⟨.blank, fun _ => none⟩

def prompts (p : Phone) : Call → Bool
  | .secKeyCreateDecryptedData key _ => (p.access key).any AccessControl.asks
  | _ => false

/-- Without its user, a key that asks for one decrypts nothing. -/
def verdict (p : Phone) (c : Call) (v : Attended) : Verdict :=
  if p.prompts c && !v.authenticated then { v.verdict with status := errSecAuthFailed }
    else v.verdict

def recorded (p : Phone) (v : Verdict) : Call → Nat → Option AccessControl
  | .secKeyCreateRandomKey flags inSecureEnclave =>
    if v.status = errSecSuccess then Function.update p.access p.device.created
    (some ⟨flags, inSecureEnclave⟩)
    else p.access
  | _ => p.access

def execute (p : Phone) (c : Call) (v : Attended) : Phone × Reply c :=
  let r := p.device.execute c (p.verdict c v)
  (⟨r.1, p.recorded (p.verdict c v) c⟩, r.2)

/-- Every key under the wallet's tag is one of the Enclave and asks for its user. -/
def Guarded (p : Phone) : Prop :=
  ∀ key ∈ p.device.enclave, ∃ a, p.access key = some a ∧ a.asks = true ∧ a.inSecureEnclave = true

end Phone

/-- The user was there for a decryption under one of the wallet's keys. -/
def Attested (steps : List PhoneStep) : Prop :=
  ∃ t ∈ steps, ∃ key data, t.call = .secKeyCreateDecryptedData key data ∧
    key ∈ t.before.device.enclave ∧
    t.verdict.authenticated = true

/-- A signature follows a decryption that the user authenticated; a key is bound to the
enrolled biometrics, and to the passcode only where none are enrolled. -/
def Fits (earlier : List PhoneStep) : Call → Prop
  | .signature _ _ => Attested earlier
  | .secKeyCreateRandomKey flags inSecureEnclave => inSecureEnclave = true ∧
    ∃ t ∈ earlier, t.call = .canEvaluatePolicy ∧
      flags = [.privateKeyUsage,
        if t.verdict.verdict.holds then .biometryCurrentSet else .userPresence]
  | _ => True

namespace XendSecurePlugin

/-- The steps that a call of the channel takes on the phone of its wallet. -/
def stepsOf {S V : Type} (kit : Kit) (exec : S → (c : Call) → V → S × Reply c) (phones : String → S)
    (call : FlutterMethodCall) (vs : List V) : List (Step Call S V) :=
  match dispatch kit call with
  | .ok (some (walletId, work)) => work.run.steps exec (phones walletId) vs
  | _ => []

end XendSecurePlugin

section Refinement

variable {α : Type}

/-- The access control only takes verdicts away: each run is one of the device alone. -/
theorem run_phone (p : Prog Call Reply α) (s : Phone) (vs : List Attended) :
    ∃ vs', p.run Device.execute s.device vs' =
      ((p.run Phone.execute s vs).1.device, (p.run Phone.execute s vs).2) := by
  induction p generalizing s vs with
  | done a => exact ⟨[], rfl⟩
  | call c k ih =>
    cases vs with
    | nil => exact ⟨[], rfl⟩
    | cons v vs =>
      obtain ⟨vs', h⟩ := ih _ (s.execute c v).1 vs
      exact ⟨s.verdict c v :: vs', h⟩

end Refinement

section Steps

abbrev Watched := Phone × List PhoneStep

abbrev watched : Watched → (c : Call) → Attended → Watched × Reply c := Prog.recording Phone.execute

def Fitting : List PhoneStep → Prop
  | [] => True
  | t :: earlier => Fits earlier t.call ∧ Fitting earlier

structure Sane (s : Watched) : Prop where
  guarded : s.1.Guarded
  fitting : Fitting s.2

/-- Neither a signature nor the making of a key. -/
def Plain : Call → Prop
  | .signature _ _ => False
  | .secKeyCreateRandomKey _ _ => False
  | _ => True

variable {s : Watched} {c : Call} {v : Attended}

theorem Plain.fits (h : Plain c) (earlier : List PhoneStep) : Fits earlier c := by
  cases c with
  | signature privateKey message => exact absurd h id
  | secKeyCreateRandomKey flags inSecureEnclave => exact absurd h id
  | _ => trivial

theorem asks_of_fits {flags : List AccessFlag} {inSecureEnclave : Bool} {earlier : List PhoneStep}
    (h : Fits earlier (.secKeyCreateRandomKey flags inSecureEnclave)) :
    (AccessControl.mk flags inSecureEnclave).asks = true := by
  obtain ⟨-, t, -, -, rfl⟩ := h
  rw [AccessControl.asks]
  cases t.verdict.verdict.holds <;> rfl

theorem Phone.recorded_of_lt (p : Phone) (w : Verdict) (c : Call) {key : Nat}
    (hkey : key < p.device.created) :
    p.recorded w c key = p.access key := by
  cases c with
  | secKeyCreateRandomKey flags inSecureEnclave =>
    simp only [recorded]
    split
    · exact Function.update_of_ne (by omega) ..
    · rfl
  | _ => rfl

theorem Phone.Guarded.step {p : Phone} (h : p.Guarded) {earlier : List PhoneStep}
    (hc : Fits earlier c) :
    (p.execute c v).1.Guarded := by
  have hold : ∀ key ∈ p.device.enclave, ∃ a, p.recorded (p.verdict c v) c key = some a ∧
      a.asks = true ∧
      a.inSecureEnclave = true := by
    intro key hkey
    rw [p.recorded_of_lt _ c (p.device.enclave_lt key hkey)]
    exact h key hkey
  have heq : (p.execute c v).1 =
      ⟨(p.device.execute c (p.verdict c v)).1, p.recorded (p.verdict c v) c⟩ := rfl
  rw [heq]
  rcases p.device.execute_cases c (p.verdict c v) with he | ⟨hs, he⟩
  · rw [he]
    exact hold
  · generalize (p.device.execute c (p.verdict c v)).1 = d at he
    cases he with
    | add item data hnone => exact hold
    | delete items => exact hold
    | deleteKeys => simp [Phone.Guarded]
    | create flags inSecureEnclave =>
      intro key hkey
      have hmem : key = p.device.created ∨ key ∈ p.device.enclave := by
        rw [Device.createKey_enclave] at hkey
        split at hkey <;> simpa [or_comm] using hkey
      rcases hmem with rfl | hmem
      · refine ⟨⟨flags, inSecureEnclave⟩, ?_, asks_of_fits hc, hc.1⟩
        simp only [Phone.recorded, hs, if_true, Function.update_self]
      · exact hold key hmem

theorem Sane.step (h : Sane s) (hc : Fits s.2 c) : Sane (watched s c v).1 :=
  ⟨h.guarded.step hc, hc, h.fitting⟩

theorem Attested.mono {steps steps' : List PhoneStep} (h : Attested steps) (hsub : steps ⊆ steps') :
    Attested steps' := by
  obtain ⟨t, ht, hattested⟩ := h
  exact ⟨t, hsub ht, hattested⟩

theorem Fits.mono {steps steps' : List PhoneStep} (h : Fits steps c) (hsub : steps ⊆ steps') :
    Fits steps' c := by
  cases c with
  | signature privateKey message => exact Attested.mono h hsub
  | secKeyCreateRandomKey flags inSecureEnclave =>
    obtain ⟨henclave, t, ht, hbound⟩ := h
    exact ⟨henclave, t, hsub ht, hbound⟩
  | _ => trivial

end Steps

section Programs

/-- What holds of the steps so far goes on to hold. -/
def Persistent (F : List PhoneStep → Prop) : Prop := ∀ t steps, F steps → F (t :: steps)

/-- `x` is sane at every point, and where it ends `F` still holds. -/
abbrev Stays {α : Type} (F : List PhoneStep → Prop) (x : Native α) (Q : α → Watched → Prop)
    (s : Watched) : Prop :=
  x.run.Spec watched (fun _ => True) Sane (Ends (fun _ s => Sane s ∧ F s.2) Q) s

variable {α β : Type} {F : List PhoneStep → Prop} {s : Watched} {kit : Kit}

theorem stays_plain (hF : Persistent F) {x : Native α} (hx : x.run.Calls Plain)
    (h : Sane s ∧ F s.2) :
    Stays F x (fun _ s => Sane s ∧ F s.2) s :=
  spec_calls hx (fun _ _ _ hc hs => ⟨hs.1.step (hc.fits _), hF _ _ hs.2⟩)
    (fun _ hs => hs.1) (fun _ _ hs => hs) h

theorem Stays.weaken {F' : List PhoneStep → Prop} {x : Native α}
    (h : Stays F' x (fun _ s => Sane s ∧ F' s.2) s)
    (hF : ∀ steps, F' steps → F steps) : Stays F x (fun _ s => Sane s ∧ F s.2) s := by
  refine h.mono fun r s _ hr => ?_
  cases r with
  | ok a => exact ⟨hr.1, hF _ hr.2⟩
  | error e => exact ⟨hr.1, hF _ hr.2⟩

theorem stays_request (hF : Persistent F) {c : Call} (hc : ∀ steps, F steps → Fits steps c)
    (h : Sane s ∧ F s.2) :
    Stays F (ask c) (fun _ s => Sane s ∧ F s.2) s :=
  spec_request h.1 fun _ _ => ⟨h.1.step (hc _ h.2), h.1.step (hc _ h.2), hF _ _ h.2⟩

theorem stays_makeWrappingKey (hF : Persistent F) {flags : List AccessFlag} {inSecureEnclave : Bool}
    (hc : ∀ steps, F steps → Fits steps (.secKeyCreateRandomKey flags inSecureEnclave))
    (h : Sane s ∧ F s.2) :
    Stays F (SecureSigner.makeWrappingKey flags inSecureEnclave) (fun _ s => Sane s ∧ F s.2) s := by
  refine spec_bind (spec_mono (stays_request hF (fun _ _ => trivial) h) fun access s _ h => ?_)
  refine spec_bind (spec_mono (stays_plain hF SecureSigner.calls_require h) fun _ s _ h => ?_)
  refine spec_bind (spec_mono (stays_request hF hc h) fun key s _ h => ?_)
  cases key with
  | ok key => exact spec_pure h.1 h
  | error detail => exact spec_attempt h.1 h

theorem stays_firstKey (hF : Persistent F) (lastError : NativeError)
    (attempts : List (List AccessFlag × Bool))
    (hc : ∀ a ∈ attempts, ∀ steps, F steps → Fits steps (.secKeyCreateRandomKey a.1 a.2))
    (h : Sane s ∧ F s.2) :
    Stays F (SecureSigner.firstKey lastError attempts) (fun _ s => Sane s ∧ F s.2) s := by
  induction attempts generalizing s lastError with
  | nil => exact spec_attempt h.1 h
  | cons a rest ih =>
    obtain ⟨ha, hrest⟩ := List.forall_mem_cons.mp hc
    refine SecureSigner.spec_catching ((stays_makeWrappingKey hF ha h).mono fun r s _ hr => ?_)
    match r with
    | .ok key => exact hr
    | .error (.thrown e) => exact ih e hrest hr
    | .error .trap => exact hr

/-- On a device build every attempt binds the key as the answer to the policy asks for. -/
theorem attempts_fit {t : PhoneStep} (ht : t.call = .canEvaluatePolicy) (available : Bool) :
    ∀ a ∈ SecureSigner.attempts false available t.verdict.verdict.holds, ∀ steps, t ∈ steps →
      Fits steps (.secKeyCreateRandomKey a.1 a.2) := by
  intro a ha steps hmem
  have hflags : a =
      ([.privateKeyUsage, if t.verdict.verdict.holds then .biometryCurrentSet else .userPresence],
        true) := by
    rw [SecureSigner.attempts] at ha
    cases hholds : t.verdict.verdict.holds <;> cases available <;> simp_all
  rw [hflags]
  exact ⟨rfl, t, hmem, ht, rfl⟩

theorem stays_createEnclaveKey (hF : Persistent F) (h : Sane s ∧ F s.2) :
    Stays F (SecureSigner.createEnclaveKey false) (fun _ s => Sane s ∧ F s.2) s := by
  refine spec_bind
    (spec_mono (stays_plain hF (calls_bind (calls_request trivial) fun _ => trivial) h)
      fun _ s _ h => ?_)
  refine spec_bind (spec_mono (stays_request hF (fun _ _ => trivial) h) fun available s _ h => ?_)
  have hnext : ∀ v, Sane (watched s .canEvaluatePolicy v).1 := fun v => h.1.step trivial
  refine spec_bind (spec_request h.1 fun v _ => ⟨hnext v, ?_⟩)
  let t : PhoneStep := ⟨s.1, .canEvaluatePolicy, v⟩
  have hasked : Persistent fun steps => F steps ∧ t ∈ steps :=
    fun t' steps hs => ⟨hF t' steps hs.1, List.mem_cons_of_mem t' hs.2⟩
  have hfit := attempts_fit (t := t) rfl available
  exact (stays_firstKey hasked _ _ (fun a ha steps hs => hfit a ha steps hs.2)
    ⟨hnext v, hF _ _ h.2, List.mem_cons_self⟩).weaken fun _ hs => hs.1

theorem plain_keychainSet {item : Item} {data : Data} :
    (SecureSigner.keychainSet item data).run.Calls Plain :=
  SecureSigner.calls_keychainSet trivial trivial

theorem plain_wrap {plaintext : Bytes} {key : Nat} {label : String} :
    (SecureSigner.wrap plaintext key label).run.Calls Plain :=
  SecureSigner.calls_wrap trivial

theorem stays_establish (hF : Persistent F) (hdevice : kit.simulator = false)
    (privateKey : Bytes) (phrase : String)
    (h : Sane s ∧ F s.2) :
    Stays F (SecureSigner.establish kit privateKey phrase) (fun _ s => Sane s ∧ F s.2) s := by
  refine spec_bind (spec_mono (stays_plain hF SecureSigner.calls_rawRepresentation h)
    fun signingKey s _ h => ?_)
  refine spec_bind (spec_mono (stays_plain hF trivial h) fun address s _ h => ?_)
  rw [hdevice]
  refine spec_bind (spec_mono (stays_createEnclaveKey hF h)
    fun enclaveKey s _ h => stays_plain hF ?_ h)
  refine calls_bind (calls_request trivial) fun _ =>
    calls_bind SecureSigner.calls_require fun _ => ?_
  refine calls_bind (calls_request trivial) fun _ =>
    calls_bind SecureSigner.calls_require fun _ => ?_
  refine calls_bind plain_wrap fun _ => calls_bind plain_wrap fun _ => ?_
  refine calls_bind plain_keychainSet fun _ => calls_bind plain_keychainSet fun _ => ?_
  exact calls_bind plain_keychainSet fun _ => trivial

end Programs

section Reads

theorem Device.execute_copyMatchingKey (d : Device) (reason : String) (v : Verdict) :
    (d.execute (.copyMatchingKey reason) v).1 = d ∧
      ∀ key, (d.execute (.copyMatchingKey reason) v).2 = (errSecSuccess, some key) →
      key ∈ d.enclave := by
  by_cases hs : v.status = errSecSuccess
  · cases hlist : d.enclave with
    | nil => simp [execute, hs, hlist, errSecItemNotFound, errSecSuccess]
    | cons k keys => simp [execute, hs, hlist]
  · refine ⟨by simp [execute, hs], fun key hkey => ?_⟩
    simp [execute, hs] at hkey

theorem Device.execute_copyMatching (d : Device) (item : Item) (v : Verdict) :
    (d.execute (.secItemCopyMatching item) v).1 = d := by
  by_cases hs : v.status = errSecSuccess
  · by_cases hi : (d.item item).isSome <;> simp [execute, hs, hi]
  · simp [execute, hs]

/-- A key that asks for the user decrypts nothing without one. -/
theorem Phone.authenticated_of_decrypted {p : Phone} (h : p.Guarded) {key : Nat}
    (hkey : key ∈ p.device.enclave)
    {data : Data} {v : Attended} {plaintext : Bytes}
    (hok : (p.execute (.secKeyCreateDecryptedData key data) v).2 = .ok plaintext) :
    v.authenticated = true := by
  obtain ⟨a, haccess, hasks, -⟩ := h key hkey
  cases hv : v.authenticated with
  | true => rfl
  | false =>
    have hprompts : (p.prompts (.secKeyCreateDecryptedData key data) && !v.authenticated) =
        true := by
      simp [prompts, haccess, hasks, hv]
    have hrefused : (p.verdict (.secKeyCreateDecryptedData key data) v).status ≠ errSecSuccess := by
      simp [verdict, hprompts, errSecAuthFailed, errSecSuccess]
    simp [execute, Device.execute, hrefused] at hok

end Reads

section Methods

abbrev Anything (_ : List PhoneStep) : Prop := True

/-- The steps are sane, and what `x` comes back with satisfies `Q`. -/
abbrev Sanely {α : Type} (x : Native α) (Q : α → Watched → Prop) (s : Watched) :
    Prop := Stays Anything x Q s

variable {α β : Type} {s : Watched} {kit : Kit} {key : Nat}

theorem persistent_anything : Persistent Anything := fun _ _ _ => trivial

theorem sanely_of {x : Native α} (hx : Stays Anything x (fun _ s => Sane s ∧ Anything s.2) s) :
    Sanely x (fun _ s => Sane s) s := spec_mono hx fun _ _ _ h => h.1

theorem sanely_plain {x : Native α} (hx : x.run.Calls Plain) (h : Sane s) :
    Sanely x (fun _ s => Sane s) s :=
  sanely_of (stays_plain persistent_anything hx ⟨h, trivial⟩)

theorem sanely_map {x : Native α} (f : α → β) {Q : α → Watched → Prop}
    {Q' : β → Watched → Prop} (h : Sanely x Q s)
    (hQ : ∀ a s, Q a s → Q' (f a) s) : Sanely (f <$> x) Q' s := by
  rw [Sanely, Stays, ExceptT.run_map]
  refine Prog.Spec.map (h.mono fun r s _ hr => ?_)
  cases r with
  | ok a => exact hQ a s hr
  | error e => exact hr

theorem sanely_found {value : OSStatus × Option α} {Q : α → Watched → Prop} (h : Sane s)
    (hQ : ∀ a, value = (errSecSuccess, some a) → Q a s) :
    Sanely (SecureSigner.found value) Q s := by
  obtain ⟨status, value⟩ := value
  by_cases hnone : status = errSecItemNotFound
  · simp only [SecureSigner.found, hnone, if_true]
    exact spec_attempt h ⟨h, trivial⟩
  · simp only [SecureSigner.found, hnone, if_false]
    cases value with
    | none => exact spec_attempt h ⟨h, trivial⟩
    | some a =>
      by_cases hs : status = errSecSuccess
      · simp only [hs, if_true]
        exact spec_pure h (hQ a (by rw [hs]))
      · simp only [hs, if_false]
        exact spec_attempt h ⟨h, trivial⟩

theorem sanely_loadEnclaveKey (reason : String) (h : Sane s) :
    Sanely (SecureSigner.loadEnclaveKey reason) (fun key s => Sane s ∧
      key ∈ s.1.device.enclave) s := by
  have hnext : ∀ v, Sane (watched s (.copyMatchingKey reason) v).1 := fun v => h.step trivial
  refine spec_bind
    (spec_request h fun v _ => ⟨hnext v, sanely_found (hnext v) fun key hkey => ⟨hnext v, ?_⟩⟩)
  obtain ⟨hsame, hfound⟩ :=
    s.1.device.execute_copyMatchingKey reason (s.1.verdict (.copyMatchingKey reason) v)
  change key ∈ (s.1.device.execute (.copyMatchingKey reason) _).1.enclave
  rw [hsame]
  exact hfound key hkey

theorem sanely_keychainGet (item : Item) (h : Sane s) (hkey : key ∈ s.1.device.enclave) :
    Sanely (SecureSigner.keychainGet item) (fun _ s => Sane s ∧ key ∈ s.1.device.enclave) s := by
  have hnext : ∀ v, Sane (watched s (.secItemCopyMatching item) v).1 := fun v => h.step trivial
  refine spec_bind
    (spec_request h fun v _ => ⟨hnext v, sanely_found (hnext v) fun data _ => ⟨hnext v, ?_⟩⟩)
  change key ∈ (s.1.device.execute (.secItemCopyMatching item) _).1.enclave
  rw [Device.execute_copyMatching]
  exact hkey

theorem sanely_unwrap (data : Data) (label : String) (h : Sane s)
    (hkey : key ∈ s.1.device.enclave) :
    Sanely (SecureSigner.unwrap key data label) (fun _ s => Sane s ∧ Attested s.2) s := by
  have hnext : ∀ v, Sane (watched s (.secKeyCreateDecryptedData key data) v).1 :=
    fun v => h.step trivial
  refine spec_bind (spec_request h fun v _ => ⟨hnext v, ?_⟩)
  cases hr : (watched s (.secKeyCreateDecryptedData key data) v).2 with
  | ok plaintext =>
    have hauth := Phone.authenticated_of_decrypted h.guarded hkey hr
    exact spec_pure (hnext v) ⟨hnext v, _, List.mem_cons_self, key, data, rfl, hkey, hauth⟩
  | error code =>
    dsimp only
    split
    · exact spec_attempt (hnext v) ⟨hnext v, trivial⟩
    · exact spec_attempt (hnext v) ⟨hnext v, trivial⟩

theorem sanely_signMessage (message : Bytes) (reason : String) (h : Sane s) :
    Sanely (SecureSigner.signMessage kit message reason) (fun _ s => Sane s) s := by
  refine spec_bind (spec_mono (sanely_loadEnclaveKey reason h) fun key s _ hs => ?_)
  refine spec_bind (spec_mono (sanely_keychainGet .ciphertext hs.1 hs.2) fun data s _ hs => ?_)
  refine spec_bind (spec_mono (sanely_unwrap data _ hs.1 hs.2) fun plaintext s _ hs => ?_)
  have hattested : Persistent Attested := fun t steps h => h.mono (List.subset_cons_self t steps)
  have hweaken : ∀ x : Native Signature, Stays Attested x (fun _ s => Sane s ∧ Attested s.2) s →
      Sanely x (fun _ s => Sane s) s := fun x hx => sanely_of (hx.weaken fun _ _ => trivial)
  refine hweaken _ ?_
  refine spec_bind (spec_mono (stays_plain hattested SecureSigner.calls_rawRepresentation hs)
    fun signingKey s _ hs => ?_)
  refine spec_bind (spec_mono (stays_request hattested (fun _ h => h) hs)
    fun signature s _ hs => ?_)
  cases signature with
  | some signature => exact spec_pure hs.1 hs
  | none => exact spec_attempt hs.1 hs

theorem sanely_revealMnemonic (reason : String) (h : Sane s) :
    Sanely (SecureSigner.revealMnemonic reason) (fun _ s => Sane s ∧ Attested s.2) s := by
  refine spec_bind (spec_mono (sanely_loadEnclaveKey reason h) fun key s _ hs => ?_)
  refine spec_bind (spec_mono (sanely_keychainGet .mnemonic hs.1 hs.2) fun data s _ hs => ?_)
  refine spec_bind (spec_mono (sanely_unwrap data _ hs.1 hs.2) fun plaintext s _ hs => ?_)
  cases ofUtf8 plaintext with
  | some mnemonic => exact spec_pure hs.1 hs
  | none => exact spec_attempt hs.1 ⟨hs.1, trivial⟩

theorem plain_storeRecoverySeed (mnemonic : String) :
    (SecureSigner.storeRecoverySeed mnemonic).run.Calls Plain :=
  SecureSigner.calls_catching plain_keychainSet fun _ =>
    calls_bind (SecureSigner.calls_catching (calls_bind plain_keychainSet fun _ => trivial)
      fun _ => trivial) fun _ => trivial

theorem sanely_established (hdevice : kit.simulator = false) (mnemonic : String)
    {f : String → Native α}
    (hf : ∀ address s, Sane s → Sanely (f address) (fun _ s => Sane s) s) (h : Sane s) :
    Sanely (do
      let privateKey ← SecureSigner.orTrap (Mnemonic.solanaPrivateKey kit.toPrimitives mnemonic "")
      let address ← SecureSigner.establish kit privateKey mnemonic
      f address) (fun _ s => Sane s) s := by
  refine spec_bind (spec_mono (sanely_plain trivial h) fun privateKey s _ h => ?_)
  have hestablish :=
    sanely_of (stays_establish persistent_anything hdevice privateKey mnemonic ⟨h, trivial⟩)
  exact spec_bind (spec_mono hestablish fun address s _ h => hf address s h)

theorem sanely_generateKeyPair (hdevice : kit.simulator = false) (h : Sane s) :
    Sanely (SecureSigner.generateKeyPair kit) (fun _ s => Sane s) s := by
  refine spec_bind (spec_mono (sanely_plain (calls_bind (calls_request trivial) fun _ => trivial) h)
    fun mnemonic s _ h => ?_)
  exact sanely_established hdevice mnemonic
    (fun address s h => sanely_plain (calls_bind (plain_storeRecoverySeed mnemonic)
      fun _ => trivial) h) h

theorem sanely_restore (hdevice : kit.simulator = false) (mnemonic : String) (h : Sane s) :
    Sanely (SecureSigner.restore kit mnemonic) (fun _ s => Sane s) s := by
  have hvalidate : (SecureSigner.validate kit mnemonic).run.Calls Plain := by
    unfold SecureSigner.validate
    split <;> trivial
  refine spec_bind (spec_mono (sanely_plain hvalidate h) fun _ s _ h => ?_)
  exact sanely_established hdevice mnemonic
    (fun address s h => sanely_plain (calls_bind (plain_storeRecoverySeed mnemonic)
      fun _ => trivial) h) h

theorem plain_getPublicKey : SecureSigner.getPublicKey.run.Calls Plain := by
  refine calls_bind (SecureSigner.calls_keychainGet trivial) fun data => ?_
  cases data.text <;> trivial

theorem plain_tried {x : Native α} (h : x.run.Calls Plain) :
    (SecureSigner.tried x).run.Calls Plain :=
  SecureSigner.calls_catching (calls_bind h fun _ => trivial) fun _ => trivial

theorem plain_loadRecoverySeedFrom (places : List Bool) :
    (SecureSigner.loadRecoverySeedFrom places).run.Calls Plain := by
  induction places with
  | nil => trivial
  | cons place rest ih =>
    refine calls_bind (plain_tried (SecureSigner.calls_keychainGet trivial)) fun data => ?_
    cases data.bind Data.text with
    | some mnemonic => trivial
    | none => exact ih

theorem sanely_loadOrRecover (hdevice : kit.simulator = false) (h : Sane s) :
    Sanely (SecureSigner.loadOrRecover kit) (fun _ s => Sane s) s := by
  refine spec_bind (spec_mono (sanely_plain (plain_tried plain_getPublicKey) h)
    fun stored s _ h => ?_)
  cases stored with
  | some address => exact spec_pure h h
  | none =>
    refine spec_bind (spec_mono (sanely_plain (plain_loadRecoverySeedFrom _) h)
      fun seed s _ h => ?_)
    cases seed with
    | none => exact spec_pure h h
    | some mnemonic =>
      exact sanely_established hdevice mnemonic (fun address s h => spec_pure h h) h

theorem plain_deleteKey : SecureSigner.deleteKey.run.Calls Plain := by
  simp [SecureSigner.deleteKey, SecureSigner.deleteEnclaveKey, Prog.Calls, Plain]

end Methods

section Sessions

open XendSecurePlugin

variable {kit : Kit} {call : FlutterMethodCall}

theorem sanely_dispatched (hdevice : kit.simulator = false) {walletId : String}
    {work : Native StandardValue}
    (hd : dispatch kit call = .ok (some (walletId, work))) {s : Watched} (h : Sane s) :
    Sanely work (fun _ s => Sane s ∧ (call.method = "revealMnemonic" → Attested s.2)) s := by
  have hmap : ∀ {α : Type} {x : Native α} (f : α → StandardValue), Sanely x (fun _ s => Sane s) s →
      call.method ≠ "revealMnemonic" →
      Sanely (f <$> x) (fun _ s => Sane s ∧ (call.method = "revealMnemonic" → Attested s.2)) s :=
    fun f hx hne => sanely_map f hx fun _ s hs => ⟨hs, fun he => absurd he hne⟩
  obtain ⟨method, arguments⟩ := call
  unfold dispatch at hd
  dsimp only at hd
  split at hd
  · obtain ⟨_, -, hwork⟩ := bind_eq_ok.mp hd
    cases hwork
    exact hmap _ (sanely_generateKeyPair hdevice h) (by simp)
  · obtain ⟨_, -, hrest⟩ := bind_eq_ok.mp hd
    obtain ⟨mnemonic, -, hwork⟩ := bind_eq_ok.mp hrest
    cases hwork
    exact hmap _ (sanely_restore hdevice mnemonic h) (by simp)
  · obtain ⟨_, -, hwork⟩ := bind_eq_ok.mp hd
    cases hwork
    exact hmap _ (sanely_loadOrRecover hdevice h) (by simp)
  · obtain ⟨_, -, hwork⟩ := bind_eq_ok.mp hd
    cases hwork
    exact sanely_map _ (sanely_revealMnemonic _ h) fun _ s hs => ⟨hs.1, fun _ => hs.2⟩
  · obtain ⟨_, -, hwork⟩ := bind_eq_ok.mp hd
    cases hwork
    exact hmap _ (sanely_plain plain_getPublicKey h) (by simp)
  · obtain ⟨_, -, hrest⟩ := bind_eq_ok.mp hd
    obtain ⟨bytes, -, hwork⟩ := bind_eq_ok.mp hrest
    cases hwork
    exact hmap _ (sanely_signMessage bytes _ h) (by simp)
  · obtain ⟨_, -, hwork⟩ := bind_eq_ok.mp hd
    cases hwork
    exact hmap _ (sanely_plain plain_deleteKey h) (by simp)
  · cases hd

/-- What one call does on a guarded phone. -/
theorem sane_run (hdevice : kit.simulator = false) {walletId : String} {work : Native StandardValue}
    (hd : dispatch kit call = .ok (some (walletId, work))) {p : Phone} (h : p.Guarded)
    (vs : List Attended) :
    (work.run.run Phone.execute p vs).1.Guarded ∧
    Fitting (work.run.steps Phone.execute p vs).reverse ∧
      (call.method = "revealMnemonic" →
        ∀ value, (work.run.run Phone.execute p vs).2 = some (.ok value) →
        Attested (work.run.steps Phone.execute p vs)) := by
  have hsane : Sane (p, []) := ⟨h, trivial⟩
  have hrun := (sanely_dispatched hdevice hd hsane).run vs fun _ _ => trivial
  rw [Prog.run_recording, List.append_nil] at hrun
  refine ⟨hrun.1.guarded, hrun.1.fitting, fun hmethod value hvalue => ?_⟩
  obtain ⟨t, ht, hattested⟩ := (hrun.2 _ hvalue).2 hmethod
  exact ⟨t, List.mem_reverse.mp ht, hattested⟩

theorem fitting_reverse {steps : List PhoneStep} (h : Fitting steps.reverse)
    {earlier later : List PhoneStep}
    {t : PhoneStep} (hsteps : steps = earlier ++ t :: later) : Fits earlier t.call := by
  rw [hsteps, List.reverse_append, List.reverse_cons, List.append_assoc] at h
  have hdrop : ∀ (front rest : List PhoneStep), Fitting (front ++ rest) → Fitting rest := by
    intro front rest hfit
    induction front with
    | nil => exact hfit
    | cons t' front ih => exact ih hfit.2
  exact (hdrop _ _ h).1.mono fun t' ht' => List.mem_reverse.mp ht'

theorem guarded_handle (hdevice : kit.simulator = false) {phones : String → Phone}
    (h : ∀ w, (phones w).Guarded)
    (call : FlutterMethodCall) (vs : List Attended) (w : String) :
    ((handle kit Phone.execute phones call vs).1 w).Guarded := by
  by_cases hw : walletOf kit call = some w
  · rcases dispatched kit call with ⟨id, work, hd, -⟩ | ⟨hd, -⟩ | ⟨_, _, _, -, -, hd⟩
    · obtain rfl : id = w := by simpa [walletOf, hd, Except.toOption] using hw
      simp only [handle, hd, Function.update_self]
      exact (sane_run hdevice hd (h id) vs).1
    · simp [walletOf, hd, Except.toOption] at hw
    · simp [walletOf, hd, Except.toOption] at hw
  · rw [handle_other phones vs hw]
    exact h w

theorem guarded_serve (hdevice : kit.simulator = false) {phones : String → Phone}
    (h : ∀ w, (phones w).Guarded)
    (calls : List (FlutterMethodCall × List Attended)) (w : String) :
    ((serve kit Phone.execute phones calls).1 w).Guarded := by
  induction calls generalizing phones with
  | nil => exact h w
  | cons c rest ih => exact ih fun w => guarded_handle hdevice h c.1 c.2 w

/-- On a device, whatever the channel is asked and wherever it fails: every wrapping key
is one of the Enclave that asks for its user, nothing is signed before the user
authenticated a decryption, and no phrase is revealed without one. -/
theorem authenticated_use (hdevice : kit.simulator = false)
    (calls : List (FlutterMethodCall × List Attended)) :
    let phones := (serve kit Phone.execute (fun _ => Phone.blank) calls).1
    (∀ w, (phones w).Guarded) ∧ ∀ (call : FlutterMethodCall) (vs : List Attended),
      let steps := stepsOf kit Phone.execute phones call vs
      (∀ earlier t later, steps = earlier ++ t :: later → Fits earlier t.call) ∧
        (call.method = "revealMnemonic" → ∀ value,
          (handle kit Phone.execute phones call vs).2 = some (.success value) →
          Attested steps) := by
  intro phones
  have hblank : ∀ w : String, ((fun _ => Phone.blank) w : Phone).Guarded := by
    simp [Phone.Guarded, Phone.blank, Device.blank]
  have hguarded : ∀ w, (phones w).Guarded := guarded_serve hdevice hblank calls
  refine ⟨hguarded, fun call vs => ?_⟩
  rcases dispatched kit call with ⟨id, work, hd, -⟩ | ⟨hd, -⟩ | ⟨_, _, _, -, -, hd⟩
  · obtain ⟨-, hfitting, hrevealed⟩ := sane_run hdevice hd (hguarded id) vs
    simp only [stepsOf, handle, hd]
    refine ⟨fun earlier t later hsteps => fitting_reverse hfitting hsteps,
      fun hmethod value hvalue => ?_⟩
    obtain ⟨r, hr, hreply⟩ := Option.bind_eq_some_iff.mp hvalue
    have hok : r = .ok value := by
      rcases r with (e | _) | value' <;> cases hreply
      rfl
    exact hrevealed hmethod value (hok ▸ hr)
  · simp [stepsOf, handle, hd]
  · simp [stepsOf, handle, hd]

end Sessions

section Sample

open XendSecurePlugin

/-- The user answers every prompt. -/
def attended (v : Verdict) : Attended := ⟨v, true⟩

theorem run_attended {α : Type} (p : Prog Call Reply α) (s : Phone) (vs : List Verdict) :
    p.run Device.execute s.device vs =
      ((p.run Phone.execute s (vs.map attended)).1.device,
        (p.run Phone.execute s (vs.map attended)).2) := by
  have hstep : ∀ (s : Phone) (c : Call) (v : Verdict),
      s.device.execute c v =
        ((s.execute c (attended v)).1.device, (s.execute c (attended v)).2) := by
    intro s c v
    have hverdict : s.verdict c (attended v) = v := by simp [Phone.verdict, attended]
    rw [Phone.execute, hverdict]
  exact Prog.run_seen hstep p s vs

variable {kit : Kit} {phones : String → Phone} {walletId : String}

theorem handle_attended {m : MethodCall} {result : SecureChannel.Result m}
    {d : Device} {vs : List Verdict}
    (h : (SecureChannel.native kit m).run.run Device.execute (phones walletId).device vs =
      (d, some (.ok result))) :
    ((handle kit Phone.execute phones (SecureChannel.call walletId m) (vs.map attended)).1
      walletId).device = d ∧
      (handle kit Phone.execute phones (SecureChannel.call walletId m) (vs.map attended)).2 =
        some (.success (SecureChannel.encode m result)) := by
  obtain ⟨hdevice, hresult⟩ := Prod.mk.inj ((run_attended _ _ vs).symm.trans h)
  simp only [handle, SecureChannel.dispatch_call, Function.update_self]
  rw [ExceptT.run_map, Prog.run_map, hresult]
  exact ⟨hdevice, rfl⟩

theorem stepsOf_call {S V : Type} (kit : Kit) (exec : S → (c : Call) → V → S × Reply c)
    (phones : String → S)
    (walletId : String) (m : MethodCall) (vs : List V) :
    stepsOf kit exec phones (SecureChannel.call walletId m) vs =
      (SecureChannel.native kit m).run.steps exec (phones walletId) vs := by
  simp only [stepsOf, SecureChannel.dispatch_call]
  rw [ExceptT.run_map, Prog.steps_map]

/-- In the order of the calls: the key, the ciphertext, the prompt and the signature. -/
theorem signMessage_signs {p : Phone} {address : String} (h : p.device.Working kit address)
    (message : Bytes)
    (reason : String) {v : Verdict} (hs : v.status = errSecSuccess) :
    ∃ t ∈ (SecureSigner.signMessage kit message reason).run.steps Phone.execute p
      (List.replicate 4 (attended v)),
      ∃ privateKey, t.call = .signature privateKey message := by
  obtain ⟨key, privateKey, phrase, hhead, hct, -⟩ := h
  obtain ⟨rest, hlist⟩ : ∃ rest, p.device.enclave = key :: rest := by
    cases hlist : p.device.enclave with
    | nil => simp [hlist] at hhead
    | cons k rest => exact ⟨rest, by simpa [hlist] using hhead⟩
  have hverdict : ∀ (p : Phone) (c : Call), p.verdict c (attended v) = v := by
    simp [Phone.verdict, attended]
  simp [SecureSigner.signMessage, SecureSigner.loadEnclaveKey, SecureSigner.keychainGet,
    SecureSigner.unwrap, SecureSigner.found, SecureSigner.rawRepresentation, Phone.execute,
    hverdict, Device.execute, Prog.steps, hs, hlist, hct,
    privateKey.2, errSecSuccess, errSecItemNotFound, List.replicate]

/-- A wallet is generated, signs and shows its phrase. -/
theorem authenticated_use_sample :
    ∃ (calls : List (FlutterMethodCall × List Attended)) (vs ws : List Attended)
      (signature : Bytes) (phrase : String),
    let phones := (serve sampleKit Phone.execute (fun _ => Phone.blank) calls).1
    let sign := SecureChannel.call "default" (.signMessage [1, 2, 3] "Approve")
    let reveal := SecureChannel.call "default" (.revealMnemonic "Show")
    (∀ w, (phones w).Guarded) ∧
      (handle sampleKit Phone.execute phones sign vs).2 = some (.success (.typedData signature)) ∧
      (∃ earlier t later privateKey, stepsOf sampleKit Phone.execute phones sign vs =
        earlier ++ t :: later ∧
        t.call = .signature privateKey [1, 2, 3] ∧ Attested earlier) ∧
      (handle sampleKit Phone.execute phones reveal ws).2 = some (.success (.string phrase)) ∧
      Attested (stepsOf sampleKit Phone.execute phones reveal ws) := by
  obtain ⟨d, privateKey, phrase, address, -, hkey, haddress, hserved,
      ⟨-, key, hhead, hct, hmn⟩, -⟩ :=
    SecureSigner.generateKeyPair_served sampleService Device.blank sampleKit
  have hworking : d.Working sampleKit address :=
    ⟨key, privateKey, phrase, hhead, hct, hmn, haddress, hkey⟩
  obtain ⟨us, hrun⟩ := Prog.exists_run hserved
  let calls := [(SecureChannel.call "default" .generateKeyPair, us.map attended)]
  let phones := (serve sampleKit Phone.execute (fun _ => Phone.blank) calls).1
  have hgenerated :
      (SecureChannel.native sampleKit .generateKeyPair).run.run Device.execute Device.blank us =
      (d, some (.ok (address, phrase))) := hrun
  have hphone : (phones "default").device = d :=
    (@handle_attended sampleKit (fun _ => Phone.blank) "default"
      .generateKeyPair _ _ _ hgenerated).1
  rw [← hphone] at hworking
  let v : Verdict :=
    { sampleService.answer .deleteKeys with signature := some ⟨List.replicate 64 7, rfl⟩ }
  let sign : MethodCall := .signMessage [1, 2, 3] "Approve"
  let reveal : MethodCall := .revealMnemonic "Show"
  obtain ⟨hsign, -⟩ := hworking.usable v ⟨List.replicate 64 7, rfl⟩ [1, 2, 3] "Approve" rfl rfl
  obtain ⟨-, shown, -, hshown, -⟩ :=
    hworking.usable v ⟨List.replicate 64 7, rfl⟩ [1, 2, 3] "Show" rfl rfl
  have hsigned : (handle sampleKit Phone.execute phones (SecureChannel.call "default" sign)
      ((List.replicate 4 v).map attended)).2 =
        some (.success (.typedData (List.replicate 64 7))) := by
    refine (@handle_attended sampleKit phones "default" sign (List.replicate 64 7) _ _
      (Prod.ext rfl ?_)).2
    change ((Subtype.val <$> (SecureSigner.signMessage sampleKit [1, 2, 3] "Approve")).run.run
      _ _ _).2 = _
    rw [ExceptT.run_map, Prog.run_map, hsign]
    rfl
  have hrevealed :=
    (@handle_attended sampleKit phones "default" reveal _ _ _ (Prod.ext rfl hshown)).2
  obtain ⟨hguarded, hcalls⟩ := authenticated_use (show sampleKit.simulator = false from rfl) calls
  obtain ⟨t, ht, signingKey, hcall⟩ := signMessage_signs hworking [1, 2, 3] "Approve" (v := v) rfl
  obtain ⟨earlier, later, hsteps⟩ := List.append_of_mem ht
  have hsigning : stepsOf sampleKit Phone.execute phones (SecureChannel.call "default" sign)
      ((List.replicate 4 v).map attended) =
      earlier ++ t :: later := by
    rw [stepsOf_call, SecureChannel.native, ExceptT.run_map, Prog.steps_map,
      List.map_replicate, hsteps]
  have hfits := (hcalls (SecureChannel.call "default" sign) _).1 earlier t later hsigning
  rw [hcall] at hfits
  exact ⟨calls, _, _, _, shown, hguarded, hsigned, ⟨earlier, t, later, signingKey, hsigning,
    hcall, hfits⟩, hrevealed, (hcalls (SecureChannel.call "default" reveal) _).2 rfl _ hrevealed⟩

end Sample

end Xend.Sdk
