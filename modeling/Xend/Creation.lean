import Xend.KeyStore
import Xend.XendWallet

/-! Which items and keys a call of `create` deletes or displaces, in which order, and
how far it has come when it does. -/

namespace Xend.Sdk

open Framing Interaction

def Call.erasing : Call → Bool
  | .secItemDelete _ => true
  | .deleteKeys => true
  | .secKeyCreateRandomKey _ _ => true
  | _ => false

def Call.createsKey : Call → Bool
  | .secKeyCreateRandomKey _ _ => true
  | _ => false

/-- The calls that delete something or make a key, in the order in which they are made. -/
def erasures (steps : List DeviceStep) : List Call := (steps.map (·.call)).filter Call.erasing

/-- What generation deletes once it has its key. -/
def replacements : List Call :=
  [.secItemDelete [.ciphertext], .secItemDelete [.mnemonic], .secItemDelete [.pub],
    .secItemDelete [.seedVault true], .secItemDelete [.seedVault false]]

/-- A write to the synced vault came back with an error. -/
def Unsynced (t : DeviceStep) : Prop :=
  (∃ data, t.call = .secItemAdd (.seedVault true) data) ∧
    ¬ (t.verdict.status = errSecSuccess ∧ t.before.item (.seedVault true) = none)

/-- The item was written where there was none. -/
def Wrote (item : Item) (t : DeviceStep) : Prop :=
  t.verdict.status = errSecSuccess ∧ t.before.item item = none ∧
    ∃ data, t.call = .secItemAdd item data

/-- The keys are deleted first, then one is made, then the items are replaced one by one;
the local seed only after the vault refused the new one. Before the backend is asked, the
wrapped phrase is a new one. -/
structure Creates (steps : List DeviceStep) : Prop where
  order : ∃ creations, (∀ c ∈ creations, c.createsKey = true) ∧
    erasures steps <+: .deleteKeys :: creations ++ replacements
  fallback : (∃ t ∈ steps, t.call = .secItemDelete [.seedVault false]) → ∃ t ∈ steps, Unsynced t
  replaced : (∃ t ∈ steps, ∃ request, t.call = .http request) → ∃ t ∈ steps, Wrote .mnemonic t

section Logs

variable {s : Logged} {c : Call} {v : Verdict} {creations : List Call} {n : Nat}

abbrev Logged.steps (s : Logged) : List DeviceStep := s.2.reverse

theorem steps_logged (s : Logged) (c : Call) (v : Verdict) :
    (logged s c v).1.steps = s.steps ++ [⟨s.1, c, v⟩] := List.reverse_cons

theorem erasures_logged (s : Logged) (c : Call) (v : Verdict) :
    erasures (logged s c v).1.steps = erasures s.steps ++ if c.erasing then [c] else [] := by
  rw [steps_logged, erasures, List.map_append, List.filter_append]
  cases hc : c.erasing <;> simp [erasures, hc]

theorem mem_erasures {steps : List DeviceStep} {t : DeviceStep} (ht : t ∈ steps)
    (hc : t.call.erasing = true) :
    t.call ∈ erasures steps :=
  List.mem_filter.mpr ⟨List.mem_map_of_mem ht, hc⟩

/-- The key is there and `n` of the items have been deleted to be replaced. -/
structure Erased (creations : List Call) (n : Nat) (s : Logged) : Prop where
  made : ∀ c ∈ creations, c.createsKey = true
  order : erasures s.steps = .deleteKeys :: creations ++ replacements.take n
  quiet : ∀ t ∈ s.steps, ∀ request, t.call ≠ .http request

theorem Erased.step (h : Erased creations n s) (hc : c.erasing = false)
    (hquiet : ∀ request, c ≠ .http request) :
    Erased creations n (logged s c v).1 := by
  refine ⟨h.made, ?_, ?_⟩
  · rw [erasures_logged, hc, h.order]
    simp
  · rw [steps_logged, List.forall_mem_append]
    exact ⟨h.quiet, by simpa using hquiet⟩

theorem Erased.delete (h : Erased creations n s) (hc : replacements[n]? = some c)
    (herasing : c.erasing = true) :
    Erased creations (n + 1) (logged s c v).1 := by
  have hquiet : ∀ request, c ≠ .http request := by
    rintro request rfl
    cases herasing
  refine ⟨h.made, ?_, ?_⟩
  · rw [erasures_logged, herasing, h.order, List.take_add_one, hc]
    simp
  · rw [steps_logged, List.forall_mem_append]
    exact ⟨h.quiet, by simpa using hquiet⟩

theorem Erased.creates (h : Erased creations n s) (hfallback : n ≤ 4 ∨ ∃ t ∈ s.steps, Unsynced t) :
    Creates s.steps := by
  refine ⟨⟨creations, h.made, ?_⟩, ?_, ?_⟩
  · rw [h.order]
    exact (List.prefix_append_right_inj _).mpr (List.take_prefix n replacements)
  · rintro ⟨t, ht, hcall⟩
    refine hfallback.resolve_left fun hn => ?_
    have hmem := mem_erasures ht (by rw [hcall]; rfl)
    rw [h.order, hcall] at hmem
    rcases List.mem_append.mp hmem with hmem | hmem
    · rcases List.mem_cons.mp hmem with hkeys | hmem
      · cases hkeys
      · cases h.made _ hmem
    · have hmem := (List.take_subset_take_left replacements hn) hmem
      simp [replacements] at hmem
  · rintro ⟨t, ht, request, hcall⟩
    exact absurd hcall (h.quiet t ht request)

theorem Creates.step (h : Creates s.steps) (hc : c.erasing = false)
    (hreplaced : (∃ request, c = .http request) → ∃ t ∈ s.steps, Wrote .mnemonic t) :
    Creates (logged s c v).1.steps := by
  obtain ⟨⟨creations, hcreations, hprefix⟩, hfallback, hbefore⟩ := h
  have hmono : ∀ {P : DeviceStep → Prop}, (∃ t ∈ s.steps, P t) →
      ∃ t ∈ (logged s c v).1.steps, P t := by
    rintro P ⟨t, ht, hP⟩
    exact ⟨t, steps_logged s c v ▸ List.mem_append_left _ ht, hP⟩
  refine ⟨⟨creations, hcreations, ?_⟩, ?_, ?_⟩
  · rw [erasures_logged, hc]
    simpa using hprefix
  · rintro ⟨t, ht, hcall⟩
    rw [steps_logged, List.mem_append, List.mem_singleton] at ht
    rcases ht with ht | rfl
    · exact hmono (hfallback ⟨t, ht, hcall⟩)
    · rw [show c = _ from hcall] at hc
      cases hc
  · rintro ⟨t, ht, request, hcall⟩
    rw [steps_logged, List.mem_append, List.mem_singleton] at ht
    rcases ht with ht | rfl
    · exact hmono (hbefore ⟨t, ht, request, hcall⟩)
    · exact hmono (hreplaced ⟨request, hcall⟩)

end Logs

section Programs

variable {kit : Kit} {s : Logged} {creations : List Call} {n : Nat}

/-- At every point of the program, the calls so far are those of a creation. -/
abbrev Creating {α ε : Type} (x : Acting ε α) (E : Halt ε → Logged → Prop) (Q : α → Logged → Prop)
    (s : Logged) : Prop :=
  x.run.Spec logged (fun _ => True) (fun s => Creates s.steps) (Ends E Q) s

/-- Neither a deletion nor a new key, and nothing that goes to the backend. -/
def Harmless (c : Call) : Prop := c.erasing = false ∧ ∀ request, c ≠ .http request

structure Fresh (s : Logged) : Prop where
  order : erasures s.steps = []
  quiet : ∀ t ∈ s.steps, ∀ request, t.call ≠ .http request

/-- The old keys are deleted and none of the items is. -/
def Keyed (s : Logged) : Prop := ∃ creations, Erased creations 0 s

theorem Fresh.creates (h : Fresh s) : Creates s.steps := by
  refine ⟨⟨[], by simp, by simp [h.order]⟩, ?_, ?_⟩
  · rintro ⟨t, ht, hcall⟩
    have hmem := mem_erasures ht (by rw [hcall]; rfl)
    rw [h.order] at hmem
    cases hmem
  · rintro ⟨t, ht, request, hcall⟩
    exact absurd hcall (h.quiet t ht request)

theorem Fresh.step {c : Call} {v : Verdict} (h : Fresh s) (hc : Harmless c) :
    Fresh (logged s c v).1 := by
  refine ⟨by rw [erasures_logged, h.order, hc.1]; rfl, ?_⟩
  rw [steps_logged, List.forall_mem_append]
  exact ⟨h.quiet, by simpa using hc.2⟩

theorem Fresh.orTrap {α : Type} (h : Fresh s) (o : Option α) :
    Creating (SecureSigner.orTrap o) (fun _ _ => True) (fun _ => Fresh) s := by
  refine spec_attempt h.creates ?_
  cases o with
  | none => exact trivial
  | some a => exact h

theorem Fresh.deleteKeys {v : Verdict} (h : Fresh s) : Keyed (logged s .deleteKeys v).1 := by
  refine ⟨[], by simp, ?_, ?_⟩
  · rw [erasures_logged, h.order]
    rfl
  · rw [steps_logged, List.forall_mem_append]
    exact ⟨h.quiet, by simp⟩

theorem Keyed.step {c : Call} {v : Verdict} (h : Keyed s) (hc : Harmless c ∨ c.createsKey = true) :
    Keyed (logged s c v).1 := by
  obtain ⟨creations, h⟩ := h
  rcases hc with hc | hc
  · exact ⟨creations, h.step hc.1 hc.2⟩
  · have herasing : c.erasing = true := by
      cases c with
      | secKeyCreateRandomKey flags inSecureEnclave => rfl
      | _ => cases hc
    have hquiet : ∀ request, c ≠ .http request := by
      rintro request rfl
      cases hc
    refine ⟨creations ++ [c], ?_, ?_, ?_⟩
    · rw [List.forall_mem_append]
      exact ⟨h.made, by simpa using hc⟩
    · rw [erasures_logged, h.order, herasing]
      simp
    · rw [steps_logged, List.forall_mem_append]
      exact ⟨h.quiet, by simpa using hquiet⟩

theorem Keyed.creates (h : Keyed s) : Creates s.steps := by
  obtain ⟨creations, h⟩ := h
  exact h.creates (.inl (by omega))

theorem Fresh.createEnclaveKey (h : Fresh s) (simulator : Bool) :
    Creating (SecureSigner.createEnclaveKey simulator) (fun _ _ => True) (fun _ => Keyed) s := by
  have hkeys : Creating SecureSigner.deleteEnclaveKey (fun _ _ => True) (fun _ => Keyed) s := by
    refine spec_bind (spec_request h.creates fun v _ => ⟨h.deleteKeys.creates, ?_⟩)
    exact spec_pure h.deleteKeys.creates h.deleteKeys
  have hcalls : (do
      let enclaveAvailable ← ask .secureEnclaveIsAvailable
      let biometricsEnrolled ← ask .canEvaluatePolicy
      SecureSigner.firstKey (.secureSigner (.enclave "wrapping-key generation failed"))
        (SecureSigner.attempts simulator enclaveAvailable biometricsEnrolled) :
        Native Nat).run.Calls
      fun c => Harmless c ∨ c.createsKey = true := by
    have hquiet : ∀ c : Call, c.erasing = false → (∀ request, c ≠ .http request) → Harmless c ∨
        c.createsKey = true :=
      fun c hc hr => .inl ⟨hc, hr⟩
    refine calls_bind (calls_request (hquiet _ rfl (by simp))) fun available => ?_
    refine calls_bind (calls_request (hquiet _ rfl (by simp))) fun enrolled => ?_
    generalize SecureSigner.attempts simulator available enrolled = attempts
    generalize (NativeError.secureSigner (.enclave "wrapping-key generation failed")) = lastError
    induction attempts generalizing lastError with
    | nil => trivial
    | cons a rest ih =>
      exact SecureSigner.calls_catching
        (SecureSigner.calls_makeWrappingKey (hquiet _ rfl (by simp)) (.inr rfl)) fun e => ih e
  refine spec_bind (spec_mono hkeys fun _ s _ h => ?_)
  exact spec_calls (J := Keyed) hcalls (fun _ _ _ hc h => h.step hc) (fun _ h => h.creates)
    (fun _ _ _ => trivial) h

theorem Erased.harmless {α : Type} {x : Native α} (h : Erased creations n s) (hn : n ≤ 4)
    (hx : x.run.Calls Harmless) :
    Creating x (fun _ _ => True) (fun _ => Erased creations n) s :=
  spec_calls (J := Erased creations n) hx (fun _ _ _ hc h => h.step hc.1 hc.2)
    (fun _ h => h.creates (.inl hn))
    (fun _ _ _ => trivial) h

/-- One item is deleted and written again. -/
theorem Erased.keychainSet (h : Erased creations n s) {item : Item} (data : Data)
    (hitem : replacements[n]? = some (.secItemDelete [item])) (hn : n < 4) :
    Creating (SecureSigner.keychainSet item data)
      (fun e s => e ≠ .trap ∧ Erased creations (n + 1) s ∧
        ∃ t ∈ s.steps, t.call = .secItemAdd item data ∧
        ¬ (t.verdict.status = errSecSuccess ∧ t.before.item item = none))
      (fun _ s => Erased creations (n + 1) s ∧ ∃ t ∈ s.steps, Wrote item t) s := by
  refine spec_bind (spec_request (h.creates (.inl hn.le)) fun v _ => ?_)
  have h := h.delete (v := v) hitem rfl
  generalize (logged s (.secItemDelete [item]) v).1 = s at h ⊢
  refine ⟨h.creates (.inl hn), spec_bind (spec_request (h.creates (.inl hn)) fun w _ => ?_)⟩
  have h' : Erased creations (n + 1) (logged s (.secItemAdd item data) w).1 := h.step rfl (by simp)
  have hlast : ⟨s.1, .secItemAdd item data, w⟩ ∈ (logged s (.secItemAdd item data) w).1.steps := by
    rw [steps_logged]
    exact List.mem_append_right _ List.mem_cons_self
  refine ⟨h'.creates (.inl hn), ?_⟩
  by_cases hadd : w.status = errSecSuccess ∧ s.1.item item = none
  · have hstatus : (logged s (.secItemAdd item data) w).2 = errSecSuccess :=
      congrArg Prod.snd (Device.execute_add data hadd.1 hadd.2)
    simp only [hstatus, SecureSigner.require, decide_true, if_true]
    exact spec_pure (h'.creates (.inl hn)) ⟨h', _, hlast, hadd.1, hadd.2, data, rfl⟩
  · have hstatus : (logged s (.secItemAdd item data) w).2 ≠ errSecSuccess :=
      (Device.execute_add_of_ne data hadd).2
    rw [SecureSigner.require, decide_eq_false hstatus]
    exact spec_attempt (h'.creates (.inl hn)) ⟨by simp, h', _, hlast, rfl, hadd⟩

theorem Erased.replace (h : Erased creations n s) {item : Item} (data : Data)
    (hitem : replacements[n]? = some (.secItemDelete [item])) (hn : n < 4) :
    Creating (SecureSigner.keychainSet item data) (fun _ _ => True)
      (fun _ s => Erased creations (n + 1) s ∧ ∃ t ∈ s.steps, Wrote item t) s := by
  refine (h.keychainSet data hitem hn).mono fun r s _ hr => ?_
  cases r with
  | ok _ => exact hr
  | error e => trivial

/-- A new phrase is wrapped and stored. -/
abbrev Rewritten (s : Logged) : Prop := ∃ t ∈ s.steps, Wrote .mnemonic t

theorem Rewritten.step (h : Rewritten s) (c : Call) (v : Verdict) : Rewritten (logged s c v).1 := by
  obtain ⟨t, ht, hw⟩ := h
  exact ⟨t, steps_logged s c v ▸ List.mem_append_left _ ht, hw⟩

theorem Creating.wrote {α ε : Type} {x : Acting ε α} {E : Halt ε → Logged → Prop}
    {Q : α → Logged → Prop}
    (h : Creating x E Q s) (hwrote : Rewritten s) :
    Creating x E (fun a s => Q a s ∧ Rewritten s) s := by
  have hstays : x.run.Spec logged (fun _ => True) (fun _ => True) (fun _ => Rewritten) s := by
    exact (Prog.calls_any x.run).spec (J := Rewritten) (fun _ c v _ h => h.step c v)
      (fun _ _ => trivial) hwrote
  refine (h.and hstays).mono fun r s _ hr => ?_
  cases r with
  | ok a => exact hr
  | error e => exact hr.1

/-- The items are replaced in order, and the wrapped phrase is one of them. -/
theorem Fresh.provision (h : Fresh s) (privateKey : Bytes) (phrase text : String) :
    Creating (SecureSigner.provision kit privateKey phrase text) (fun _ _ => True)
      (fun _ s => (∃ creations, Erased creations 3 s) ∧ Rewritten s) s := by
  have hask : ∀ c : Call, c.erasing = false → (∀ request, c ≠ .http request) → Harmless c :=
    fun c hc hr => ⟨hc, hr⟩
  refine spec_bind (spec_mono (h.createEnclaveKey kit.simulator) fun key s _ h => ?_)
  obtain ⟨creations, h⟩ := h
  refine spec_bind (spec_mono (h.harmless (by omega) (calls_request (hask _ rfl (by simp))))
    fun derived s _ h => ?_)
  refine spec_bind (spec_mono (h.harmless (by omega) SecureSigner.calls_require) fun _ s _ h => ?_)
  refine spec_bind (spec_mono (h.harmless (by omega) (calls_request (hask _ rfl (by simp))))
    fun supported s _ h => ?_)
  refine spec_bind (spec_mono (h.harmless (by omega) SecureSigner.calls_require) fun _ s _ h => ?_)
  refine spec_bind
    (spec_mono (h.harmless (by omega) (SecureSigner.calls_wrap (hask _ rfl (by simp))))
      fun _ s _ h => ?_)
  refine spec_bind
    (spec_mono (h.harmless (by omega) (SecureSigner.calls_wrap (hask _ rfl (by simp))))
      fun _ s _ h => ?_)
  refine spec_bind (spec_mono (h.replace _ rfl (by omega)) fun _ s _ h => ?_)
  refine spec_bind (spec_mono (h.1.replace _ rfl (by omega)) fun _ s _ h => ?_)
  refine spec_bind (spec_mono ((h.1.replace _ rfl (by omega)).wrote h.2) fun _ s hs h => ?_)
  exact spec_pure hs ⟨⟨creations, h.1.1⟩, h.2⟩

/-- The synced seed is replaced, and the local one once that was refused. -/
theorem Erased.storeRecoverySeed (h : Erased creations 3 s) (phrase : String) :
    Creating (SecureSigner.storeRecoverySeed phrase) (fun _ _ => True) (fun _ _ => True) s := by
  refine SecureSigner.spec_catching ((h.keychainSet (.plain (utf8 phrase)) rfl (by omega)).mono
    fun r s hs hr => ?_)
  match r with
  | .ok _ => exact trivial
  | .error .trap => exact absurd rfl hr.1
  | .error (.thrown e) =>
    obtain ⟨-, h, t, ht, hcall, hrefused⟩ := hr
    have hunsynced : ∃ t ∈ s.steps, Unsynced t := ⟨t, ht, ⟨_, hcall⟩, hrefused⟩
    refine spec_bind (SecureSigner.spec_tried ?_)
    refine spec_bind (spec_request hs fun v _ => ?_)
    have h := h.delete (v := v) (c := .secItemDelete [.seedVault false]) rfl rfl
    have hmore : ∃ t ∈ (logged s (.secItemDelete [.seedVault false]) v).1.steps, Unsynced t := by
      obtain ⟨t, ht, hu⟩ := hunsynced
      exact ⟨t, steps_logged s _ v ▸ List.mem_append_left _ ht, hu⟩
    have hs := h.creates (.inr hmore)
    refine ⟨hs, spec_bind (spec_request hs fun w _ => ?_)⟩
    have hs :=
      hs.step (c := .secItemAdd (.seedVault false) (.plain (utf8 phrase))) (v := w) rfl (by simp)
    refine ⟨hs, ?_⟩
    by_cases hw : (logged (logged s (.secItemDelete [.seedVault false]) v).1
        (.secItemAdd (.seedVault false) (.plain (utf8 phrase))) w).2 = errSecSuccess
    · simp only [SecureSigner.require, hw, decide_true, if_true]
      exact spec_pure hs (spec_pure hs trivial)
    · simp only [SecureSigner.require, hw, decide_false]
      exact ⟨hs, hs, trivial⟩

theorem Fresh.generateKeyPair (h : Fresh s) :
    Creating (SecureSigner.generateKeyPair kit) (fun _ _ => True) (fun _ => Rewritten) s := by
  have hgenerate : Creating (SecureSigner.generate kit) (fun _ _ => True) (fun _ => Fresh) s := by
    have hquiet : Harmless .secRandomCopyBytes := ⟨rfl, by simp⟩
    refine spec_bind (spec_request h.creates fun v _ => ⟨(h.step hquiet).creates, ?_⟩)
    refine spec_attempt (h.step hquiet).creates ?_
    cases Mnemonic.encode kit.toPrimitives _ with
    | none => exact trivial
    | some phrase => exact h.step hquiet
  refine spec_bind (spec_mono hgenerate fun phrase s _ h => ?_)
  refine spec_bind (spec_mono (h.orTrap _) fun privateKey s _ h => ?_)
  have hraw : Creating (SecureSigner.rawRepresentation kit privateKey) (fun _ _ => True)
      (fun _ => Fresh) s := by
    unfold SecureSigner.rawRepresentation
    split
    · exact spec_pure h.creates h
    · exact spec_attempt h.creates trivial
  have hestablish : Creating (SecureSigner.establish kit privateKey phrase) (fun _ _ => True)
      (fun _ s => (∃ creations, Erased creations 3 s) ∧ Rewritten s) s := by
    rw [SecureSigner.establish_eq]
    refine spec_bind (spec_mono hraw fun signingKey s _ h => ?_)
    exact spec_bind (spec_mono (h.orTrap _) fun text s _ h => h.provision privateKey phrase text)
  refine spec_bind (spec_mono hestablish fun text s _ h => ?_)
  obtain ⟨⟨creations, h⟩, hwrote⟩ := h
  refine spec_bind (spec_mono ((h.storeRecoverySeed phrase).wrote hwrote) fun _ s hs h => ?_)
  exact spec_pure hs h.2

/-- The whole of `create`, as it goes on behind the channel. -/
theorem Fresh.create (h : Fresh s) (label : Option String) (chain : Chain) :
    Creating (XendWallet.create kit label chain) (fun _ _ => True) (fun _ _ => True) s := by
  have hchain : Creating (requireSolana chain "XendWallet.create") (fun _ _ => True)
      (fun _ => Fresh) s := by
    unfold requireSolana
    split
    · exact spec_pure h.creates h
    · exact spec_attempt h.creates trivial
  refine spec_bind (spec_mono hchain fun _ s _ h => ?_)
  have hgenerated :
      Creating (invoke .generateKeyPair (SecureSigner.generateKeyPair kit)) (fun _ _ => True)
      (fun _ => Rewritten) s :=
    spec_invoke h.creates fun _ _ => (h.step ⟨rfl, by simp⟩).generateKeyPair
  refine spec_bind (spec_mono hgenerated fun generated s hs hwrote => ?_)
  have hregistered : Creating (BackendClient.registerWallet generated.1 label) (fun _ _ => True)
      (fun _ _ => True) s := by
    have hcalls :=
      BackendClient.calls_registerWallet (P := fun c => ∃ request, c =
        .http request) generated.1 label
      fun request => ⟨request, rfl⟩
    refine spec_mono (spec_calls (J := fun s => Creates s.steps ∧
      Rewritten s) hcalls ?_ (fun _ h => h.1)
      (fun _ _ _ => trivial) ⟨hs, hwrote⟩) fun _ _ _ _ => trivial
    rintro s _ v ⟨request, rfl⟩ ⟨hs, hwrote⟩
    exact ⟨hs.step rfl fun _ => hwrote, hwrote.step _ v⟩
  exact spec_bind (spec_mono hregistered fun _ s hs _ => spec_pure hs trivial)

end Programs

end Xend.Sdk
