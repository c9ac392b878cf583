import Xend.Provisioning
import Xend.XendWallet

/-! What start-up makes of the items it cannot read: `load`, and `create` where it
finds nothing. -/

namespace Xend.Sdk

open Framing Interaction

def XendWallet.loadOrCreate (kit : Kit) (label : Option String) (chain : Chain) :
    Dart XendWallet := do
  let loaded ← XendWallet.load kit chain
  match loaded with
  | some wallet => pure wallet
  | none => XendWallet.create kit label chain

def Device.lookup (d : Device) (reads : Item → OSStatus) (item : Item) : Option String :=
  if reads item = errSecSuccess then (d.item item).bind Data.text else none

/-- The items recovery looks at, in its order. -/
def recoveryItems : List Item := [.pub, .seedVault true, .seedVault false]

/-- The first item that exists is found. -/
def Device.Readable (d : Device) (reads : Item → OSStatus) : List Item → Prop
  | [] => True
  | item :: rest => d.lookup reads item ≠ none ∨ (d.item item = none ∧ d.Readable reads rest)

def Device.Absent (d : Device) : Prop := ∀ item ∈ recoveryItems, d.item item = none

/-- Every read of an item meets the status `reads` has for it. -/
def ReadsAs {S : Type} (reads : Item → OSStatus) (t : Step Call S Verdict) : Prop :=
  ∀ item, t.call = .secItemCopyMatching item → t.verdict.status = reads item

/-- Nothing is reported only where nothing is stored, and an item that exists but
cannot be read makes recovery throw. -/
def ReportsTruly (kit : Kit) (d : Device) (reads : Item → OSStatus) : Prop :=
  ∀ (vs : List Verdict) (r : Except (Halt NativeError) (Option SecureSigner.Loaded)),
    (∀ t ∈ (SecureSigner.loadOrRecover kit).run.steps Device.execute d vs, ReadsAs reads t) →
    ((SecureSigner.loadOrRecover kit).run.run Device.execute d vs).2 = some r →
      (r = .ok none → d.Absent) ∧
      ∀ t ∈ (SecureSigner.loadOrRecover kit).run.steps Device.execute d vs, ∀ item,
        t.call = .secItemCopyMatching item → d.item item ≠ none → d.lookup reads item = none →
        ∃ e, r = .error (.thrown e)

/-- Start-up asks for a new wallet only where none is stored. -/
def KeepsWallet (kit : Kit) (d : Device) (reads : Item → OSStatus) : Prop :=
  ∀ (label : Option String) (chain : Chain) (vs : List Verdict),
    (∀ t ∈ (XendWallet.loadOrCreate kit label chain).run.steps Device.execute d vs,
      ReadsAs reads t) →
    (∃ t ∈ (XendWallet.loadOrCreate kit label chain).run.steps Device.execute d vs,
      t.call = .invokeMethod .generateKeyPair) → d.Absent

namespace SecureSigner

def readText (out : OSStatus × Option Data) : Option String :=
  if out.1 = errSecSuccess then out.2.bind Data.text else none

theorem found_success {α : Type} (a : α) : (found (errSecSuccess, some a) : Native α) = pure a := by
  simp [found, errSecSuccess, errSecItemNotFound]

theorem found_refused {α : Type} {status : OSStatus} {value : Option α}
    (h : ¬ (status = errSecSuccess ∧ value ≠ none)) :
    ∃ e, (found (status, value) : Native α) = fail e := by
  by_cases hf : status = errSecItemNotFound
  · exact ⟨_, if_pos hf⟩
  · simp only [found, if_neg hf]
    cases value with
    | none => exact ⟨_, rfl⟩
    | some a =>
      have hs : status ≠ errSecSuccess := by simpa using h
      exact ⟨_, if_neg hs⟩

/-- A read brings an item back, or is refused and has no text. -/
theorem found_cases (out : OSStatus × Option Data) :
    (∃ data, (found out : Native Data) = pure data ∧ readText out = data.text) ∨
      ∃ e, (found out : Native Data) = fail e ∧ readText out = none := by
  obtain ⟨status, value⟩ := out
  by_cases h : status = errSecSuccess ∧ value ≠ none
  · obtain ⟨rfl, hv⟩ := h
    obtain ⟨data, rfl⟩ := Option.ne_none_iff_exists'.mp hv
    exact .inl ⟨data, found_success data, if_pos rfl⟩
  · obtain ⟨e, he⟩ := found_refused h
    refine .inr ⟨e, he, ?_⟩
    by_cases hs : status = errSecSuccess
    · have hv : value = none := by simpa [hs] using h
      simp [readText, hv]
    · simp [readText, hs]

theorem tried_getPublicKey (out : OSStatus × Option Data) :
    tried (do
      let data ← found out
      match data.text with
      | some s => pure s
      | none => fail .badPublicKeyData) = pure (readText out) := by
  rcases found_cases out with ⟨data, hfound, htext⟩ | ⟨e, hfound, htext⟩
  · rw [hfound, htext]
    cases hdata : data.text <;> simp [hdata] <;> rfl
  · rw [hfound, htext]
    rfl

theorem tried_found (out : OSStatus × Option Data) :
    (do
      let data ← tried (found out)
      pure (data.bind Data.text) : Native (Option String)) = pure (readText out) := by
  rcases found_cases out with ⟨data, hfound, htext⟩ | ⟨e, hfound, htext⟩
  · rw [hfound, htext]
    rfl
  · rw [hfound, htext]
    rfl

theorem run_loadRecoverySeedFrom (place : Bool) (rest : List Bool) :
    (loadRecoverySeedFrom (place :: rest)).run =
      .call (.secItemCopyMatching (.seedVault place)) fun out =>
      match readText out with
      | some mnemonic => .done (.ok (some mnemonic))
      | none => (loadRecoverySeedFrom rest).run := by
  refine congrArg (Prog.call _) (funext fun out => ?_)
  change (do
    let data ← tried (found out)
    match data.bind Data.text with
    | some mnemonic => pure (some mnemonic)
    | none => loadRecoverySeedFrom rest : Native (Option String)).run = _
  have hh : (do
      let data ← tried (found out)
      match data.bind Data.text with
      | some mnemonic => pure (some mnemonic)
      | none => loadRecoverySeedFrom rest : Native (Option String)) =
    (do
      let data ← tried (found out)
      pure (data.bind Data.text) : Native (Option String)) >>= fun text =>
        match text with
        | some mnemonic => pure (some mnemonic)
        | none => loadRecoverySeedFrom rest := by simp
  rw [hh, tried_found]
  cases readText out <;> rfl

/-- Recovery once its seed is known. -/
def recover (kit : Kit) (mnemonic : String) : Native (Option Loaded) := do
  let privateKey ← orTrap (Mnemonic.solanaPrivateKey kit.toPrimitives mnemonic "")
  let address ← establish kit privateKey mnemonic
  pure (some ⟨address, true⟩)

theorem run_loadOrRecover (kit : Kit) :
    (loadOrRecover kit).run = .call (.secItemCopyMatching .pub) fun out =>
      match readText out with
      | some address => .done (.ok (some ⟨address, false⟩))
      | none => (do
        let seed ← loadRecoverySeed
        match seed with
        | none => pure none
        | some mnemonic => recover kit mnemonic).run := by
  refine congrArg (Prog.call _) (funext fun out => ?_)
  have hh := congrArg (fun x : Native (Option String) => (x >>= fun stored =>
    match stored with
    | some address => pure (some ⟨address, false⟩)
    | none => do
      let seed ← loadRecoverySeed
      match seed with
      | none => pure none
      | some mnemonic => recover kit mnemonic :
      Native (Option Loaded)).run) (tried_getPublicKey out)
  refine Eq.trans hh ?_
  cases readText out <;> rfl

/-- Reads one item after the other, up to the first that is found. -/
def search (onFound : Item → String → Prog Call Reply (Except (Halt NativeError) (Option Loaded))) :
    List Item → Prog Call Reply (Except (Halt NativeError) (Option Loaded))
  | [] => .done (.ok none)
  | item :: rest => .call (.secItemCopyMatching item) fun out =>
    match readText out with
    | some text => onFound item text
    | none => search onFound rest

def continueWith (kit : Kit) (item : Item) (text : String) :
    Prog Call Reply (Except (Halt NativeError) (Option Loaded)) :=
  if item = .pub then .done (.ok (some ⟨text, false⟩)) else (recover kit text).run

theorem run_loadRecoverySeed_bind (f : String → Native (Option Loaded)) :
    (do
      let seed ← loadRecoverySeed
      match seed with
      | none => pure none
      | some mnemonic => f mnemonic).run =
      search (fun _ text => (f text).run) [.seedVault true, .seedVault false] := by
  rw [run_bind, loadRecoverySeed, run_loadRecoverySeedFrom, run_loadRecoverySeedFrom]
  refine congrArg (Prog.call _) (funext fun out => ?_)
  dsimp only
  cases readText out with
  | some text => rfl
  | none =>
    refine congrArg (Prog.call _) (funext fun out => ?_)
    dsimp only
    cases readText out <;> rfl

theorem run_loadOrRecover_eq_search (kit : Kit) :
    (loadOrRecover kit).run = search (continueWith kit) recoveryItems := by
  rw [run_loadOrRecover, run_loadRecoverySeed_bind]
  generalize hrec : (fun (_ : Item) text => (recover kit text).run) = onSeed
  have hcont : ∀ place text, continueWith kit (.seedVault place) text =
      onSeed (.seedVault place) text := by
    intro place text
    rw [← hrec, continueWith, if_neg (by simp)]
  have hpub : ∀ text, continueWith kit .pub text = .done (.ok (some ⟨text, false⟩)) :=
    fun text => if_pos rfl
  simp only [recoveryItems, search, hcont, hpub]

end SecureSigner

section Reads

variable {d : Device} {reads : Item → OSStatus} {item : Item} {v : Verdict}

theorem execute_read (hv : v.status = reads item) :
    (d.execute (.secItemCopyMatching item) v).1 = d ∧
      SecureSigner.readText (d.execute (.secItemCopyMatching item) v).2 = d.lookup reads item := by
  by_cases hs : reads item = errSecSuccess
  · cases hi : d.item item with
    | none => simp [Device.execute, SecureSigner.readText, Device.lookup, hv, hs, hi,
      errSecSuccess, errSecItemNotFound]
    | some data => simp [Device.execute, SecureSigner.readText, Device.lookup,
      hv, hs, hi, errSecSuccess]
  · simp [Device.execute, SecureSigner.readText, Device.lookup, hv, hs]

/-- A readable address is all that loading looks at. -/
theorem loadOrRecover_found {service : Service} (hreads : service.reads .pub = errSecSuccess)
    {address : String}
    (hpub : d.item .pub = some (.plain (utf8 address))) (kit : Kit) :
    served service (SecureSigner.loadOrRecover kit) d = (d, .ok (some ⟨address, false⟩)) := by
  have hlookup : d.lookup service.reads .pub = some address := by
    rw [Device.lookup, if_pos hreads, hpub, Option.bind_some, Data.text, ofUtf8_utf8]
  obtain ⟨hkept, hread⟩ :
      (d.execute (.secItemCopyMatching .pub) (service.answer (.secItemCopyMatching .pub))).1 = d ∧
      SecureSigner.readText
        (d.execute (.secItemCopyMatching .pub) (service.answer (.secItemCopyMatching .pub))).2 =
        d.lookup service.reads .pub := execute_read rfl
  rw [served, SecureSigner.run_loadOrRecover_eq_search, recoveryItems, SecureSigner.search]
  simp only [Prog.answered, hkept, hread, hlookup, SecureSigner.continueWith, if_true]

/-- Without an address, the wallet is rebuilt from the synced seed. -/
theorem loadOrRecover_seeded {service : Service}
    (hreads : service.reads (.seedVault true) = errSecSuccess)
    (hpub : d.item .pub = none) {phrase : String}
    (hseed : d.item (.seedVault true) = some (.plain (utf8 phrase))) (kit : Kit) :
    ∃ (d' : Device) (privateKey : PrivateKey) (address : String),
      Mnemonic.solanaPrivateKey kit.toPrimitives phrase "" = some privateKey.1 ∧
      SecureSigner.address kit privateKey = some address ∧
      served service (SecureSigner.loadOrRecover kit) d = (d', .ok (some ⟨address, true⟩)) := by
  have hnone : d.lookup service.reads .pub = none := by simp [Device.lookup, hpub]
  have hsome : d.lookup service.reads (.seedVault true) = some phrase := by
    rw [Device.lookup, if_pos hreads, hseed, Option.bind_some, Data.text, ofUtf8_utf8]
  obtain ⟨hkept₁, hread₁⟩ :
      (d.execute (.secItemCopyMatching .pub) (service.answer (.secItemCopyMatching .pub))).1 = d ∧
      SecureSigner.readText
        (d.execute (.secItemCopyMatching .pub) (service.answer (.secItemCopyMatching .pub))).2 =
        d.lookup service.reads .pub := execute_read rfl
  obtain ⟨hkept₂, hread₂⟩ : (d.execute (.secItemCopyMatching (.seedVault true))
        (service.answer (.secItemCopyMatching (.seedVault true)))).1 = d ∧
      SecureSigner.readText (d.execute (.secItemCopyMatching (.seedVault true))
        (service.answer (.secItemCopyMatching (.seedVault true)))).2 =
        d.lookup service.reads (.seedVault true) := execute_read rfl
  obtain ⟨d', privateKey, address, hkey, haddress, hest, -, -⟩ :=
    SecureSigner.establish_served service d kit phrase
  refine ⟨d', privateKey, address, hkey, haddress, ?_⟩
  have htrap :
      served service
        (SecureSigner.orTrap (Mnemonic.solanaPrivateKey kit.toPrimitives phrase "")) d =
      (d, .ok privateKey.1) := by
    rw [hkey]
    rfl
  rw [served, SecureSigner.run_loadOrRecover_eq_search, recoveryItems, SecureSigner.search,
    SecureSigner.search]
  simp only [Prog.answered, hkept₁, hread₁, hnone, hkept₂, hread₂, hsome, SecureSigner.continueWith,
    reduceCtorEq, if_false]
  rw [SecureSigner.recover, answered_exceptBind htrap, answered_exceptBind hest]
  rfl

/-- Neither a request for a new wallet nor a failed read of an item that exists. -/
def Fine (d : Device) (reads : Item → OSStatus) (c : Call) : Prop :=
  c ≠ .invokeMethod .generateKeyPair ∧
    ∀ item, c = .secItemCopyMatching item → d.item item ≠ none → d.lookup reads item ≠ none

theorem fine_of_establishing {c : Call} (h : c.establishing = true) : Fine d reads c := by
  constructor
  · rintro rfl
    simp [Call.establishing] at h
  · rintro item rfl
    simp [Call.establishing] at h

theorem fine_http (request : Request) : Fine d reads (.http request) := ⟨by simp, by simp⟩

theorem fine_invoke {method : MethodCall} (h : method ≠ .generateKeyPair) :
    Fine d reads (.invokeMethod method) :=
  ⟨by simpa using h, by simp⟩

abbrev Tracked := Device × List (Step Call Device Verdict)

def AllFine (d : Device) (reads : Item → OSStatus) (s : Tracked) : Prop :=
  ∀ t ∈ s.2, Fine d reads t.call

/-- Under reads with the given statuses, every call so far is fine. -/
abbrev Fares {α : Type} (d : Device) (reads : Item → OSStatus) (p : Prog Call Reply α)
    (Q : α → Tracked → Prop)
    (s : Tracked) : Prop :=
  p.Spec (Prog.recording Device.execute) (ReadsAs reads) (AllFine d reads) Q s

theorem AllFine.step {s : Tracked} {c : Call} (hs : AllFine d reads s)
    (hc : Fine d reads c) (v : Verdict) :
    AllFine d reads (Prog.recording Device.execute s c v).1 :=
  List.forall_mem_cons.mpr ⟨hc, hs⟩

theorem AllFine.calls {α : Type} {p : Prog Call Reply α} {s : Tracked} (hs : AllFine d reads s)
    (h : p.Calls (Fine d reads)) : Fares d reads p (fun _ _ => True) s :=
  (h.spec (fun _ _ v hc hs => hs.step hc v) (fun _ h => h) hs).mono fun _ _ _ _ => trivial

theorem AllFine.recover {s : Tracked} (hs : AllFine d reads s) (kit : Kit) (mnemonic : String) :
    Fares d reads (SecureSigner.recover kit mnemonic).run (fun r _ => r ≠ .ok none) s := by
  have hcalls : (do
      let privateKey ← SecureSigner.orTrap (Mnemonic.solanaPrivateKey kit.toPrimitives mnemonic "")
      SecureSigner.establish kit privateKey mnemonic : Native String).run.Calls fun c =>
        c.establishing = true :=
    calls_bind trivial fun _ => SecureSigner.calls_establish kit _ mnemonic
  have hspec : Fares d reads (do
      let privateKey ← SecureSigner.orTrap (Mnemonic.solanaPrivateKey kit.toPrimitives mnemonic "")
      let address ← SecureSigner.establish kit privateKey mnemonic
      pure (some ⟨address, true⟩) : Native (Option SecureSigner.Loaded)).run (Ends (fun _ _ => True)
        fun r _ => r ≠ none) s := by
    rw [← bind_assoc]
    refine spec_bind ((hs.calls (hcalls.mono fun _ => fine_of_establishing)).mono
      fun r s hs _ => ?_)
    cases r with
    | ok address => exact ⟨hs, Option.some_ne_none _⟩
    | error e => trivial
  refine Prog.Spec.mono hspec fun r s _ hr => ?_
  rintro rfl
  exact hr rfl

/-- If the first item that exists is found, nothing is reported only when no item
exists. -/
theorem fares_search (kit : Kit) {items : List Item} (hread : d.Readable reads items)
    {h : List (Step Call Device Verdict)} (hs : AllFine d reads (d, h)) :
    Fares d reads (SecureSigner.search (SecureSigner.continueWith kit) items)
      (fun r _ => r = .ok none → ∀ item ∈ items, d.item item = none) (d, h) := by
  induction items generalizing h with
  | nil => exact ⟨hs, by simp⟩
  | cons item rest ih =>
    refine ⟨hs, fun v hv => ?_⟩
    have hread' : (d.execute (.secItemCopyMatching item) v).1 = d ∧
        SecureSigner.readText (d.execute (.secItemCopyMatching item) v).2 = d.lookup reads item :=
      execute_read (hv item rfl)
    have hfine : Fine d reads (.secItemCopyMatching item) := by
      refine ⟨by simp, ?_⟩
      rintro _ ⟨rfl⟩ hne
      exact hread.resolve_right fun hnone => hne hnone.1
    have hs' := hs.step hfine v
    simp only [Prog.recording, hread'.1, hread'.2] at hs' ⊢
    cases hl : d.lookup reads item with
    | some text =>
      by_cases hp : item = .pub
      · subst hp
        exact ⟨hs', by simp⟩
      · simp only [SecureSigner.continueWith, hp, if_false]
        exact (hs'.recover kit text).mono fun r s _ hr he => absurd he hr
    | none =>
      obtain ⟨hnone, hrest⟩ := hread.resolve_left (by simp [hl])
      refine (ih hrest hs').mono fun r s _ hr he => ?_
      exact List.forall_mem_cons.mpr ⟨hnone, hr he⟩

theorem reportsTruly_of_readable (kit : Kit) (h : d.Readable reads recoveryItems) :
    ReportsTruly kit d reads := by
  intro vs r hok hr
  have hfine : AllFine d reads (d, []) := by simp [AllFine]
  have hspec := fares_search kit h hfine
  rw [← SecureSigner.run_loadOrRecover_eq_search] at hspec
  have hrun := hspec.run vs fun t ht item hc => by
    obtain ⟨t', ht', hcall, hverdict⟩ := Prog.mem_steps_recording ht
    rw [← hverdict]
    exact hok t' ht' item (hcall.trans hc)
  rw [Prog.run_recording, List.append_nil] at hrun
  refine ⟨fun hnil => hrun.2 r hr hnil, fun t ht item hc hne hnone => ?_⟩
  exact absurd hnone ((hrun.1 t (List.mem_reverse.mpr ht)).2 item hc hne)

theorem fares_load (kit : Kit) (h : d.Readable reads recoveryItems)
    (hd : ¬ d.Absent) (chain : Chain) :
    Fares d reads (XendWallet.load kit chain).run
      (Ends (fun _ _ => True) fun r _ => r ≠ none) (d, []) := by
  have hfine : AllFine d reads (d, []) := by simp [AllFine]
  have hchain : Fares d reads (requireSolana chain "XendWallet.load").run
      (Ends (fun _ _ => True) fun _ s => s = (d, [])) (d, []) := by
    unfold requireSolana
    split
    · exact ⟨hfine, rfl⟩
    · exact ⟨hfine, trivial⟩
  refine spec_bind (spec_mono hchain fun _ s _ hs => ?_)
  subst hs
  have hloaded : Fares d reads (invoke .loadOrRecover (SecureSigner.loadOrRecover kit)).run
      (Ends (fun _ _ => True) fun r _ => r ≠ none) (d, []) := by
    refine spec_invoke hfine fun v _ => ?_
    have hs := hfine.step (fine_invoke (show MethodCall.loadOrRecover ≠ .generateKeyPair by simp)) v
    have hspec := fares_search kit h hs
    rw [← SecureSigner.run_loadOrRecover_eq_search] at hspec
    refine hspec.mono fun r s _ hr => ?_
    cases r with
    | error e => trivial
    | ok loaded =>
      rintro rfl
      exact hd (hr rfl)
  refine spec_bind (spec_mono hloaded fun loaded s hs hne => ?_)
  obtain ⟨loaded, rfl⟩ := Option.ne_none_iff_exists'.mp hne
  cases hrec : loaded.recovered with
  | false =>
    simp only [hrec, Bool.false_eq_true, if_false]
    exact ⟨hs, Option.some_ne_none _⟩
  | true =>
    simp only [hrec, if_true]
    refine spec_bind ((hs.calls (BackendClient.calls_registerWallet _ none fine_http)).mono
      fun r s hs _ => ?_)
    cases r with
    | ok walletId => exact ⟨hs, Option.some_ne_none _⟩
    | error e => trivial

theorem keepsWallet_of_readable (kit : Kit) (h : d.Readable reads recoveryItems) :
    KeepsWallet kit d reads := by
  intro label chain vs hok
  by_cases hd : d.Absent
  · exact fun _ => hd
  · rintro ⟨t, ht, hc⟩
    have hspec : Fares d reads (XendWallet.loadOrCreate kit label chain).run
        (Ends (fun _ _ => True) fun _ _ => True) (d, []) := by
      refine spec_bind (spec_mono (fares_load kit h hd chain) fun loaded s hs hne => ?_)
      obtain ⟨wallet, rfl⟩ := Option.ne_none_iff_exists'.mp hne
      exact ⟨hs, trivial⟩
    have hrun := hspec.run vs fun t ht item hc => by
      obtain ⟨t', ht', hcall, hverdict⟩ := Prog.mem_steps_recording ht
      rw [← hverdict]
      exact hok t' ht' item (hcall.trans hc)
    rw [Prog.run_recording, List.append_nil] at hrun
    exact absurd hc (hrun.1 t (List.mem_reverse.mpr ht)).1

theorem answered_search (kit : Kit) (reads : Item → OSStatus) (entropy : Entropy)
    (items : List Item) (d : Device) :
    ∃ d' loaded, (SecureSigner.search (SecureSigner.continueWith kit) items).answered Device.execute
      (Service.answer ⟨reads, entropy, none⟩) d = (d', .ok loaded) := by
  induction items generalizing d with
  | nil => exact ⟨d, none, rfl⟩
  | cons item rest ih =>
    simp only [SecureSigner.search, Prog.answered]
    generalize SecureSigner.readText _ = text
    generalize (d.execute _ _).1 = d'
    cases text with
    | none => exact ih d'
    | some text =>
      by_cases hp : item = .pub
      · exact ⟨d', some ⟨text, false⟩, by simp only [SecureSigner.continueWith, hp, if_true]; rfl⟩
      · obtain ⟨d₁, privateKey, address, hkey, -, hest, -⟩ :=
          SecureSigner.establish_served ⟨reads, entropy, none⟩ d' kit text
        refine ⟨d₁, some ⟨address, true⟩, ?_⟩
        have htrap : served ⟨reads, entropy, none⟩ (SecureSigner.orTrap
            (Mnemonic.solanaPrivateKey kit.toPrimitives text "")) d' = (d', .ok privateKey.1) := by
          rw [hkey]
          rfl
        simp only [SecureSigner.continueWith, hp, if_false]
        rw [SecureSigner.recover, answered_exceptBind htrap, answered_exceptBind hest]
        rfl

theorem search_unreadable (kit : Kit) (entropy : Entropy) {items : List Item}
    (h : ¬ d.Readable reads items) :
    ∃ vs d' loaded,
    (SecureSigner.search (SecureSigner.continueWith kit) items).run Device.execute d vs =
        (d', some (.ok loaded)) ∧
      (∀ t ∈ (SecureSigner.search (SecureSigner.continueWith kit) items).steps Device.execute d vs,
        ReadsAs reads t) ∧
      ∃ t ∈ (SecureSigner.search (SecureSigner.continueWith kit) items).steps Device.execute d vs,
      ∃ item,
        t.call = .secItemCopyMatching item ∧ d.item item ≠ none ∧ d.lookup reads item = none := by
  induction items with
  | nil => exact absurd trivial h
  | cons item rest ih =>
    have hnone : d.lookup reads item = none := by
      by_contra hne
      exact h (.inl hne)
    let v : Verdict := Service.answer ⟨reads, entropy, none⟩ (.secItemCopyMatching item)
    have hread : (d.execute (.secItemCopyMatching item) v).1 = d ∧
        SecureSigner.readText (d.execute (.secItemCopyMatching item) v).2 = d.lookup reads item :=
          execute_read rfl
    rw [hnone] at hread
    have hrun : ∀ vs,
        (SecureSigner.search (SecureSigner.continueWith kit) (item :: rest)).run
          Device.execute d (v :: vs) =
        (SecureSigner.search (SecureSigner.continueWith kit) rest).run Device.execute d vs := by
      intro vs
      simp only [SecureSigner.search, Prog.run, hread.1, hread.2]
    have hsteps : ∀ vs,
        (SecureSigner.search (SecureSigner.continueWith kit) (item :: rest)).steps Device.execute d
        (v :: vs) = ⟨d, .secItemCopyMatching item, v⟩ ::
          (SecureSigner.search (SecureSigner.continueWith kit) rest).steps Device.execute d vs := by
      intro vs
      simp only [SecureSigner.search, Prog.steps, hread.1, hread.2]
    have hfirst : ReadsAs reads (⟨d, .secItemCopyMatching item, v⟩ : Step Call Device Verdict) := by
      rintro _ ⟨rfl⟩
      rfl
    by_cases hi : d.item item = none
    · obtain ⟨vs, d', loaded, hr, hok, t, ht, hmiss⟩ := ih fun hrest => h (.inr ⟨hi, hrest⟩)
      refine ⟨v :: vs, d', loaded, (hrun vs).trans hr, ?_, t, ?_, hmiss⟩
      · rw [hsteps, List.forall_mem_cons]
        exact ⟨hfirst, hok⟩
      · rw [hsteps]
        exact List.mem_cons_of_mem _ ht
    · obtain ⟨d', loaded, hans⟩ := answered_search kit reads entropy rest d
      obtain ⟨vs, hr, hok⟩ :=
        Prog.run_answered Device.execute (Service.answer ⟨reads, entropy, none⟩)
        (SecureSigner.search (SecureSigner.continueWith kit) rest) d
      refine ⟨v :: vs, d', loaded, ?_, ?_, ⟨d, .secItemCopyMatching item, v⟩, ?_,
        item, rfl, hi, hnone⟩
      · rw [hrun, hr, hans]
      · rw [hsteps, List.forall_mem_cons]
        refine ⟨hfirst, fun t ht other hc => ?_⟩
        rw [hok t ht, hc]
        rfl
      · rw [hsteps]
        exact List.mem_cons_self

/-- Nothing is taken for absent, and no wallet is replaced at start-up, exactly if
the first of the items that exists can be read. -/
theorem truthful_iff_readable (kit : Kit) (d : Device) (reads : Item → OSStatus) :
    ReportsTruly kit d reads ∧ KeepsWallet kit d reads ↔ d.Readable reads recoveryItems := by
  constructor
  · intro h
    by_contra hread
    obtain ⟨vs, d', loaded, hr, hok, t, ht, item, hc, hne, hnone⟩ :=
      search_unreadable kit ⟨List.replicate 16 0, rfl⟩ hread
    rw [← SecureSigner.run_loadOrRecover_eq_search] at hr hok ht
    obtain ⟨e, he⟩ := (h.1 vs (.ok loaded) hok (by rw [hr])).2 t ht item hc hne hnone
    cases he
  · exact fun h => ⟨reportsTruly_of_readable kit h, keepsWallet_of_readable kit h⟩

end Reads

/-- A phone with an address item and no seed. -/
def lockedPhone : Device :=
  Device.blank.put .pub (.plain (utf8 "4zvwRjXUKGfvwnParsHAS3HuSVzV5cA4McphgmoCtajS"))

/-- The address item cannot be read for now: interaction is not allowed. -/
def lockedReads (item : Item) : OSStatus := if item = .pub then -25308 else errSecSuccess

def lockedAnswer (c : Call) : Verdict := Service.answer ⟨lockedReads, sampleService.entropy, none⟩ c

theorem lockedReads_readsAs {S : Type} {t : Step Call S Verdict}
    (h : t.verdict = lockedAnswer t.call) :
    ReadsAs lockedReads t := by
  intro item hc
  rw [h, hc]
  rfl

def lockedCalls : List Call :=
  .invokeMethod .loadOrRecover :: recoveryItems.map .secItemCopyMatching ++
    [.invokeMethod .generateKeyPair]

/-- A locked phone is taken for a new one, and start-up goes on to a new wallet. -/
theorem lockedPhone_replaced :
    ¬ ReportsTruly sampleKit lockedPhone lockedReads ∧
    ¬ KeepsWallet sampleKit lockedPhone lockedReads := by
  have hpresent : ¬ lockedPhone.Absent := by
    intro h
    have hh := h .pub (by simp [recoveryItems])
    simp [lockedPhone] at hh
  constructor
  · intro h
    let vs := recoveryItems.map fun item => lockedAnswer (.secItemCopyMatching item)
    have hsteps : (SecureSigner.loadOrRecover sampleKit).run.steps Device.execute lockedPhone vs =
        recoveryItems.map fun item =>
          ⟨lockedPhone, .secItemCopyMatching item, lockedAnswer (.secItemCopyMatching item)⟩ :=
      rfl
    have hrun : ((SecureSigner.loadOrRecover sampleKit).run.run Device.execute lockedPhone vs).2 =
        some (.ok none) := rfl
    refine hpresent ((h vs (.ok none) (fun t ht => lockedReads_readsAs ?_) hrun).1 rfl)
    rw [hsteps] at ht
    obtain ⟨item, -, rfl⟩ := List.mem_map.mp ht
    rfl
  · intro h
    have hsteps :
        (XendWallet.loadOrCreate sampleKit none .solana).run.steps Device.execute lockedPhone
        (lockedCalls.map lockedAnswer) = lockedCalls.map fun c =>
          ⟨lockedPhone, c, lockedAnswer c⟩ := rfl
    refine hpresent
      (h none .solana (lockedCalls.map lockedAnswer) (fun t ht => lockedReads_readsAs ?_) ?_)
    · rw [hsteps] at ht
      obtain ⟨c, -, rfl⟩ := List.mem_map.mp ht
      rfl
    · rw [hsteps]
      exact ⟨_, List.mem_map_of_mem (by simp [lockedCalls]), rfl⟩

end Xend.Sdk
