import Xend.Authentication
import Xend.KeyStore
import Xend.Payment
import Xend.PhraseCodec
import Xend.Registration
import Xend.Retention
import Xend.SeedVault

/-! One wallet on many phones: its phrase, revealed on one and typed in on another, or
kept in the vault, brings back the same address. -/

namespace Xend.Sdk

open Framing Interaction

/-- The wallet of a phrase has this address. -/
def Derives (kit : Kit) (phrase address : String) : Prop :=
  ∃ privateKey : PrivateKey, Mnemonic.solanaPrivateKey kit.toPrimitives phrase "" =
    some privateKey.1 ∧
    SecureSigner.address kit privateKey = some address

section Phrases

variable {kit : Kit} {phrase phrase' address address' : String}

theorem Derives.unique (h : Derives kit phrase address) (h' : Derives kit phrase address') :
    address' = address := by
  obtain ⟨privateKey, hkey, haddress⟩ := h
  obtain ⟨privateKey', hkey', haddress'⟩ := h'
  obtain rfl : privateKey = privateKey' := Subtype.ext (Option.some.inj (hkey.symm.trans hkey'))
  exact Option.some.inj (haddress'.symm.trans haddress)

theorem Derives.congr (h : Derives kit phrase address)
    (hsame : Mnemonic.normalize kit.toPrimitives phrase' =
      Mnemonic.normalize kit.toPrimitives phrase) :
    Derives kit phrase' address := by
  obtain ⟨privateKey, hkey, haddress⟩ := h
  exact ⟨privateKey, (Mnemonic.solanaPrivateKey_congr hsame "").trans hkey, haddress⟩

end Phrases

section Device

variable {kit : Kit} {d d' : Device} {vs : List Verdict} {phrase address : String}

/-- A write that returns has been carried out where nothing was. -/
theorem keychainSet_of_run {item : Item} {data : Data}
    (hrun : (SecureSigner.keychainSet item data).run.run Device.execute d vs =
      (d', some (.ok ()))) :
    d'.item item = some data ∧
    ∃ t ∈ (SecureSigner.keychainSet item data).run.steps Device.execute d vs,
      t.before.item item = none ∧ t.verdict.status = errSecSuccess ∧
      t.call = .secItemAdd item data := by
  obtain ⟨_, d₁, vs₁, hdelete, hrest, hsteps⟩ := run_bind_ok hrun
  obtain ⟨status, d₂, vs₂, hadd, hrequire, hsteps₁⟩ := run_bind_ok hrest
  obtain ⟨v, hexecute, hstep⟩ := run_request_ok hadd
  have hstatus : status = errSecSuccess ∧ d₂ = d' := by
    by_cases hs : status = errSecSuccess
    · rw [hs] at hrequire
      exact ⟨hs, congrArg Prod.fst hrequire⟩
    · simp only [SecureSigner.require, hs, decide_false] at hrequire
      cases hrequire
  obtain ⟨rfl, rfl⟩ := hstatus
  by_cases hfresh : v.status = errSecSuccess ∧ d₁.item item = none
  · rw [Device.execute_add data hfresh.1 hfresh.2] at hexecute
    obtain ⟨rfl, -⟩ := Prod.mk.inj hexecute
    refine ⟨Device.put_self .., ⟨d₁, .secItemAdd item data, v⟩, ?_, hfresh.2, hfresh.1, rfl⟩
    rw [SecureSigner.keychainSet, hsteps, hsteps₁, hstep]
    simp
  · exact absurd (congrArg Prod.snd hexecute) (Device.execute_add_of_ne data hfresh).2

theorem established_of_run {privateKey : Bytes}
    (hrun : (SecureSigner.establish kit privateKey phrase).run.run Device.execute d vs =
      (d', some (.ok address))) :
    (∃ signingKey : PrivateKey, signingKey.1 = privateKey ∧
      SecureSigner.address kit signingKey = some address) ∧
      d'.address = some address ∧
      ∃ t ∈ (SecureSigner.establish kit privateKey phrase).run.steps Device.execute d vs,
      Stores t := by
  obtain ⟨signingKey, d₁, vs₁, hraw, hrest₁, hsteps₁⟩ := run_bind_ok hrun
  obtain ⟨text, d₂, vs₂, haddress, hrest₂, hsteps₂⟩ := run_bind_ok hrest₁
  obtain ⟨key, d₃, vs₃, -, hrest₃, hsteps₃⟩ := run_bind_ok hrest₂
  obtain ⟨_, d₄, vs₄, -, hrest₄, hsteps₄⟩ := run_bind_ok hrest₃
  obtain ⟨_, d₅, vs₅, -, hrest₅, hsteps₅⟩ := run_bind_ok hrest₄
  obtain ⟨_, d₆, vs₆, -, hrest₆, hsteps₆⟩ := run_bind_ok hrest₅
  obtain ⟨_, d₇, vs₇, -, hrest₇, hsteps₇⟩ := run_bind_ok hrest₆
  obtain ⟨keyCiphertext, d₈, vs₈, -, hrest₈, hsteps₈⟩ := run_bind_ok hrest₇
  obtain ⟨phraseCiphertext, d₉, vs₉, -, hrest₉, hsteps₉⟩ := run_bind_ok hrest₈
  obtain ⟨_, d₁₀, vs₁₀, -, hrest₁₀, hsteps₁₀⟩ := run_bind_ok hrest₉
  obtain ⟨_, d₁₁, vs₁₁, -, hrest₁₁, hsteps₁₁⟩ := run_bind_ok hrest₁₀
  obtain ⟨_, d₁₂, vs₁₂, hpub, hreturn, hsteps₁₂⟩ := run_bind_ok hrest₁₁
  obtain ⟨rfl, htext⟩ := Prod.mk.inj hreturn
  obtain rfl := Except.ok.inj (Option.some.inj htext)
  have hkey : signingKey.1 = privateKey := by
    unfold SecureSigner.rawRepresentation at hraw
    split at hraw
    · obtain ⟨-, hr⟩ := Prod.mk.inj hraw
      exact congrArg Subtype.val (Except.ok.inj (Option.some.inj hr)).symm
    · cases hraw
  have hencoded : SecureSigner.address kit signingKey = some text :=
    Mnemonic.orTrap_eq_ok.mp (run_attempt_ok haddress).1
  obtain ⟨hitem, t, ht, hnone, hs, hc⟩ := keychainSet_of_run hpub
  refine ⟨⟨signingKey, hkey, hencoded⟩, ?_, t, ?_, hnone, hs, _, hc⟩
  · simp only [Device.address, hitem, Option.bind_some, Data.text, ofUtf8_utf8]
  · rw [SecureSigner.establish, hsteps₁, hsteps₂, hsteps₃, hsteps₄, hsteps₅, hsteps₆,
      hsteps₇, hsteps₈, hsteps₉, hsteps₁₀, hsteps₁₁, hsteps₁₂]
    simp [ht]

theorem Device.seedOnly_address {c : Call} (hc : SeedOnly c) (d : Device) (v : Verdict) :
    (d.execute c v).1.address = d.address := by
  rcases d.execute_cases c v with he | ⟨-, he⟩
  · rw [he]
  · generalize (d.execute c v).1 = d' at he
    cases he with
    | add item data hnone =>
      obtain ⟨synchronizable, rfl⟩ := hc
      rw [Device.address, d.put_ne _ _ _ (by simp), Device.address]
    | delete items =>
      have hpub : Item.pub ∉ items := by
        intro hmem
        obtain ⟨synchronizable, hitem⟩ := hc _ hmem
        cases hitem
      rw [Device.address, d.remove_item, if_neg hpub, Device.address]
    | deleteKeys => exact absurd hc id
    | create flags inSecureEnclave => exact absurd hc id

theorem storeRecoverySeed_address (d : Device) (vs : List Verdict) (phrase : String) :
    ((SecureSigner.storeRecoverySeed phrase).run.run Device.execute d vs).1.address =
      d.address := by
  have hspec : (SecureSigner.storeRecoverySeed phrase).run.Spec Device.execute (fun _ => True)
      (fun d' => d'.address = d.address) (Ends (fun _ _ => False) fun _ d' => d'.address =
        d.address) d :=
    storeRecoverySeed_spec (fun d' c v hc h => (Device.seedOnly_address hc d' v).trans h) rfl phrase
  exact (hspec.run vs fun _ _ => trivial).1

/-- A wallet has been established from the phrase. -/
structure Established (kit : Kit) (phrase address : String) (steps : List DeviceStep)
    (d : Device) : Prop where
  derives : Derives kit phrase address
  address : d.address = some address
  stored : ∃ t ∈ steps, Stores t

theorem Established.mono {steps steps' : List DeviceStep}
    (h : Established kit phrase address steps d)
    (hsub : ∀ t ∈ steps, t ∈ steps') : Established kit phrase address steps' d := by
  obtain ⟨t, ht, hst⟩ := h.stored
  exact ⟨h.derives, h.address, t, hsub t ht, hst⟩

theorem Established.congr {phrase' : String} {steps : List DeviceStep}
    (h : Established kit phrase address steps d)
    (hsame : Mnemonic.normalize kit.toPrimitives phrase =
      Mnemonic.normalize kit.toPrimitives phrase') :
    Established kit phrase' address steps d := ⟨h.derives.congr hsame.symm, h.address, h.stored⟩

/-- The part that restoration and recovery share. -/
theorem established_of_phrase {α : Type} {f : String → Native α} {r : α}
    (hf : ∀ text d vs, ((f text).run.run Device.execute d vs).1.address = d.address)
    (hrun : (do
      let privateKey ← SecureSigner.orTrap (Mnemonic.solanaPrivateKey kit.toPrimitives phrase "")
      let address ← SecureSigner.establish kit privateKey phrase
      f address : Native α).run.run Device.execute d vs = (d', some (.ok r))) :
    ∃ address d₁ vs₁, (f address).run.run Device.execute d₁ vs₁ = (d', some (.ok r)) ∧
      Established kit phrase address ((do
        let privateKey ← SecureSigner.orTrap (Mnemonic.solanaPrivateKey kit.toPrimitives phrase "")
        let address ← SecureSigner.establish kit privateKey phrase
        f address : Native α).run.steps Device.execute d vs) d' := by
  generalize hkey : Mnemonic.solanaPrivateKey kit.toPrimitives phrase "" = key at hrun ⊢
  obtain ⟨privateKey, d₁, vs₁, htrap, hrest₁, hsteps₁⟩ := run_bind_ok hrun
  obtain ⟨address, d₂, vs₂, hestablish, hrest₂, hsteps₂⟩ := run_bind_ok hrest₁
  obtain ⟨⟨signingKey, rfl, haddress⟩, hstored, t, ht, hst⟩ := established_of_run hestablish
  have hderived : key = some signingKey.1 := Mnemonic.orTrap_eq_ok.mp (run_attempt_ok htrap).1
  refine ⟨address, d₂, vs₂, hrest₂, ⟨signingKey, hkey.trans hderived, haddress⟩, ?_, t, ?_, hst⟩
  · rw [← hstored, ← hf address d₂ vs₂, hrest₂]
  · rw [hsteps₁, hsteps₂]
    simp [ht]

theorem seeded_address {α : Type} (a : α) (d : Device) (vs : List Verdict) :
    ((do
      SecureSigner.storeRecoverySeed phrase
      pure a : Native α).run.run Device.execute d vs).1.address = d.address := by
  rw [run_bind]
  rcases Prog.bind_cases Device.execute (SecureSigner.storeRecoverySeed phrase).run
    (proceed fun _ => pure a) d vs with
    ⟨-, hrun, -⟩ | ⟨r, vs', -, hrun, -⟩
  · rw [hrun]
    exact storeRecoverySeed_address d vs phrase
  · rw [hrun]
    cases r with
    | ok _ => exact storeRecoverySeed_address d vs phrase
    | error e => exact storeRecoverySeed_address d vs phrase

theorem restored_of_run
    (hrun : (SecureSigner.restore kit phrase).run.run Device.execute d vs =
      (d', some (.ok address))) :
    Established kit phrase address
      ((SecureSigner.restore kit phrase).run.steps Device.execute d vs) d' := by
  obtain ⟨_, d₁, vs₁, hvalidate, hrest, hsteps⟩ := run_bind_ok hrun
  obtain ⟨text, d₂, vs₂, hreturn, hestablished⟩ :=
    established_of_phrase (fun text d vs => seeded_address text d vs) hrest
  obtain ⟨_, d₃, vs₃, -, hpure, -⟩ := run_bind_ok hreturn
  obtain ⟨-, hr⟩ := Prod.mk.inj hpure
  obtain rfl := Except.ok.inj (Option.some.inj hr)
  refine hestablished.mono fun t ht => ?_
  rw [SecureSigner.restore, hsteps]
  exact List.mem_append_right _ ht

theorem readText_execute {item : Item} {v : Verdict} {text : String}
    (h : SecureSigner.readText (d.execute (.secItemCopyMatching item) v).2 = some text) :
    (d.item item).bind Data.text = some text := by
  have hstatus : v.status = (fun _ => v.status) item := rfl
  have hread : SecureSigner.readText (d.execute (.secItemCopyMatching item) v).2 =
      d.lookup (fun _ => v.status) item :=
    (execute_read hstatus).2
  rw [hread, Device.lookup] at h
  split at h
  · exact h
  · cases h

/-- What a search for a wallet comes back with, where no address is stored, was
recovered from a seed of the vault. -/
theorem recovered_of_search {items : List Item} (hitems : ∀ item ∈ items, item ∈ recoveryItems)
    (hpub : d.item .pub = none)
    {loaded : SecureSigner.Loaded}
    (hrun : (SecureSigner.search (SecureSigner.continueWith kit) items).run Device.execute d vs =
      (d', some (.ok (some loaded)))) :
    ∃ place text ws, d.seed place = some text ∧
      (SecureSigner.recover kit text).run.run Device.execute d ws = (d', some (.ok (some loaded))) ∧
      ∀ t ∈ (SecureSigner.recover kit text).run.steps Device.execute d ws,
        t ∈ (SecureSigner.search (SecureSigner.continueWith kit) items).steps
          Device.execute d vs := by
  induction items generalizing vs with
  | nil => cases hrun
  | cons item rest ih =>
    cases vs with
    | nil => cases hrun
    | cons v vs =>
      simp only [SecureSigner.search, Prog.run, Prog.steps, d.execute_copyMatching item v] at hrun ⊢
      cases hread : SecureSigner.readText (d.execute (.secItemCopyMatching item) v).2 with
      | none =>
        simp only [hread] at hrun ⊢
        obtain ⟨place, text, ws, hseed, hrecover, hsub⟩ :=
          ih (fun i hi => hitems i (List.mem_cons_of_mem _ hi)) hrun
        exact ⟨place, text, ws, hseed, hrecover, fun t ht => List.mem_cons_of_mem _ (hsub t ht)⟩
      | some text =>
        simp only [hread] at hrun ⊢
        have htext := readText_execute hread
        have hplace : ∃ place, item = .seedVault place := by
          have hmem := hitems item List.mem_cons_self
          simp only [recoveryItems, List.mem_cons, List.not_mem_nil, or_false] at hmem
          rcases hmem with rfl | rfl | rfl
          · rw [hpub] at htext
            cases htext
          · exact ⟨true, rfl⟩
          · exact ⟨false, rfl⟩
        obtain ⟨place, rfl⟩ := hplace
        rw [SecureSigner.continueWith, if_neg (by simp)] at hrun ⊢
        exact ⟨place, text, vs, htext, hrun, fun t ht => List.mem_cons_of_mem _ ht⟩

theorem loaded_of_run (hpub : d.item .pub = none) {loaded : SecureSigner.Loaded}
    (hrun : (SecureSigner.loadOrRecover kit).run.run Device.execute d vs =
      (d', some (.ok (some loaded)))) :
    ∃ place text, d.seed place = some text ∧ loaded.recovered = true ∧
      Established kit text loaded.address
        ((SecureSigner.loadOrRecover kit).run.steps Device.execute d vs) d' := by
  rw [SecureSigner.run_loadOrRecover_eq_search] at hrun ⊢
  obtain ⟨place, text, ws, hseed, hrecover, hsub⟩ := recovered_of_search (fun _ h => h) hpub hrun
  obtain ⟨address, d₁, vs₁, hreturn, hestablished⟩ :=
    established_of_phrase (fun _ _ _ => rfl) hrecover
  obtain ⟨-, hr⟩ := Prod.mk.inj hreturn
  obtain rfl := Option.some.inj (Except.ok.inj (Option.some.inj hr))
  exact ⟨place, text, hseed, rfl, hestablished.mono hsub⟩

theorem found_of_run {α : Type} {out : OSStatus × Option α} {a : α}
    (hrun : (SecureSigner.found out : Native α).run.run Device.execute d vs = (d', some (.ok a))) :
    d' = d ∧ out = (errSecSuccess, some a) := by
  obtain ⟨status, value⟩ := out
  by_cases hfound : status = errSecSuccess ∧ value ≠ none
  · obtain ⟨rfl, hvalue⟩ := hfound
    obtain ⟨a', rfl⟩ := Option.ne_none_iff_exists'.mp hvalue
    rw [SecureSigner.found_success] at hrun
    obtain ⟨rfl, hr⟩ := Prod.mk.inj hrun
    obtain rfl := Except.ok.inj (Option.some.inj hr)
    exact ⟨rfl, rfl⟩
  · obtain ⟨e, he⟩ := SecureSigner.found_refused hfound
    rw [he] at hrun
    cases hrun

/-- The key that is used is the one a lookup finds first. -/
theorem enclaveKey_of_run {reason : String} {key : Nat}
    (hrun : (SecureSigner.loadEnclaveKey reason).run.run Device.execute d vs =
      (d', some (.ok key))) :
    d' = d ∧ d.enclave.head? = some key := by
  obtain ⟨out, d₁, vs₁, hcopy, hfound, -⟩ := run_bind_ok hrun
  obtain ⟨v, hexecute, -⟩ := run_request_ok hcopy
  obtain ⟨rfl, rfl⟩ := found_of_run hfound
  simp only [Device.execute] at hexecute
  split at hexecute
  · simp_all
  · split at hexecute
    · simp_all
    · obtain ⟨rfl, hout⟩ := Prod.mk.inj hexecute
      exact ⟨rfl, congrArg Prod.snd hout⟩

theorem item_of_run {item : Item} {data : Data}
    (hrun : (SecureSigner.keychainGet item).run.run Device.execute d vs = (d', some (.ok data))) :
    d' = d ∧ d.item item = some data := by
  obtain ⟨out, d₁, vs₁, hcopy, hfound, -⟩ := run_bind_ok hrun
  obtain ⟨v, hexecute, -⟩ := run_request_ok hcopy
  obtain ⟨rfl, rfl⟩ := found_of_run hfound
  simp only [Device.execute] at hexecute
  split at hexecute
  · simp_all
  · split at hexecute
    · obtain ⟨rfl, hout⟩ := Prod.mk.inj hexecute
      exact ⟨rfl, congrArg Prod.snd hout⟩
    · simp_all

theorem unwrapped_of_run {key : Nat} {bytes plaintext : Bytes} {label : String}
    (hrun : (SecureSigner.unwrap key (.wrapped key bytes) label).run.run Device.execute d vs =
      (d', some (.ok plaintext))) :
    plaintext = bytes := by
  obtain ⟨out, d₁, vs₁, hdecrypt, hreturn, -⟩ := run_bind_ok hrun
  obtain ⟨v, hexecute, -⟩ := run_request_ok hdecrypt
  cases out with
  | error code =>
    dsimp only at hreturn
    split at hreturn <;> cases hreturn
  | ok bytes' =>
    obtain ⟨-, hr⟩ := Prod.mk.inj hreturn
    obtain rfl := Except.ok.inj (Option.some.inj hr)
    simp only [Device.execute, if_true] at hexecute
    split at hexecute
    · cases hexecute
    · exact (Except.ok.inj (congrArg Prod.snd hexecute)).symm

/-- What is revealed on a phone in working order derives its address. -/
theorem revealed_of_run (hworking : d.Working kit address) {reason : String}
    (hrun : (SecureSigner.revealMnemonic reason).run.run Device.execute d vs =
      (d', some (.ok phrase))) :
    Derives kit phrase address := by
  obtain ⟨key, privateKey, phrase', hhead, -, hmnemonic, haddress, hprivate⟩ := hworking
  obtain ⟨enclaveKey, d₁, vs₁, hload, hrest, -⟩ := run_bind_ok hrun
  obtain ⟨data, d₂, vs₂, hget, hrest, -⟩ := run_bind_ok hrest
  obtain ⟨plaintext, d₃, vs₃, hunwrap, hreturn, -⟩ := run_bind_ok hrest
  obtain ⟨rfl, hfirst⟩ := enclaveKey_of_run hload
  obtain ⟨rfl, hitem⟩ := item_of_run hget
  obtain rfl := Option.some.inj (hfirst.symm.trans hhead)
  obtain rfl := Option.some.inj (hitem.symm.trans hmnemonic)
  obtain rfl := unwrapped_of_run hunwrap
  rw [ofUtf8_utf8] at hreturn
  obtain ⟨-, hr⟩ := Prod.mk.inj hreturn
  obtain rfl := Except.ok.inj (Option.some.inj hr)
  exact ⟨privateKey, hprivate, haddress⟩

/-- An operation that established a wallet leaves one in working order, unless a key of
it was misplaced. -/
theorem Established.holds {op : Operation} (hop : op ≠ .deleteKey) {α : Type} {x : Native α}
    (hprogram : op.program kit = do let _ ← x; pure ())
    (h : Established kit phrase address (x.run.steps Device.execute d vs)
      (x.run.run Device.execute d vs).1) :
    (∃ t ∈ x.run.steps Device.execute d vs, Misplaces t) ∨
    (x.run.run Device.execute d vs).1.Holds kit address := by
  have hrun : (op.program kit).run = Except.map (fun _ => ()) <$> x.run := by
    rw [hprogram, bind_pure_comp, ExceptT.run_map]
  have hsound := (op.sound_run kit hop d vs).1
  rw [hrun, Prog.run_map, Prog.steps_map] at hsound
  rcases hsound with hunstored | ⟨t, ht, hmisplaces⟩ | ⟨address', hholds⟩
  · obtain ⟨t, ht, hstores⟩ := h.stored
    exact absurd hstores (hunstored t (List.mem_reverse.mpr ht))
  · exact .inl ⟨t, List.mem_reverse.mp ht, hmisplaces⟩
  · obtain rfl := Option.some.inj (h.address.symm.trans hholds.1)
    exact .inr hholds

end Device

section Deployed

variable {b : Backend} {apiKey apiKey' : Option String} {kit : Kit} {s s' : Deployment}
    {vs : List Circumstance}

/-- The step as the phone sees it. -/
def onDevice (t : DeployedStep) : DeviceStep := ⟨t.before.device, t.call, t.verdict.native⟩

/-- What stays on the phone runs there as it does without a backend. -/
theorem run_device (b : Backend) (apiKey : Option String) {α : Type} {p : Prog Call Reply α}
    (hp : p.Calls Local)
    (s : Deployment) (vs : List Circumstance) :
    p.run Device.execute s.device (vs.map Circumstance.native) =
        ((p.run (Deployment.execute b apiKey) s vs).1.device,
          (p.run (Deployment.execute b apiKey) s vs).2) ∧
      p.steps Device.execute s.device (vs.map Circumstance.native) =
        (p.steps (Deployment.execute b apiKey) s vs).map onDevice := by
  induction p generalizing s vs with
  | done a => exact ⟨rfl, rfl⟩
  | call c k ih =>
    cases vs with
    | nil => exact ⟨rfl, rfl⟩
    | cons v vs =>
      have hexecute : s.device.execute c v.native =
          ((s.execute b apiKey c v).1.device, (s.execute b apiKey c v).2) := by
        cases c with
        | http request => exact absurd rfl (hp.1 request)
        | _ => rfl
      simp only [List.map_cons, Prog.run, Prog.steps, hexecute]
      obtain ⟨hrun, hsteps⟩ := ih _ (hp.2 _) (s.execute b apiKey c v).1 vs
      exact ⟨hrun, congrArg (List.cons _) hsteps⟩

theorem local_revealMnemonic (reason : String) :
    (SecureSigner.revealMnemonic reason).run.Calls Local := by
  refine calls_bind (calls_bind (calls_request (by nofun)) fun _ => SecureSigner.calls_found)
    fun key => ?_
  refine calls_bind (SecureSigner.calls_keychainGet (by nofun)) fun data => ?_
  refine calls_bind (SecureSigner.calls_unwrap (by nofun)) fun plaintext => ?_
  cases ofUtf8 plaintext <;> trivial

theorem local_loadOrRecover (kit : Kit) : (SecureSigner.loadOrRecover kit).run.Calls Local := by
  rw [SecureSigner.run_loadOrRecover_eq_search]
  exact local_search kit _

theorem native_of_invoke {α : Type} {method : MethodCall} {x : Native α}
    (hx : x.run.Calls Local) {a : α}
    (hrun : (invoke method x).run.run (Deployment.execute b apiKey) s vs = (s', some (.ok a))) :
    ∃ ws, x.run.run Device.execute s.device ws = (s'.device, some (.ok a)) ∧
      ∀ t ∈ x.run.steps Device.execute s.device ws,
        ∃ t' ∈ (invoke method x).run.steps (Deployment.execute b apiKey) s vs, onDevice t' = t := by
  obtain ⟨vs', hnative, hsub⟩ := XendWallet.run_invoke_ok hrun
  obtain ⟨hdevice, hsteps⟩ := run_device b apiKey hx s vs'
  rw [hnative] at hdevice
  refine ⟨vs'.map Circumstance.native, hdevice, fun t ht => ?_⟩
  rw [hsteps] at ht
  obtain ⟨t', ht', rfl⟩ := List.mem_map.mp ht
  exact ⟨t', hsub t' ht', rfl⟩

theorem upserted_of_run {formats : TextFormats} {pubkey : String} {l l' : Ledger}
    {us : List Xend.Verdict} {r : WalletResponse}
    (hrun : (formats.register pubkey).run.run Ledger.execute l us = (l', some (.ok r))) :
    l'.findIdByPubkey pubkey ≠ none := by
  rcases run_register formats l pubkey us with ⟨v, rest, rfl, -, hstep⟩ | ⟨-, -, hfailed⟩
  · obtain ⟨rfl, hr⟩ := Prod.mk.inj (hstep.symm.trans hrun)
    refine upsert_applied fun o ho => ?_
    have hreply : (l.execute (.upsert pubkey) v).2 = .error (.database o.detail) := by
      simp [Ledger.execute, Xend.Call.isBroadcast, ho]
    rw [hreply] at hr
    cases hr
  · exact absurd (congrArg Prod.snd hrun) (hfailed r)

/-- A registration that returns leaves the phone alone and the address known. -/
theorem registered_of_run {keys : Option String} (hgateway : b.gateway = .fromEnv keys)
    {address walletId : String}
    {label : Option String}
    (hclock : ∀ t ∈ (BackendClient.registerWallet address label).run.steps
      (Deployment.execute b apiKey) s vs, t.verdict.Timely)
    (hrun : (BackendClient.registerWallet address label).run.run
      (Deployment.execute b apiKey) s vs =
      (s', some (.ok walletId))) :
    s'.device = s.device ∧ s'.server.ledger.findIdByPubkey address ≠ none := by
  obtain ⟨v, answer, -, hdevice, -, hhandler⟩ :=
    method_run hgateway (m := .registerWallet address label) trivial hclock hrun
  change (ApiResponse.wallet <$> b.web.toTextFormats.register address).run.run _ _ _ = _ at hhandler
  rw [ExceptT.run_map, Prog.run_map] at hhandler
  generalize hregister : (b.web.toTextFormats.register address).run.run Ledger.execute
    (s.met b v).ledger v.verdicts = out
    at hhandler
  obtain ⟨l, answered⟩ := out
  obtain ⟨rfl, hanswer⟩ := Prod.mk.inj hhandler
  obtain ⟨r, rfl, hr⟩ := Option.map_eq_some_iff.mp hanswer
  cases r with
  | error e => cases hr
  | ok r => exact ⟨hdevice, upserted_of_run hregister⟩

/-- The phone is to open the wallet of the phrase: it is typed in, however it is spelled,
or what a phone without an address finds in its vault. -/
inductive Reopens (kit : Kit) (phrase : String) (d : Device) : Opening → Prop
  | restore {mnemonic : String} {chain : Chain}
      (hsame : Mnemonic.normalize kit.toPrimitives (trim mnemonic) =
        Mnemonic.normalize kit.toPrimitives phrase) :
      Reopens kit phrase d (.restore mnemonic chain)
  | load {chain : Chain} (hpub : d.item .pub = none)
      (hseeds : ∀ place text, d.seed place = some text →
      Mnemonic.normalize kit.toPrimitives text = Mnemonic.normalize kit.toPrimitives phrase) :
      Reopens kit phrase d (.load chain)

/-- An operation called over the channel leaves the wallet it established in working
order, unless a key of it was misplaced. -/
theorem held_of_invoke (op : Operation) (hop : op ≠ .deleteKey) {method : MethodCall} {α : Type}
    {x : Native α} {a : α}
    (hx : x.run.Calls Local) (hprogram : op.program kit = do let _ ← x; pure ())
    {phrase address : String}
    (hestablished : ∀ ws, x.run.run Device.execute s.device ws = (s'.device, some (.ok a)) →
      Established kit phrase address (x.run.steps Device.execute s.device ws) s'.device)
    (hrun : (invoke method x).run.run (Deployment.execute b apiKey) s vs = (s', some (.ok a))) :
    Derives kit phrase address ∧
      ((∃ t ∈ (invoke method x).run.steps (Deployment.execute b apiKey) s vs,
        Misplaces (onDevice t)) ∨
        s'.device.Holds kit address) := by
  obtain ⟨ws, hnative, hsteps⟩ := native_of_invoke hx hrun
  have hdone := hestablished ws hnative
  have hdevice : (x.run.run Device.execute s.device ws).1 = s'.device := congrArg Prod.fst hnative
  rw [← hdevice] at hdone ⊢
  refine ⟨hdone.derives, (hdone.holds hop hprogram).imp_left ?_⟩
  rintro ⟨t, ht, hmisplaces⟩
  obtain ⟨t', ht', rfl⟩ := hsteps t ht
  exact ⟨t', ht', hmisplaces⟩

/-- The wallet of the phrase is open, under an address that the backend knows. -/
structure Reopened (kit : Kit) (phrase address : String) (steps : List DeployedStep)
    (s : Deployment) : Prop where
  derives : Derives kit phrase address
  known : s.server.ledger.findIdByPubkey address ≠ none
  held : (∃ t ∈ steps, Misplaces (onDevice t)) ∨ s.device.Holds kit address

theorem Reopened.mono {phrase address : String} {steps steps' : List DeployedStep}
    (h : Reopened kit phrase address steps s)
    (hsub : steps ⊆ steps') : Reopened kit phrase address steps' s := by
  refine ⟨h.derives, h.known, h.held.imp_left ?_⟩
  rintro ⟨t, ht, hmisplaces⟩
  exact ⟨t, hsub ht, hmisplaces⟩

theorem Reopened.congr {phrase phrase' address : String} {steps : List DeployedStep}
    (h : Reopened kit phrase address steps s)
    (hsame : Mnemonic.normalize kit.toPrimitives phrase' =
      Mnemonic.normalize kit.toPrimitives phrase) :
    Reopened kit phrase' address steps s := ⟨h.derives.congr hsame, h.known, h.held⟩

theorem opened_of_restore {keys : Option String} (hgateway : b.gateway = .fromEnv keys)
    {mnemonic : String} {chain : Chain}
    {wallet : XendWallet}
    (hclock : ∀ t ∈ (XendWallet.restore kit mnemonic chain).run.steps (Deployment.execute b apiKey)
      s vs, t.verdict.Timely)
    (hrun : (XendWallet.restore kit mnemonic chain).run.run (Deployment.execute b apiKey) s vs =
      (s', some (.ok wallet))) :
    Reopened kit (trim mnemonic) wallet.address
      ((XendWallet.restore kit mnemonic chain).run.steps (Deployment.execute b apiKey) s vs)
        s' := by
  by_cases hchain : chain = .solana
  · simp only [XendWallet.restore, requireSolana, hchain, if_true, pure_bind] at hrun hclock ⊢
    obtain ⟨address, s₁, vs₁, hrestore, hrest, hsteps⟩ := run_bind_ok hrun
    obtain ⟨walletId, s₂, vs₂, hregister, hreturn, hsteps₁⟩ := run_bind_ok hrest
    obtain ⟨rfl, hwallet⟩ := Prod.mk.inj hreturn
    obtain rfl := Except.ok.inj (Option.some.inj hwallet)
    rw [hsteps, hsteps₁] at hclock ⊢
    obtain ⟨hderives, hheld⟩ :=
      held_of_invoke (.restore (trim mnemonic)) (by simp) (local_restore kit _) rfl
      (fun _ => restored_of_run) hrestore
    obtain ⟨hdevice, hregistered⟩ :=
      registered_of_run hgateway (fun t ht => hclock t (by simp [ht])) hregister
    have hopened : Reopened kit (trim mnemonic) address _ s₂ :=
      ⟨hderives, hregistered, hdevice ▸ hheld⟩
    exact hopened.mono (List.subset_append_left _ _)
  · simp only [XendWallet.restore, requireSolana, hchain, if_false] at hrun
    cases hrun

theorem opened_of_load {keys : Option String} (hgateway : b.gateway = .fromEnv keys)
    {phrase : String} {chain : Chain}
    (hpub : s.device.item .pub = none) (hseeds : ∀ place text, s.device.seed place = some text →
      Mnemonic.normalize kit.toPrimitives text =
        Mnemonic.normalize kit.toPrimitives phrase) {wallet : XendWallet}
    (hclock : ∀ t ∈ (XendWallet.load kit chain).run.steps (Deployment.execute b apiKey) s vs,
      t.verdict.Timely)
    (hrun : (XendWallet.load kit chain).run.run (Deployment.execute b apiKey) s vs =
      (s', some (.ok (some wallet)))) :
    Reopened kit phrase wallet.address
      ((XendWallet.load kit chain).run.steps (Deployment.execute b apiKey) s vs) s' := by
  have hlocal := local_loadOrRecover kit
  by_cases hchain : chain = .solana
  · simp only [XendWallet.load, requireSolana, hchain, if_true, pure_bind] at hrun hclock ⊢
    obtain ⟨result, s₁, vs₁, hload, hrest, hsteps⟩ := run_bind_ok hrun
    cases result with
    | none => cases hrest
    | some loaded =>
      have hrecovered : loaded.recovered = true := by
        obtain ⟨ws, hnative, -⟩ := native_of_invoke hlocal hload
        obtain ⟨-, -, -, hrecovered, -⟩ := loaded_of_run hpub hnative
        exact hrecovered
      simp only [hrecovered, if_true] at hrest hsteps
      obtain ⟨walletId, s₂, vs₂, hregister, hreturn, hsteps₁⟩ := run_bind_ok hrest
      obtain ⟨rfl, hwallet⟩ := Prod.mk.inj hreturn
      obtain rfl := Option.some.inj (Except.ok.inj (Option.some.inj hwallet))
      rw [hsteps, hsteps₁] at hclock ⊢
      obtain ⟨hderives, hheld⟩ := held_of_invoke .loadOrRecover (by simp) hlocal rfl
        (fun ws hnative => by
          obtain ⟨place, text, hseed, -, hestablished⟩ := loaded_of_run hpub hnative
          exact hestablished.congr (hseeds place text hseed)) hload
      obtain ⟨hdevice, hregistered⟩ :=
        registered_of_run hgateway (fun t ht => hclock t (by simp [ht])) hregister
      have hopened : Reopened kit phrase loaded.address _ s₂ :=
        ⟨hderives, hregistered, hdevice ▸ hheld⟩
      exact hopened.mono (List.subset_append_left _ _)
  · simp only [XendWallet.load, requireSolana, hchain, if_false] at hrun
    cases hrun

theorem opened_of_run {keys : Option String} (hgateway : b.gateway = .fromEnv keys)
    {phrase : String} {opening : Opening}
    (hopening : Reopens kit phrase s.device opening) {wallet : XendWallet}
    (hclock : ∀ t ∈ (opening.program kit).run.steps (Deployment.execute b apiKey) s vs,
      t.verdict.Timely)
    (hrun : (opening.program kit).run.run (Deployment.execute b apiKey) s vs =
      (s', some (.ok (some wallet)))) :
    Reopened kit phrase wallet.address
      ((opening.program kit).run.steps (Deployment.execute b apiKey) s vs) s' := by
  cases hopening with
  | restore hsame =>
    obtain ⟨restored, s₁, vs₁, hrestore, hreturn, hsteps⟩ := run_bind_ok hrun
    obtain ⟨rfl, hwallet⟩ := Prod.mk.inj hreturn
    obtain rfl := Option.some.inj (Except.ok.inj (Option.some.inj hwallet))
    rw [Opening.program, hsteps] at hclock ⊢
    have hopened := opened_of_restore hgateway (fun t ht => hclock t (by simp [ht])) hrestore
    exact (hopened.mono (List.subset_append_left _ _)).congr hsame.symm
  | load hpub hseeds => exact opened_of_load hgateway hpub hseeds hclock hrun

/-- A phrase that is revealed on a phone in working order brings back its wallet wherever
it is typed in or found in the vault: under the same address, which the backend knows, and
in working order unless a new key is found only after an older one. -/
theorem wallet_reopened {keys : Option String} (hgateway : b.gateway = .fromEnv keys)
    {old wallet : XendWallet}
    (hworking : s.device.Working kit old.address) {reason phrase : String}
    (hreveal : (old.revealRecoveryPhrase reason).run.run (Deployment.execute b apiKey) s vs =
      (s', some (.ok phrase)))
    {s₁ s₂ : Deployment} {ws : List Circumstance} {opening : Opening}
    (hopening : Reopens kit phrase s₁.device opening)
    (hclock : ∀ t ∈ (opening.program kit).run.steps (Deployment.execute b apiKey') s₁ ws,
      t.verdict.Timely)
    (hopen : (opening.program kit).run.run (Deployment.execute b apiKey') s₁ ws =
      (s₂, some (.ok (some wallet)))) :
    wallet.address = old.address ∧ s₂.server.ledger.findIdByPubkey old.address ≠ none ∧
      ((∃ t ∈ (opening.program kit).run.steps (Deployment.execute b apiKey') s₁ ws,
        Misplaces (onDevice t)) ∨
        s₂.device.Holds kit old.address) := by
  have hopened := opened_of_run hgateway hopening hclock hopen
  have hrevealed : Derives kit phrase old.address := by
    by_cases hchain : old.chain = .solana
    · simp only [XendWallet.revealRecoveryPhrase, requireSolana, hchain,
        if_true, pure_bind] at hreveal
      obtain ⟨us, hnative, -⟩ := native_of_invoke (local_revealMnemonic reason) hreveal
      exact revealed_of_run hworking hnative
    · simp only [XendWallet.revealRecoveryPhrase, requireSolana, hchain, if_false] at hreveal
      cases hreveal
  obtain hsame : old.address = wallet.address := hopened.derives.unique hrevealed
  rw [hsame]
  exact ⟨rfl, hopened.known, hopened.held⟩

end Deployed

section Sample

open BackendClient Reference XendWallet

variable {b : Backend} {apiKey : Option String} {s : Deployment}

theorem answered_on_device {α : Type} {p : Prog Call Reply α} (hp : p.Calls Local)
    (answer : Call → Circumstance)
    (s : Deployment) :
    p.answered (Deployment.execute b apiKey) answer s =
      (⟨(p.answered Device.execute (fun c => (answer c).native) s.device).1, s.server⟩,
        (p.answered Device.execute (fun c => (answer c).native) s.device).2) := by
  induction p generalizing s with
  | done a => rfl
  | call c k ih =>
    have hexecute : s.execute b apiKey c (answer c) =
        (⟨(s.device.execute c (answer c).native).1, s.server⟩,
          (s.device.execute c (answer c).native).2) := by
      cases c with
      | http request => exact absurd rfl (hp.1 request)
      | _ => rfl
    simp only [Prog.answered, hexecute]
    exact ih _ (hp.2 _) _

/-- Every call is carried out, on the phone and behind the network. -/
def obliging (c : Call) : Circumstance :=
  { sampleCircumstance with native := sampleService.answer c }

theorem obliged_invoke {method : MethodCall} {α : Type} {x : Native α} {a : α} {d : Device}
    (hx : x.run.Calls Local)
    (h : served sampleService x s.device = (d, .ok a)) :
    (invoke method x).run.answered (Deployment.execute b apiKey) obliging s =
      (⟨d, s.server⟩, .ok a) := by
  have hserved : (invoke method x).run.answered Device.execute sampleService.answer s.device =
      (d, .ok a) := invoke_served h
  rw [answered_on_device (calls_invoke (by nofun) hx)]
  exact congrArg
    (fun out : Device × Except (Halt DartError) α => ((⟨out.1, s.server⟩ : Deployment), out.2))
      hserved

theorem address_valid {kit : Kit} {privateKey : PrivateKey} {address : String}
    (h : SecureSigner.address kit privateKey = some address) :
    validateSolanaPubkey sampleWeb.bs58 address = .ok () :=
  validateSolanaPubkey_eq_ok.mpr
    ⟨_, Base58.decode_eq_some_iff.mpr (Base58.encode_spells h), (kit.publicKey privateKey).2⟩

theorem register_sample {address : String}
    (hvalid : validateSolanaPubkey sampleWeb.bs58 address = .ok ()) (d : Device) :
    ∃ server walletId,
    (BackendClient.registerWallet address none).run.answered
      (Deployment.execute sampleBackend none) obliging
      ⟨d, ⟨∅, .empty ∅⟩⟩ = (⟨d, server⟩, .ok walletId) := by
  have hhandler : ∃ l walletId,
      (ApiResponse.wallet <$> sampleWeb.toTextFormats.register address).run.run Ledger.execute
      (.empty ∅) (List.replicate 5 (landed true)) =
        (l, some (.ok (.wallet (.registered walletId address)))) := by
    rw [ExceptT.run_map, Prog.run_map]
    rcases run_register sampleWeb.toTextFormats (.empty ∅) address
      (List.replicate 5 (landed true)) with
      ⟨v, rest, hvs, -, hrun⟩ | ⟨hinvalid | hnil, -⟩
    · obtain ⟨rfl, -⟩ := List.cons.inj hvs
      rw [hrun]
      exact ⟨_, _, rfl⟩
    · exact absurd hvalid hinvalid
    · cases hnil
  obtain ⟨l, walletId, hrun⟩ := hhandler
  have hperformed : performed sampleBackend ⟨∅, .empty ∅⟩
      (sampleCircumstance.arrived none (Method.registerWallet address none).request)
        (Method.registerWallet address none).asked =
        (⟨sampleWindows 1, l⟩, some (.ok (.wallet (.registered walletId address)))) :=
    performed_of_run rfl hrun
  exact ⟨_, _,
    answered_method (m := .registerWallet address none) trivial rfl rfl hperformed rfl trivial⟩

/-- A phone that serves the reveal shows the phrase to the app. -/
theorem reveal_sample {d d' : Device} {phrase : String}
    (h : served sampleService (SecureSigner.revealMnemonic "Show") d = (d', .ok phrase))
    (wallet : XendWallet)
    (hchain : wallet.chain = .solana) (server : ServerState) :
    ∃ vs, (wallet.revealRecoveryPhrase "Show").run.run (Deployment.execute sampleBackend none)
      ⟨d, server⟩ vs =
      (⟨d', server⟩, some (.ok phrase)) := by
  have hanswered : (wallet.revealRecoveryPhrase "Show").run.answered
      (Deployment.execute sampleBackend none) obliging
      ⟨d, server⟩ = (⟨d', server⟩, .ok phrase) := by
    simp only [XendWallet.revealRecoveryPhrase, requireSolana, hchain, if_true, pure_bind]
    exact obliged_invoke (local_revealMnemonic "Show") h
  exact Prog.exists_run hanswered

/-- An opening whose calls are all carried out, at a time the clock holds. -/
theorem opening_sample {kit : Kit} {opening : Opening} {s s' : Deployment} {wallet : XendWallet}
    (h : (opening.program kit).run.answered (Deployment.execute sampleBackend none) obliging s =
      (s', .ok (some wallet))) :
    ∃ ws, (opening.program kit).run.run (Deployment.execute sampleBackend none) s ws =
        (s', some (.ok (some wallet))) ∧
      ∀ t ∈ (opening.program kit).run.steps (Deployment.execute sampleBackend none) s ws,
      t.verdict.Timely := by
  obtain ⟨ws, hrun, hsteps⟩ :=
    Prog.run_answered (Deployment.execute sampleBackend none) obliging (opening.program kit).run s
  rw [h] at hrun
  refine ⟨ws, hrun, fun t ht => ?_⟩
  rw [hsteps t ht]
  exact show 0 + 90 < 2 ^ 63 by omega

/-- A phone with nothing but the phrase in its synced vault loads a wallet. -/
theorem load_sample {kit : Kit} {d : Device} {phrase : String} (hpub : d.item .pub = none)
    (hseed : d.item (.seedVault true) = some (.plain (utf8 phrase))) :
    ∃ s' wallet ws,
    (Opening.program kit (.load .solana)).run.run (Deployment.execute sampleBackend none)
        ⟨d, ⟨∅, .empty ∅⟩⟩ ws = (s', some (.ok (some wallet))) ∧
      ∀ t ∈ (Opening.program kit (.load .solana)).run.steps (Deployment.execute sampleBackend none)
        ⟨d, ⟨∅, .empty ∅⟩⟩ ws, t.verdict.Timely := by
  have hreads : sampleService.reads (.seedVault true) = errSecSuccess := rfl
  obtain ⟨d₁, privateKey, address, -, haddress, hload⟩ := loadOrRecover_seeded hreads hpub hseed kit
  obtain ⟨server, walletId, hregister⟩ := register_sample (address_valid haddress) d₁
  have hopened :
      (XendWallet.load kit .solana).run.answered (Deployment.execute sampleBackend none) obliging
      ⟨d, ⟨∅, .empty ∅⟩⟩ = (⟨d₁, server⟩, .ok (some ⟨address, .solana⟩)) := by
    simp only [XendWallet.load, requireSolana, if_true, pure_bind]
    rw [answered_exceptBind (obliged_invoke (local_loadOrRecover kit) hload)]
    simp only [if_true]
    rw [answered_exceptBind hregister]
    rfl
  exact ⟨_, _, opening_sample hopened⟩

/-- A phrase the phone accepts is restored. -/
theorem restore_sample {kit : Kit} {mnemonic : String}
    (hvalid : Mnemonic.validate kit.toPrimitives (trim mnemonic) = .ok ()) (d : Device) :
    ∃ s' wallet ws,
    (Opening.program kit (.restore mnemonic .solana)).run.run
      (Deployment.execute sampleBackend none)
        ⟨d, ⟨∅, .empty ∅⟩⟩ ws = (s', some (.ok (some wallet))) ∧
      ∀ t ∈ (Opening.program kit (.restore mnemonic .solana)).run.steps
        (Deployment.execute sampleBackend none)
        ⟨d, ⟨∅, .empty ∅⟩⟩ ws, t.verdict.Timely := by
  obtain ⟨d₁, privateKey, address, haddress, hrestore⟩ :=
    SecureSigner.restore_served sampleService d kit hvalid
  obtain ⟨server, walletId, hregister⟩ := register_sample (address_valid haddress) d₁
  have hrestored : (XendWallet.restore kit mnemonic .solana).run.answered
      (Deployment.execute sampleBackend none)
      obliging ⟨d, ⟨∅, .empty ∅⟩⟩ = (⟨d₁, server⟩, .ok ⟨address, .solana⟩) := by
    simp only [XendWallet.restore, requireSolana, if_true, pure_bind]
    rw [answered_exceptBind (obliged_invoke (local_restore kit _) hrestore),
      answered_exceptBind hregister]
    rfl
  have hopened : (Opening.program kit (.restore mnemonic .solana)).run.answered
      (Deployment.execute sampleBackend none) obliging ⟨d, ⟨∅, .empty ∅⟩⟩ =
        (⟨d₁, server⟩, .ok (some ⟨address, .solana⟩)) := by
    rw [Opening.program, answered_exceptBind hrestored]
    rfl
  exact ⟨_, _, opening_sample hopened⟩

def ideographicSpace : Char := Char.ofNat 0x3000

def widened (text : String) : String :=
  String.ofList (text.toList.map fun c => if c = ' ' then ideographicSpace else c)

/-- Normalization as it is on ASCII and the ideographic space. -/
def wideKit : Kit :=
  { sampleKit with
    decomposedStringWithCompatibilityMapping := fun text =>
      String.ofList (text.toList.map fun c => if c = ideographicSpace then ' ' else c) }

theorem normalize_widened (text : String) :
    Mnemonic.normalize wideKit.toPrimitives (widened text) =
      Mnemonic.normalize wideKit.toPrimitives text := by
  have hpoint : ∀ c : Char,
      (if (if c = ' ' then ideographicSpace else c) = ideographicSpace then ' ' else
      if c = ' ' then ideographicSpace else c) = if c = ideographicSpace then ' ' else c := by
    intro c
    by_cases hc : c = ' '
    · simp [hc]
    · simp [hc]
  simp only [Mnemonic.normalize, wideKit, widened, String.toList_ofList, List.map_map,
    Function.comp_def, hpoint]

theorem trim_widened (text : String) : trim (widened text) = widened (trim text) := by
  have hspace : (isSpace ∘ fun c => if c = ' ' then ideographicSpace else c) = isSpace := by
    funext c
    by_cases hc : c = ' '
    · simp only [Function.comp_apply, hc, if_true]
      rfl
    · simp [hc]
  simp only [trim, widened, String.toList_ofList, List.dropWhile_map, hspace, ← List.map_reverse]

def zeroWords : List String := List.replicate 11 "abandon" ++ ["about"]

theorem trim_zeroWords : trim (Mnemonic.joined zeroWords) = Mnemonic.joined zeroWords := by
  simp only [trim, Mnemonic.joined, String.toList_ofList]
  exact congrArg String.ofList rfl

theorem widened_zeroWords : widened (Mnemonic.joined zeroWords) ≠ Mnemonic.joined zeroWords := by
  intro h
  have hchars := congrArg String.toList h
  simp only [widened, Mnemonic.joined, String.toList_ofList] at hchars
  exact absurd (congrArg (fun cs => cs[7]?) hchars) (by decide)

theorem entropy_zeroWords :
    Mnemonic.entropy wideKit.toPrimitives (Mnemonic.joined zeroWords) =
      .ok (List.replicate 16 0) := by
  have habandon : "abandon" ∈ Bip39Wordlist.words := List.mem_of_getElem? (i := 0) rfl
  have habout : "about" ∈ Bip39Wordlist.words := List.mem_of_getElem? (i := 3) rfl
  have hnormal : Mnemonic.normalize wideKit.toPrimitives (Mnemonic.joined zeroWords) =
      Mnemonic.joined zeroWords := by
    simp only [Mnemonic.normalize, wideKit, Mnemonic.joined, String.toList_ofList]
    exact congrArg String.ofList rfl
  have hsplit : Mnemonic.split (Mnemonic.joined zeroWords) =
      Mnemonic.split (Mnemonic.normalize Mnemonic.zeroPrimitives (Mnemonic.zeroPhrase " ")) := by
    rw [Mnemonic.zeroPhrase_split " " (.inl rfl)]
    exact Mnemonic.split_joined (by simp [zeroWords]) (by simp [zeroWords, habandon, habout])
  rw [← Mnemonic.zeroPhrase_entropy " " (.inl rfl), Mnemonic.entropy,
    Mnemonic.entropy, hnormal, hsplit]
  rfl

theorem wallet_reopened_sample : ∃ (old loaded restored : XendWallet) (phrase : String)
      (s s' s₁ s₂ t₁ t₂ : Deployment) (vs ws us : List Circumstance),
    (old.revealRecoveryPhrase "Show").run.run (Deployment.execute sampleBackend none) s vs =
      (s', some (.ok phrase)) ∧
      (Opening.program wideKit (.load .solana)).run.run
        (Deployment.execute sampleBackend none) s₁ ws =
        (s₂, some (.ok (some loaded))) ∧
      (loaded.address = old.address ∧ s₂.server.ledger.findIdByPubkey old.address ≠ none) ∧
      widened phrase ≠ phrase ∧
      (Opening.program wideKit (.restore (widened phrase) .solana)).run.run
        (Deployment.execute sampleBackend none)
        t₁ us = (t₂, some (.ok (some restored))) ∧
      restored.address = old.address ∧ t₂.server.ledger.findIdByPubkey old.address ≠ none := by
  obtain ⟨d, privateKey, phrase, address, hencode, hkey, haddress, -,
      ⟨-, key, hhead, hciphertext, hmnemonic⟩, -⟩ :=
    SecureSigner.generateKeyPair_served sampleService Device.blank wideKit
  obtain ⟨htrim, hwidened, hentropy⟩ : trim phrase = phrase ∧ widened phrase ≠ phrase ∧
      Mnemonic.entropy wideKit.toPrimitives phrase = .ok (List.replicate 16 0) := by
    rw [← Option.some.inj ((Mnemonic.encode_of_entropy entropy_zeroWords).symm.trans hencode)]
    exact ⟨trim_zeroWords, widened_zeroWords, entropy_zeroWords⟩
  have hworking : d.Working wideKit (⟨address, .solana⟩ : XendWallet).address :=
    ⟨key, privateKey, _, hhead, hciphertext, hmnemonic, haddress, hkey⟩
  have hcopy : d.HasCopy phrase .device := ⟨_, hmnemonic, key, _, hhead, rfl, ofUtf8_utf8 _⟩
  obtain ⟨vs, hreveal⟩ :=
    reveal_sample (Prod.ext rfl ((revealMnemonic_served sampleService d rfl "Show").mpr hcopy))
    ⟨address, .solana⟩ rfl ⟨∅, .empty ∅⟩
  have hgateway : sampleBackend.gateway = .fromEnv none := rfl
  -- The vault of another phone of the same account holds the seed as it is.
  have hseed : (Device.blank.put (.seedVault true) (.plain (utf8 phrase))).item
      (.seedVault true) = some (.plain (utf8 phrase)) := Device.put_self ..
  have hpub : (Device.blank.put (.seedVault true) (.plain (utf8 phrase))).item .pub = none := by
    rw [Device.put_ne _ _ _ _ (by simp)]
    rfl
  obtain ⟨s₂, loaded, ws, hload, hloadClock⟩ := @load_sample wideKit _ _ hpub hseed
  have hfound : Reopens wideKit phrase
      (Device.blank.put (.seedVault true) (.plain (utf8 phrase))) (.load .solana) := by
    refine .load hpub fun place text htext => ?_
    cases place with
    | true =>
      rw [Device.seed, hseed, Option.bind_some, Data.text, ofUtf8_utf8] at htext
      rw [Option.some.inj htext]
    | false =>
      rw [Device.seed, Device.put_ne _ _ _ _ (by simp)] at htext
      cases htext
  have hspelled : Mnemonic.normalize wideKit.toPrimitives (trim (widened phrase)) =
      Mnemonic.normalize wideKit.toPrimitives phrase := by
    rw [trim_widened, htrim, normalize_widened]
  have hvalid : Mnemonic.validate wideKit.toPrimitives (trim (widened phrase)) = .ok () := by
    rw [Mnemonic.validate, Mnemonic.entropy, hspelled]
    exact congrArg (· >>= fun _ => Except.ok ()) hentropy
  obtain ⟨t₂, restored, us, hrestore, hrestoreClock⟩ := restore_sample hvalid Device.blank
  obtain ⟨hloaded, hloadedKnown, -⟩ :=
    wallet_reopened hgateway hworking hreveal hfound hloadClock hload
  obtain ⟨hrestored, hrestoredKnown, -⟩ :=
    wallet_reopened hgateway hworking hreveal (.restore hspelled) hrestoreClock hrestore
  exact ⟨⟨address, .solana⟩, loaded, restored, _, _, _, _, s₂, _, t₂, vs, ws, us, hreveal, hload,
    ⟨hloaded, hloadedKnown⟩, hwidened, hrestore, hrestored, hrestoredKnown⟩

end Sample

end Xend.Sdk
