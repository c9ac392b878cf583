import Xend.BuildEndpoint
import Xend.Retention
import Xend.SubmitRuns
import Xend.WalletEndpoints

/-! Whether the backend knows the wallets that `create`, `load` and `restore` return,
over every sequence of them and every point of failure. -/

namespace Xend.Sdk

open Framing Interaction

/-- The phone, and the ledger of the backend. -/
structure World where
  device : Device
  ledger : Ledger

/-- What the phone can be told of a request that did not succeed. -/
abbrev Refusal :=
  {response : Option Response // ∀ body, BackendClient.decodeResponse response ≠ .ok body}

/-- How one call is answered. A request meets the verdicts of the database, none if it
never arrives; the phone hears of its success, or is told `refusal`. -/
structure Exchange where
  phone : Verdict
  database : List Xend.Verdict
  delivered : Bool
  refusal : Refusal

def registerPubkey (json : Json) : Option String := do
  let pubkey ← (json.field "pubkey").asStr
  let _ ← (json.field "label").asOptionalStr
  some pubkey

def registeredResponse (walletId : Nat) (pubkey : String) : Response :=
  ⟨200, .json (.obj [("wallet_id", .str (toString walletId)), ("pubkey", .str pubkey)])⟩

namespace World

variable (formats : TextFormats)

def register (w : World) (pubkey : String) (v : Exchange) : World × Option Response :=
  let out := (formats.register pubkey).run.run Ledger.execute w.ledger v.database
  ({ w with ledger := out.1 },
    match v.delivered, out.2 with
    | true, some (.ok (.registered walletId pubkey)) => some (registeredResponse walletId pubkey)
    | _, _ => v.refusal.1)

def execute (w : World) : (c : Call) → Exchange → World × Reply c
  | .http (.post path json), v =>
    if path = "/v1/wallets" then
      (registerPubkey json).elim (w, v.refusal.1) fun pubkey => w.register formats pubkey v
    else (w, v.phone.response)
  | .http (.get _ _), v => (w, v.phone.response)
  | c, v => ({ w with device := (w.device.execute c v.phone).1 }, (w.device.execute c v.phone).2)

def Registered (w : World) (address : String) : Prop := w.ledger.findIdByPubkey address ≠ none

/-- The backend knows the address on the phone. -/
def Known (w : World) : Prop := ∀ address, w.device.address = some address → w.Registered address

end World

inductive Opening where
  | create (label : Option String) (chain : Chain)
  | load (chain : Chain)
  | restore (mnemonic : String) (chain : Chain)

def Opening.program (kit : Kit) : Opening → Dart (Option XendWallet)
  | create label chain => do
    let wallet ← XendWallet.create kit label chain
    pure (some wallet)
  | load chain => XendWallet.load kit chain
  | restore mnemonic chain => do
    let wallet ← XendWallet.restore kit mnemonic chain
    pure (some wallet)

abbrev WorldStep := Step Call World Exchange

/-- The call stores an address that the backend does not know. -/
def Strays (t : WorldStep) : Prop :=
  t.verdict.phone.status = errSecSuccess ∧ t.before.device.item .pub = none ∧
    ∃ data address, t.call = .secItemAdd .pub data ∧ data.text = some address ∧
    ¬ t.before.Registered address

/-- The request reaches the backend, and the database carries it out. -/
def Exchange.Lands (formats : TextFormats) (v : Exchange) (pubkey : String) : Prop :=
  validateSolanaPubkey formats.bs58 pubkey = .ok () ∧
    ∃ first rest, v.database = first :: rest ∧ ∀ o, first.outage = some o → o.applied = true

def Registers (formats : TextFormats) (t : WorldStep) : Prop :=
  ∃ json pubkey, t.call = .http (.post "/v1/wallets" json) ∧ registerPubkey json = some pubkey ∧
    t.verdict.Lands formats pubkey

/-- Where a new address is stored, its registration follows. -/
def FollowedUp (formats : TextFormats) (steps : List WorldStep) : Prop :=
  (∃ t ∈ steps, Strays t) → ∃ t ∈ steps, Registers formats t

section Backend

variable {formats : TextFormats} {l : Ledger} {pubkey : String} {vs : List Xend.Verdict}

/-- The handler either gets as far as its one query, or changes nothing. -/
theorem run_register (formats : TextFormats) (l : Ledger) (pubkey : String)
    (vs : List Xend.Verdict) :
    (∃ v rest, vs = v :: rest ∧ validateSolanaPubkey formats.bs58 pubkey = .ok () ∧
      (formats.register pubkey).run.run Ledger.execute l vs = ((l.execute (.upsert pubkey) v).1,
        some ((l.execute (.upsert pubkey) v).2.map fun walletId => .registered walletId pubkey))) ∨
    (validateSolanaPubkey formats.bs58 pubkey ≠ .ok () ∨ vs = []) ∧
      ((formats.register pubkey).run.run Ledger.execute l vs).1 = l ∧
      ∀ r, ((formats.register pubkey).run.run Ledger.execute l vs).2 ≠ some (.ok r) := by
  have hrun : (formats.register pubkey).run =
      ((WalletRequest.register pubkey).begin formats).resume :=
    run_handle formats (.register pubkey)
  rw [hrun, WalletRequest.begin]
  cases hvalid : validateSolanaPubkey formats.bs58 pubkey with
  | error e => exact .inr ⟨.inl (by simp), rfl, by simp [WalletPhase.resume, Prog.run]⟩
  | ok _ =>
    dsimp only
    rw [WalletPhase.resume_upsert]
    cases vs with
    | nil => exact .inr ⟨.inr rfl, rfl, by simp [Prog.run]⟩
    | cons v rest =>
      refine .inl ⟨v, rest, rfl, rfl, ?_⟩
      rw [Prog.run]
      cases (l.execute (.upsert pubkey) v).2 <;> rfl

theorem upsert_applied {v : Xend.Verdict} (h : ∀ o, v.outage = some o → o.applied = true) :
    (l.execute (.upsert pubkey) v).1.findIdByPubkey pubkey ≠ none := by
  have hserved : (l.execute (.upsert pubkey) v).1 = (l.upsert pubkey).1 := by
    simp only [Ledger.execute, Xend.Call.isBroadcast, Bool.false_eq_true, if_false]
    cases ho : v.outage with
    | none => rfl
    | some o => simp only [h o ho, if_true, Ledger.serve]
  rw [hserved, l.upsert_finds]
  exact Option.some_ne_none _

variable {w : World} {v : Exchange} {address : String}

theorem World.registered_kept {l : Ledger} (h : w.Registered address)
    (hl : l = w.ledger ∨ ∃ c v, l = (w.ledger.execute c v).1) :
    (⟨w.device, l⟩ : World).Registered address := by
  obtain ⟨walletId, hid⟩ := Option.ne_none_iff_exists'.mp h
  rcases hl with rfl | ⟨c, v, rfl⟩
  · exact h
  · simp [Registered, Ledger.execute_wallet_kept hid]

theorem World.register_cases (formats : TextFormats) (w : World) (pubkey : String) (v : Exchange) :
    (v.Lands formats pubkey ∧ (w.register formats pubkey v).1.Registered pubkey ∨
      ¬ v.Lands formats pubkey ∧ (w.register formats pubkey v).2 = v.refusal.1) ∧
    (w.register formats pubkey v).1.device = w.device ∧
      ∀ address, w.Registered address → (w.register formats pubkey v).1.Registered address := by
  rcases run_register formats w.ledger pubkey v.database with
    ⟨first, rest, hvs, hvalid, hrun⟩ | ⟨hstuck, hkept, herror⟩
  · refine ⟨?_, rfl, fun address h => ?_⟩
    · by_cases happlied : ∀ o, first.outage = some o → o.applied = true
      · refine .inl ⟨⟨hvalid, first, rest, hvs, happlied⟩, ?_⟩
        rw [register, hrun]
        exact upsert_applied happlied
      · refine .inr ⟨fun hlands => ?_, ?_⟩
        · obtain ⟨-, first', rest', hvs', happlied'⟩ := hlands
          rw [hvs] at hvs'
          cases hvs'
          exact happlied happlied'
        · push Not at happlied
          obtain ⟨o, ho, -⟩ := happlied
          have hreply : (w.ledger.execute (.upsert pubkey) first).2 =
              .error (.database o.detail) := by
            simp only [Ledger.execute, Xend.Call.isBroadcast, Bool.false_eq_true, if_false, ho]
          rw [register, hrun, hreply]
          cases v.delivered <;> rfl
    · rw [register, hrun]
      exact registered_kept h (.inr ⟨_, _, rfl⟩)
  · refine ⟨.inr ⟨?_, ?_⟩, rfl, fun address h => ?_⟩
    · rintro ⟨hvalid, first, rest, hvs, -⟩
      rcases hstuck with hinvalid | hnil
      · exact hinvalid hvalid
      · rw [hnil] at hvs
        cases hvs
    · rw [register]
      cases v.delivered with
      | false => rfl
      | true =>
        cases hout : ((formats.register pubkey).run.run Ledger.execute w.ledger v.database).2 with
        | none => rfl
        | some r =>
          cases r with
          | error e => rfl
          | ok r => exact absurd hout (herror r)
    · rw [register, hkept]
      exact h

end Backend

section Device

variable {formats : TextFormats} {w : World} {c : Call} {v : Exchange} {s : World × List WorldStep}

theorem World.execute_device (formats : TextFormats) (w : World)
    (hc : ∀ request, c ≠ .http request) (v : Exchange) :
    w.execute formats c v =
      (⟨(w.device.execute c v.phone).1, w.ledger⟩, (w.device.execute c v.phone).2) := by
  cases c with
  | http request => exact absurd rfl (hc request)
  | _ => rfl

theorem World.Known.device (h : w.Known) (formats : TextFormats)
    (hc : ∀ request, c ≠ .http request) (v : Exchange) :
    (w.execute formats c v).1.Known ∨ Strays ⟨w, c, v⟩ := by
  rw [w.execute_device formats hc]
  rcases w.device.execute_cases c v.phone with he | ⟨hs, he⟩
  · left
    rw [he]
    exact h
  · generalize (w.device.execute c v.phone).1 = d' at he
    cases he with
    | add item data hnone =>
      by_cases hpub : item = .pub
      · subst hpub
        by_cases hstray : ∃ address, data.text = some address ∧ ¬ w.Registered address
        · obtain ⟨address, htext, hnew⟩ := hstray
          exact .inr ⟨hs, hnone, data, address, rfl, htext, hnew⟩
        · refine .inl fun address ha => ?_
          rw [Device.address, Device.put_self, Option.bind_some] at ha
          by_contra hnew
          exact hstray ⟨address, ha, hnew⟩
      · refine .inl fun address ha => h address ?_
        rwa [Device.address, Device.put_ne _ _ _ _ (Ne.symm hpub)] at ha
    | delete items =>
      refine .inl fun address ha => h address ?_
      rw [Device.address, Device.remove_item] at ha
      split at ha
      · cases ha
      · exact ha
    | deleteKeys => exact .inl h
    | create flags inSecureEnclave => exact .inl h

abbrev observed (formats : TextFormats) :
    World × List WorldStep → (c : Call) → Exchange → (World × List WorldStep) × Reply c :=
  Prog.recording (World.execute formats)

/-- The backend knows the phone, or has yet to hear of the address stored last. -/
def Trusted (formats : TextFormats) (s : World × List WorldStep) : Prop :=
  s.1.Known ∨ (∃ t ∈ s.2, Strays t) ∧ ∀ t ∈ s.2, ¬ Registers formats t

/-- Nothing has been registered so far. -/
def Pending (formats : TextFormats) (s : World × List WorldStep) : Prop :=
  Trusted formats s ∧ ∀ t ∈ s.2, ¬ Registers formats t

theorem Pending.device (h : Pending formats s) (hc : ∀ request, c ≠ .http request) :
    Pending formats (observed formats s c v).1 := by
  have hquiet : ∀ t ∈ (observed formats s c v).1.2, ¬ Registers formats t := by
    refine List.forall_mem_cons.mpr ⟨?_, h.2⟩
    rintro ⟨json, pubkey, hcall, -⟩
    exact hc _ hcall
  refine ⟨?_, hquiet⟩
  rcases h.1 with hknown | ⟨⟨t, ht, hstray⟩, -⟩
  · rcases hknown.device formats hc v with hnext | hstray
    · exact .inl hnext
    · exact .inr ⟨⟨_, List.mem_cons_self, hstray⟩, hquiet⟩
  · exact .inr ⟨⟨t, List.mem_cons_of_mem _ ht, hstray⟩, hquiet⟩

end Device

section Native

variable {formats : TextFormats} {kit : Kit} {s : World × List WorldStep} {mnemonic : String}

abbrev Local (c : Call) : Prop := ∀ request, c ≠ .http request

theorem local_of_establishing {c : Call} (h : c.establishing = true) : Local c := by
  rintro request rfl
  simp [Call.establishing] at h

theorem local_keychainSet (item : Item) (data : Data) :
    (SecureSigner.keychainSet item data).run.Calls Local :=
  SecureSigner.calls_keychainSet (by nofun) (by nofun)

theorem local_storeRecoverySeed (mnemonic : String) :
    (SecureSigner.storeRecoverySeed mnemonic).run.Calls Local := by
  refine SecureSigner.calls_catching (local_keychainSet _ _) fun _ => ?_
  refine calls_bind (SecureSigner.calls_catching ?_ fun _ => trivial) fun _ => trivial
  exact calls_bind (local_keychainSet _ _) fun _ => trivial

theorem local_establish (kit : Kit) (privateKey : Bytes) (mnemonic : String) :
    (SecureSigner.establish kit privateKey mnemonic).run.Calls Local :=
  (SecureSigner.calls_establish kit privateKey mnemonic).mono fun _ => local_of_establishing

theorem local_generateKeyPair (kit : Kit) : (SecureSigner.generateKeyPair kit).run.Calls Local := by
  refine calls_bind (calls_bind (calls_request (by nofun)) fun _ => trivial) fun mnemonic => ?_
  refine calls_bind trivial fun privateKey =>
    calls_bind (local_establish kit privateKey mnemonic) fun _ => ?_
  exact calls_bind (local_storeRecoverySeed mnemonic) fun _ => trivial

theorem local_restore (kit : Kit) (mnemonic : String) :
    (SecureSigner.restore kit mnemonic).run.Calls Local := by
  have hvalidate : (SecureSigner.validate kit mnemonic).run.Calls Local := by
    unfold SecureSigner.validate
    split <;> trivial
  refine calls_bind hvalidate fun _ => calls_bind trivial fun privateKey => ?_
  refine calls_bind (local_establish kit privateKey mnemonic) fun _ => ?_
  exact calls_bind (local_storeRecoverySeed mnemonic) fun _ => trivial

theorem local_search (kit : Kit) (items : List Item) :
    (SecureSigner.search (SecureSigner.continueWith kit) items).Calls Local := by
  induction items with
  | nil => trivial
  | cons item rest ih =>
    refine ⟨by nofun, fun out => ?_⟩
    dsimp only
    cases SecureSigner.readText out with
    | none => exact ih
    | some text =>
      by_cases hpub : item = .pub
      · simp only [SecureSigner.continueWith, hpub, if_true]
        trivial
      · simp only [SecureSigner.continueWith, hpub, if_false]
        exact calls_bind trivial fun privateKey =>
          calls_bind (local_establish kit privateKey text) fun _ => trivial

theorem Pending.calls {α : Type} {Ok : Step Call (World × List WorldStep) Exchange → Prop}
    {p : Prog Call Reply α}
    (h : Pending formats s) (hp : p.Calls Local) :
    p.Spec (observed formats) Ok (Trusted formats) (fun _ => Pending formats) s :=
  hp.spec (fun _ _ _ hc h => h.device hc) (fun _ h => h.1) h

/-- What a call for an address leaves on the phone. -/
abbrev Leaves {α : Type} (formats : TextFormats) (x : Native α)
    (Q : α → World × List WorldStep → Prop)
    (s : World × List WorldStep) : Prop :=
  x.run.Spec (observed formats) (fun _ => True) (fun _ => True) (Ends (fun _ _ => True) Q) s

theorem leaves_any {α : Type} (x : Native α) : Leaves formats x (fun _ _ => True) s := by
  refine (Prog.spec_any x.run s).mono fun r _ _ _ => ?_
  cases r <;> trivial

theorem leaves_keychainSet (item : Item) (data : Data) :
    Leaves formats (SecureSigner.keychainSet item data)
      (fun _ s => s.1.device.item item = some data) s := by
  refine spec_bind (spec_request trivial fun v _ => ⟨trivial, ?_⟩)
  generalize (observed formats s (.secItemDelete [item]) v).1 = s
  refine spec_bind (spec_request trivial fun v _ => ⟨trivial, ?_⟩)
  by_cases hadd : v.phone.status = errSecSuccess ∧ s.1.device.item item = none
  · simp only [observed, Prog.recording, World.execute, Device.execute_add data hadd.1 hadd.2]
    exact spec_pure trivial (Device.put_self ..)
  · have hne := (Device.execute_add_of_ne data hadd).2
    simp only [SecureSigner.require, observed, Prog.recording, World.execute, hne, decide_false,
      Bool.false_eq_true, if_false]
    exact spec_attempt trivial trivial

theorem leaves_establish (kit : Kit) (privateKey : Bytes) (mnemonic : String) :
    Leaves formats (SecureSigner.establish kit privateKey mnemonic)
      (fun address s => s.1.device.address = some address) s := by
  refine spec_bind (spec_mono (leaves_any _) fun signingKey s _ _ => ?_)
  refine spec_bind (spec_mono (leaves_any _) fun address s _ _ => ?_)
  refine spec_bind (spec_mono (leaves_any _) fun key s _ _ => ?_)
  refine spec_bind
    (spec_mono (leaves_any _) fun _ s _ _ => spec_bind (spec_mono (leaves_any _) fun _ s _ _ => ?_))
  refine spec_bind
    (spec_mono (leaves_any _) fun _ s _ _ => spec_bind (spec_mono (leaves_any _) fun _ s _ _ => ?_))
  refine spec_bind
    (spec_mono (leaves_any _) fun _ s _ _ => spec_bind (spec_mono (leaves_any _) fun _ s _ _ => ?_))
  refine spec_bind
    (spec_mono (leaves_any _) fun _ s _ _ => spec_bind (spec_mono (leaves_any _) fun _ s _ _ => ?_))
  refine spec_bind (spec_mono (leaves_keychainSet _ _) fun _ s _ hitem => spec_pure trivial ?_)
  simp only [Device.address, hitem, Option.bind_some, Data.text, ofUtf8_utf8]

theorem World.seedOnly_pub (w : World) {c : Call} (hc : SeedOnly c) (v : Exchange) :
    (w.execute formats c v).1.device.item .pub = w.device.item .pub := by
  have hlocal : Local c := by
    rintro request rfl
    exact hc
  rw [w.execute_device formats hlocal]
  rcases w.device.execute_cases c v.phone with he | ⟨-, he⟩
  · rw [he]
  · generalize (w.device.execute c v.phone).1 = d' at he
    cases he with
    | add item data hnone =>
      obtain ⟨synchronizable, rfl⟩ := hc
      exact Device.put_ne _ _ _ _ (by simp)
    | delete items =>
      refine if_neg fun hpub => ?_
      obtain ⟨synchronizable, hitem⟩ := hc _ hpub
      cases hitem
    | deleteKeys => rfl
    | create flags inSecureEnclave => rfl

theorem leaves_storeRecoverySeed {address : String} (h : s.1.device.address = some address)
    (mnemonic : String) :
    Leaves formats (SecureSigner.storeRecoverySeed mnemonic)
      (fun _ s => s.1.device.address = some address) s := by
  have hstep : ∀ (s : World × List WorldStep) c v, SeedOnly c → s.1.device.address = some address →
      (observed formats s c v).1.1.device.address = some address := by
    intro s c v hc h
    rwa [Device.address, show (observed formats s c v).1.1.device.item .pub =
      _ from s.1.seedOnly_pub hc v]
  refine Prog.Spec.weaken
    ((storeRecoverySeed_spec (I := fun s => s.1.device.address = some address) hstep h
    mnemonic).mono fun r s _ hr => ?_) fun _ _ => trivial
  cases r with
  | ok _ => exact hr
  | error e => trivial

theorem leaves_generateKeyPair (kit : Kit) :
    Leaves formats (SecureSigner.generateKeyPair kit)
      (fun r s => s.1.device.address = some r.1) s := by
  refine spec_bind (spec_mono (leaves_any _) fun mnemonic s _ _ => ?_)
  refine spec_bind (spec_mono (leaves_any _) fun privateKey s _ _ => ?_)
  refine spec_bind (spec_mono (leaves_establish kit privateKey mnemonic) fun address s _ h => ?_)
  exact spec_bind (spec_mono (leaves_storeRecoverySeed h mnemonic)
    fun _ s _ h => spec_pure trivial h)

theorem leaves_restore (kit : Kit) (mnemonic : String) :
    Leaves formats (SecureSigner.restore kit mnemonic)
      (fun address s => s.1.device.address = some address) s := by
  refine spec_bind (spec_mono (leaves_any _) fun _ s _ _ => ?_)
  refine spec_bind (spec_mono (leaves_any _) fun privateKey s _ _ => ?_)
  refine spec_bind (spec_mono (leaves_establish kit privateKey mnemonic) fun address s _ h => ?_)
  exact spec_bind (spec_mono (leaves_storeRecoverySeed h mnemonic)
    fun _ s _ h => spec_pure trivial h)

/-- What is loaded is the address on the phone, which was there before unless it is recovered. -/
def Loads (w : World) (r : Option SecureSigner.Loaded) (s : World × List WorldStep) : Prop :=
  ∀ loaded, r = some loaded → s.1.device.address = some loaded.address ∧
    (loaded.recovered = false → s.1 = w)

theorem leaves_search (kit : Kit) (w : World) (items : List Item) (hs : s.1 = w) :
    (SecureSigner.search (SecureSigner.continueWith kit) items).Spec (observed formats)
      (fun _ => True) (fun _ => True)
      (Ends (fun _ _ => True) (Loads w)) s := by
  induction items generalizing s with
  | nil => exact ⟨trivial, fun loaded hl => by cases hl⟩
  | cons item rest ih =>
    refine ⟨trivial, fun v _ => ?_⟩
    obtain ⟨hkept, hread⟩ : (w.device.execute (.secItemCopyMatching item) v.phone).1 = w.device ∧
        SecureSigner.readText (w.device.execute (.secItemCopyMatching item) v.phone).2 =
          w.device.lookup (fun _ => v.phone.status) item := execute_read rfl
    have hnext : (observed formats s (.secItemCopyMatching item) v).1.1 = w := by
      simp only [observed, Prog.recording, World.execute, hs, hkept]
    have hreply : (observed formats s (.secItemCopyMatching item) v).2 =
        (w.device.execute (.secItemCopyMatching item) v.phone).2 := by
      simp only [observed, Prog.recording, World.execute, hs]
    generalize (observed formats s (.secItemCopyMatching item) v).1 = s' at hnext ⊢
    simp only [hreply, hread]
    cases hl : w.device.lookup (fun _ => v.phone.status) item with
    | none => exact ih hnext
    | some text =>
      by_cases hpub : item = .pub
      · subst hpub
        simp only [SecureSigner.continueWith, if_true]
        refine ⟨trivial, fun loaded hloaded => ?_⟩
        cases hloaded
        refine ⟨?_, fun _ => hnext⟩
        rw [Device.lookup] at hl
        split at hl
        · rw [hnext]
          exact hl
        · cases hl
      · simp only [SecureSigner.continueWith, hpub, if_false]
        refine spec_bind (spec_mono (leaves_any _) fun privateKey s _ _ => ?_)
        refine spec_bind (spec_mono (leaves_establish kit privateKey text)
          fun address s _ h => spec_pure trivial ?_)
        intro loaded hloaded
        cases hloaded
        exact ⟨h, fun hrec => by cases hrec⟩

end Native

section Openings

variable {formats : TextFormats} {kit : Kit} {s : World × List WorldStep}

/-- At every point the backend knows the phone, or has yet to hear of it. -/
abbrev Follows {α : Type} (formats : TextFormats) (x : Dart α)
    (Q : α → World × List WorldStep → Prop)
    (s : World × List WorldStep) : Prop :=
  x.run.Spec (observed formats) (fun _ => True) (Trusted formats) (Ends (fun _ _ => True) Q) s

theorem follows_requireSolana (h : Pending formats s) (chain : Chain) (call : String) :
    Follows formats (requireSolana chain call) (fun _ s' => s' = s) s := by
  unfold requireSolana
  split
  · exact spec_pure h.1 rfl
  · exact spec_attempt h.1 trivial

theorem follows_invoke {α : Type} {method : MethodCall} {x : Native α}
    {Q : α → World × List WorldStep → Prop}
    (h : Pending formats s) (hcalls : x.run.Calls Local)
    (hx : ∀ s', s'.1 = s.1 → Leaves formats x Q s') :
    Follows formats (invoke method x) (fun a s => Q a s ∧ Pending formats s) s := by
  refine spec_invoke h.1 fun v _ => ?_
  have hnext : Pending formats (observed formats s (.invokeMethod method) v).1 :=
    h.device (by nofun)
  refine ((hnext.calls hcalls).and (hx _ rfl)).mono fun r s _ hr => ?_
  cases r with
  | ok a => exact ⟨hr.2, hr.1⟩
  | error e => trivial

theorem follows_throwing {α : Type} {r : Except DartError α} {Q : α → World × List WorldStep → Prop}
    (h : Trusted formats s) (hQ : ∀ a, r = .ok a → Q a s) : Follows formats (throwing r) Q s := by
  refine spec_attempt h ?_
  cases r with
  | ok a => exact hQ a rfl
  | error e => trivial

theorem registerPubkey_request (address : String) (label : Option String) :
    registerPubkey (.obj (("pubkey", .str address) :: BackendClient.optional "label" label)) =
      some address := by
  cases label <;> rfl

theorem follows_registerWallet {address : String} (h : Pending formats s)
    (haddress : s.1.device.address = some address)
    (label : Option String) :
    Follows formats (BackendClient.registerWallet address label)
      (fun _ s => s.1.Registered address ∧ ∃ t ∈ s.2, Registers formats t) s := by
  obtain ⟨json, hjson⟩ : ∃ json,
      json = Json.obj (("pubkey", .str address) :: BackendClient.optional "label" label) :=
    ⟨_, rfl⟩
  have hpubkey : registerPubkey json = some address := hjson ▸ registerPubkey_request address label
  rw [BackendClient.registerWallet, ← hjson]
  refine spec_bind (spec_bind (spec_request h.1 fun v _ => ?_))
  have hexec : s.1.execute formats (.http (.post "/v1/wallets" json)) v =
      s.1.register formats address v := by
    simp only [World.execute, if_true, hpubkey, Option.elim_some]
  obtain ⟨hlands, hdevice, hkept⟩ := s.1.register_cases formats address v
  have hworld : (observed formats s (.http (.post "/v1/wallets" json)) v).1 =
      ((s.1.register formats address v).1, ⟨s.1, .http (.post "/v1/wallets" json), v⟩ :: s.2) := by
    simp only [observed, Prog.recording, hexec]
  have hreply : (observed formats s (.http (.post "/v1/wallets" json)) v).2 =
      (s.1.register formats address v).2 := by
    simp only [observed, Prog.recording, hexec]
  rw [hworld, hreply]
  rcases hlands with ⟨hland, hregistered⟩ | ⟨hmiss, hrefused⟩
  · have hknown : Trusted formats
        ((s.1.register formats address v).1,
          ⟨s.1, .http (.post "/v1/wallets" json), v⟩ :: s.2) := by
      refine .inl fun other hother => ?_
      rw [hdevice, haddress] at hother
      cases hother
      exact hregistered
    have hregisters : ∃ t ∈ (⟨s.1, .http (.post "/v1/wallets" json), v⟩ :: s.2 : List WorldStep),
        Registers formats t :=
      ⟨_, List.mem_cons_self, json, address, rfl, hpubkey, hland⟩
    exact ⟨hknown, follows_throwing hknown fun body _ => follows_throwing hknown
      fun _ _ => ⟨hregistered, hregisters⟩⟩
  · have hquiet : ∀ t ∈ (⟨s.1, .http (.post "/v1/wallets" json), v⟩ :: s.2 : List WorldStep),
        ¬ Registers formats t := by
      refine List.forall_mem_cons.mpr ⟨?_, h.2⟩
      rintro ⟨json', pubkey, hcall, hpubkey', hland⟩
      cases hcall
      rw [hpubkey] at hpubkey'
      cases hpubkey'
      exact hmiss hland
    have htrusted : Trusted formats
        ((s.1.register formats address v).1,
          ⟨s.1, .http (.post "/v1/wallets" json), v⟩ :: s.2) := by
      rcases h.1 with hknown | ⟨⟨t, ht, hstray⟩, -⟩
      · refine .inl fun other hother => ?_
        rw [hdevice] at hother
        exact hkept other (hknown other hother)
      · exact .inr ⟨⟨t, List.mem_cons_of_mem _ ht, hstray⟩, hquiet⟩
    refine ⟨htrusted, follows_throwing htrusted fun body hbody => ?_⟩
    rw [hrefused] at hbody
    exact absurd hbody (v.refusal.2 body)

theorem follows_create (h : Pending formats s) (label : Option String) (chain : Chain) :
    Follows formats (XendWallet.create kit label chain)
      (fun wallet s => s.1.Registered wallet.address ∧ ∃ t ∈ s.2, Registers formats t) s := by
  refine spec_bind (spec_mono (follows_requireSolana h chain _) fun _ s' _ hs => ?_)
  subst hs
  refine spec_bind
    (spec_mono (follows_invoke h (local_generateKeyPair kit) fun s' _ => leaves_generateKeyPair kit)
    fun r s _ hr => ?_)
  exact spec_bind (spec_mono (follows_registerWallet hr.2 hr.1 label)
    fun _ s hs hreg => spec_pure hs hreg)

theorem follows_restore (h : Pending formats s) (mnemonic : String) (chain : Chain) :
    Follows formats (XendWallet.restore kit mnemonic chain)
      (fun wallet s => s.1.Registered wallet.address) s := by
  refine spec_bind (spec_mono (follows_requireSolana h chain _) fun _ s' _ hs => ?_)
  subst hs
  refine spec_bind
    (spec_mono (follows_invoke h (local_restore kit (trim mnemonic))
      fun s' _ => leaves_restore kit _)
    fun address s _ hr => ?_)
  exact spec_bind (spec_mono (follows_registerWallet hr.2 hr.1 none)
    fun _ s hs hreg => spec_pure hs hreg.1)

theorem follows_load {w : World} (hw : w.Known) (chain : Chain) :
    Follows formats (XendWallet.load kit chain) (fun r s => ∀ wallet, r = some wallet →
      s.1.Registered wallet.address)
      (w, []) := by
  have h : Pending formats (w, []) := ⟨.inl hw, by simp⟩
  refine spec_bind (spec_mono (follows_requireSolana h chain _) fun _ s' _ hs => ?_)
  subst hs
  refine spec_bind (spec_mono (follows_invoke (Q := Loads w) h ?_ fun s' hs => ?_)
    fun r s hs hr => ?_)
  · rw [SecureSigner.run_loadOrRecover_eq_search]
    exact local_search kit _
  · change ((SecureSigner.loadOrRecover kit).run).Spec _ _ _ _ _
    rw [SecureSigner.run_loadOrRecover_eq_search]
    exact leaves_search kit w _ hs
  · obtain ⟨hloads, hpending⟩ := hr
    cases r with
    | none => exact spec_pure hs (by simp)
    | some loaded =>
      obtain ⟨haddress, hbefore⟩ := hloads loaded rfl
      cases hrec : loaded.recovered with
      | false =>
        simp only [hrec, Bool.false_eq_true, if_false]
        refine spec_pure hs fun wallet hwallet => ?_
        cases hwallet
        have hsame := hbefore hrec
        rw [hsame] at haddress ⊢
        exact hw loaded.address haddress
      | true =>
        simp only [hrec, if_true]
        refine spec_bind (spec_mono (follows_registerWallet hpending haddress none)
          fun _ s hs hreg => ?_)
        refine spec_pure hs fun wallet hwallet => ?_
        cases hwallet
        exact hreg.1

theorem follows_opening (formats : TextFormats) (kit : Kit) {w : World} (hw : w.Known)
    (opening : Opening) :
    Follows formats (opening.program kit) (fun r s => ∀ wallet, r = some wallet →
      s.1.Registered wallet.address)
      (w, []) := by
  have h : Pending formats (w, []) := ⟨.inl hw, by simp⟩
  cases opening with
  | create label chain =>
    refine spec_bind (spec_mono (follows_create h label chain)
      fun wallet s hs hreg => spec_pure hs fun other ho => ?_)
    cases ho
    exact hreg.1
  | load chain => exact follows_load hw chain
  | restore mnemonic chain =>
    refine spec_bind (spec_mono (follows_restore h mnemonic chain)
      fun wallet s hs hreg => spec_pure hs fun other ho => ?_)
    cases ho
    exact hreg

/-- A wallet returned over a phone that the backend knows is registered, and the
phone stays known if what the call stored was followed up. -/
theorem Opening.run_known {w : World} (hw : w.Known) (opening : Opening) (vs : List Exchange) :
    (∀ wallet, ((opening.program kit).run.run (World.execute formats) w vs).2 =
      some (.ok (some wallet)) →
        ((opening.program kit).run.run (World.execute formats) w vs).1.Registered wallet.address) ∧
      (FollowedUp formats ((opening.program kit).run.steps (World.execute formats) w vs) →
        ((opening.program kit).run.run (World.execute formats) w vs).1.Known) := by
  have hrun := (follows_opening formats kit hw opening).run vs (by simp)
  rw [Prog.run_recording, List.append_nil] at hrun
  refine ⟨fun wallet hret => hrun.2 _ hret wallet rfl, fun hfollowed => ?_⟩
  rcases hrun.1 with hknown | ⟨⟨t, ht, hstray⟩, hquiet⟩
  · exact hknown
  · obtain ⟨u, hu, hregisters⟩ := hfollowed ⟨t, List.mem_reverse.mp ht, hstray⟩
    exact absurd hregisters (hquiet u (List.mem_reverse.mpr hu))

/-- After calls that each followed up what they stored, whatever wallet a call returns
is registered. -/
theorem registered_of_followedUp {w : World} (hw : w.Known) (runs : List (Opening × List Exchange))
    (hruns : Prog.EachRun (World.execute formats) (fun opening => (Opening.program kit opening).run)
      (fun _ => FollowedUp formats) w runs) (opening : Opening) (vs :
      List Exchange) (wallet : XendWallet) :
    let w' :=
      Prog.session (World.execute formats) (fun opening => (Opening.program kit opening).run) w runs
    ((opening.program kit).run.run (World.execute formats) w' vs).2 = some (.ok (some wallet)) →
      ((opening.program kit).run.run (World.execute formats) w' vs).1.Registered
        wallet.address := by
  intro w' hret
  have hknown : w'.Known :=
    hruns.session (J := World.Known) (fun opening w vs hw hf => (opening.run_known hw vs).2 hf) hw
  exact (opening.run_known hknown vs).1 wallet hret

end Openings

section Samples

variable {formats : TextFormats} {kit : Kit} {w : World}

def unreachable : Refusal := ⟨none, by simp [BackendClient.decodeResponse]⟩

def exchanges (service : Service) (database : List Xend.Verdict) (c : Call) : Exchange :=
  ⟨service.answer c, database, true, unreachable⟩

/-- What stays on the phone does there what it does without a backend. -/
theorem answered_local {α : Type} {p : Prog Call Reply α} (hp : p.Calls Local) (service : Service)
    (database : List Xend.Verdict) (w : World) :
    p.answered (World.execute formats) (exchanges service database) w =
      (⟨(p.answered Device.execute service.answer w.device).1, w.ledger⟩,
        (p.answered Device.execute service.answer w.device).2) := by
  induction p generalizing w with
  | done a => rfl
  | call c k ih =>
    have hexec := w.execute_device formats hp.1 (exchanges service database c)
    simp only [Prog.answered, hexec]
    exact ih _ (hp.2 _) _

theorem answered_invoke {α : Type} {service : Service} {database : List Xend.Verdict}
    {method : MethodCall}
    {x : Native α} {a : α} {d : Device} (hcalls : x.run.Calls Local)
    (h : served service x w.device = (d, .ok a)) :
    (invoke method x).run.answered (World.execute formats) (exchanges service database) w =
      (⟨d, w.ledger⟩, .ok a) := by
  have hserved : (invoke method x).run.answered Device.execute service.answer w.device =
      (d, .ok a) := invoke_served h
  rw [answered_local (calls_invoke (by nofun) hcalls), hserved]

theorem answered_send {answer : Call → Exchange} {request : Request} {w' : World}
    {response : Option Response}
    (h : w.execute formats (.http request) (answer (.http request)) = (w', response)) :
    (BackendClient.send request).run.answered (World.execute formats) answer w =
      (w', (BackendClient.decodeResponse response).mapError .thrown) := by
  have hask : (ask (.http request) : Dart (Option Response)).run.answered
      (World.execute formats) answer w =
      (w', .ok response) := by
    simp only [run_request, Prog.answered, h]
  rw [BackendClient.send, answered_exceptBind hask]
  rfl

theorem execute_register (w : World) (address : String) (label : Option String) (v : Exchange) :
    w.execute formats (.http (.post "/v1/wallets" (.obj (("pubkey", .str address) ::
      BackendClient.optional "label" label)))) v = w.register formats address v := by
  simp only [World.execute, if_true, registerPubkey_request, Option.elim_some]

theorem registerWallet_unreached (service : Service) (w : World) (address : String)
    (label : Option String) :
    (BackendClient.registerWallet address label).run.answered (World.execute formats)
      (exchanges service []) w =
      (w, .error (.thrown (.xend (.networkError "Network unavailable")))) := by
  have hexec : ∀ c, w.register formats address (exchanges service [] c) = (w, none) := by
    intro c
    rcases run_register formats w.ledger address [] with ⟨v, rest, hvs, -⟩ | ⟨-, hkept, hfailed⟩
    · cases hvs
    · rw [World.register, exchanges, hkept]
      refine congrArg (Prod.mk w) ?_
      cases hout : ((formats.register address).run.run Ledger.execute w.ledger []).2 with
      | none => rfl
      | some r =>
        cases r with
        | error e => rfl
        | ok r => exact absurd hout (hfailed r)
  have hsend := answered_send ((execute_register w address label _).trans (hexec _))
  exact answered_exceptBind_error hsend

theorem registerWallet_reached (service : Service) (w : World) {address : String}
    (label : Option String)
    (hvalid : validateSolanaPubkey formats.bs58 address = .ok ()) :
    ∃ w' walletId, w'.device = w.device ∧ (BackendClient.registerWallet address label).run.answered
      (World.execute formats) (exchanges service [Xend.Reference.served]) w =
        (w', .ok walletId) := by
  have hexec : ∀ c, w.register formats address (exchanges service [Xend.Reference.served] c) =
      (⟨w.device, (w.ledger.upsert address).1⟩,
        some (registeredResponse (w.ledger.upsert address).2 address)) := by
    intro c
    rcases run_register formats w.ledger address [Xend.Reference.served] with
      ⟨v, rest, hvs, -, hrun⟩ | ⟨hstuck, -⟩
    · cases hvs
      rw [World.register, exchanges, hrun]
      rfl
    · rcases hstuck with hinvalid | hnil
      · exact absurd hvalid hinvalid
      · cases hnil
  have hsend := answered_send ((execute_register w address label _).trans (hexec _))
  refine ⟨⟨w.device, (w.ledger.upsert address).1⟩, toString (w.ledger.upsert address).2, rfl, ?_⟩
  rw [BackendClient.registerWallet, answered_exceptBind (a := .obj _) (hsend.trans rfl)]
  rfl

theorem answered_generateKeyPair (formats : TextFormats) (service : Service)
    (kit : Kit) (w : World) :
    ∃ (d : Device) (key : PrivateKey) (address phrase : String),
    SecureSigner.address kit key = some address ∧
      d.item .pub = some (.plain (utf8 address)) ∧ ∀ database : List Xend.Verdict,
        (invoke .generateKeyPair (SecureSigner.generateKeyPair kit)).run.answered
          (World.execute formats)
          (exchanges service database) w = (⟨d, w.ledger⟩, .ok (address, phrase)) := by
  obtain ⟨d, key, phrase, address, -, -, haddress, hserved, hprovisioned, -⟩ :=
    SecureSigner.generateKeyPair_served service w.device kit
  exact ⟨d, key, address, phrase, haddress, hprovisioned.pub, fun database =>
    answered_invoke (local_generateKeyPair kit) hserved⟩

theorem load_found {service : Service} (hreads : service.reads .pub = errSecSuccess)
    (database : List Xend.Verdict)
    {address : String} (hpub : w.device.item .pub = some (.plain (utf8 address))) :
    (XendWallet.load kit .solana).run.answered (World.execute formats)
      (exchanges service database) w =
      (w, .ok (some ⟨address, .solana⟩)) := by
  have hlocal : (SecureSigner.loadOrRecover kit).run.Calls Local := by
    rw [SecureSigner.run_loadOrRecover_eq_search]
    exact local_search kit _
  have hchain : (requireSolana .solana "XendWallet.load").run.answered (World.execute formats)
      (exchanges service database) w = (w, .ok ()) := rfl
  rw [XendWallet.load, answered_exceptBind hchain,
    answered_exceptBind (answered_invoke hlocal (loadOrRecover_found hreads hpub kit))]
  rfl

def phoneFormats : TextFormats := ⟨Base58.decode, fun _ => none⟩

theorem blank_known : World.Known ⟨Device.blank, .empty ∅⟩ := by
  intro address ha
  cases ha

theorem registered_of_followedUp_online : ∃ (vs vs' : List Exchange) (wallet : XendWallet),
    ((Opening.program sampleKit (.load .solana)).run.run (World.execute phoneFormats)
      (Prog.session (World.execute phoneFormats)
        (fun opening => (Opening.program sampleKit opening).run)
        ⟨Device.blank, .empty ∅⟩ [(.create none .solana, vs)])
          vs').1.Registered wallet.address := by
  obtain ⟨d, key, address, phrase, haddress, hpub, hgenerated⟩ :=
    answered_generateKeyPair phoneFormats sampleService sampleKit ⟨Device.blank, .empty ∅⟩
  have hvalid : validateSolanaPubkey phoneFormats.bs58 address = .ok () :=
    validateSolanaPubkey_eq_ok.mpr
      ⟨_, Base58.decode_eq_some_iff.mpr (Base58.encode_spells haddress),
        (sampleKit.publicKey key).2⟩
  obtain ⟨w, walletId, hdevice, hreached⟩ :=
    registerWallet_reached sampleService ⟨d, .empty ∅⟩ none hvalid
  have hcreated : (Opening.program sampleKit (.create none .solana)).run.answered
      (World.execute phoneFormats)
      (exchanges sampleService [Xend.Reference.served]) ⟨Device.blank, .empty ∅⟩ =
      (w, .ok (some ⟨address, .solana⟩)) := by
    have hchain : (requireSolana .solana "XendWallet.create").run.answered
        (World.execute phoneFormats)
      (exchanges sampleService [Xend.Reference.served]) ⟨Device.blank, .empty ∅⟩ =
        (⟨Device.blank, .empty ∅⟩, .ok ()) := rfl
    have hwallet : (XendWallet.create sampleKit none .solana).run.answered
        (World.execute phoneFormats)
        (exchanges sampleService [Xend.Reference.served]) ⟨Device.blank, .empty ∅⟩ =
          (w, .ok ⟨address, .solana⟩) := by
      rw [XendWallet.create, answered_exceptBind hchain, answered_exceptBind (hgenerated _),
        answered_exceptBind hreached]
      rfl
    rw [Opening.program, answered_exceptBind hwallet]
    rfl
  have hloaded : (Opening.program sampleKit (.load .solana)).run.answered
      (World.execute phoneFormats)
      (exchanges sampleService []) w = (w, .ok (some ⟨address, .solana⟩)) :=
    load_found rfl [] (by rw [hdevice, hpub])
  obtain ⟨vs, hrun⟩ := Prog.exists_run hcreated
  obtain ⟨vs', hrun'⟩ := Prog.exists_run hloaded
  have hpending : Pending phoneFormats (⟨Device.blank, .empty ∅⟩, []) := ⟨.inl blank_known, by simp⟩
  have hspec : Follows phoneFormats (Opening.program sampleKit (.create none .solana))
      (fun _ s => ∃ t ∈ s.2, Registers phoneFormats t) (⟨Device.blank, .empty ∅⟩, []) :=
    spec_bind (spec_mono (follows_create hpending none .solana)
      fun _ _ hs hreg => spec_pure hs hreg.2)
  have hregisters := hspec.run vs (by simp)
  rw [Prog.run_recording, List.append_nil] at hregisters
  obtain ⟨t, ht, hreg⟩ := hregisters.2 _ (by rw [hrun])
  refine ⟨vs, vs', ⟨address, .solana⟩,
    registered_of_followedUp blank_known [(.create none .solana, vs)]
    ⟨fun _ => ⟨t, List.mem_reverse.mp ht, hreg⟩, trivial⟩ (.load .solana) vs' ⟨address, .solana⟩ ?_⟩
  simp only [Prog.session, hrun, hrun']

/-- `create` that fails to register its wallet leaves one that the next start loads as
it is, whatever the cryptography. -/
theorem unregistered_loaded :
    ¬ ∃ (kit : Kit) (formats : TextFormats),
    ∀ (runs : List (Opening × List Exchange)) (opening : Opening)
      (vs : List Exchange) (wallet : XendWallet),
      let w := Prog.session (World.execute formats)
        (fun opening => (Opening.program kit opening).run)
        ⟨Device.blank, .empty ∅⟩ runs
      ((opening.program kit).run.run (World.execute formats) w vs).2 = some (.ok (some wallet)) →
        ((opening.program kit).run.run (World.execute formats) w vs).1.Registered
          wallet.address := by
  rintro ⟨kit, formats, h⟩
  obtain ⟨d, key, address, phrase, -, hpub, hgenerated⟩ :=
    answered_generateKeyPair formats sampleService kit ⟨Device.blank, .empty ∅⟩
  have hcreated : (Opening.program kit (.create none .solana)).run.answered (World.execute formats)
      (exchanges sampleService []) ⟨Device.blank, .empty ∅⟩ =
      (⟨d, .empty ∅⟩, .error (.thrown (.xend (.networkError "Network unavailable")))) := by
    refine answered_exceptBind_error ?_
    have hchain : (requireSolana .solana "XendWallet.create").run.answered (World.execute formats)
      (exchanges sampleService []) ⟨Device.blank, .empty ∅⟩ =
        (⟨Device.blank, .empty ∅⟩, .ok ()) := rfl
    rw [XendWallet.create, answered_exceptBind hchain, answered_exceptBind (hgenerated [])]
    exact answered_exceptBind_error (registerWallet_unreached sampleService _ _ none)
  have hloaded : (Opening.program kit (.load .solana)).run.answered (World.execute formats)
      (exchanges sampleService []) ⟨d, .empty ∅⟩ = (⟨d, .empty ∅⟩, .ok (some ⟨address, .solana⟩)) :=
    load_found rfl [] hpub
  obtain ⟨vs, hrun⟩ := Prog.exists_run hcreated
  obtain ⟨vs', hrun'⟩ := Prog.exists_run hloaded
  have hregistered := h [(.create none .solana, vs)] (.load .solana) vs' ⟨address, .solana⟩
  simp only [Prog.session, hrun, hrun'] at hregistered
  exact hregistered trivial rfl

end Samples

end Xend.Sdk
