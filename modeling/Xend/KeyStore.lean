import Xend.Provisioning

/-! When the stored address, the wrapped key and the wrapped phrase belong to one
wallet, over every sequence of operations and every point of failure. -/

namespace Xend.Sdk

open Framing Interaction

def Device.address (d : Device) : Option String := (d.item .pub).bind Data.text

/-- The current key opens both items, to the private key of `address` and to a
phrase that derives it. -/
def Device.Working (kit : Kit) (d : Device) (address : String) : Prop :=
  ∃ (key : Nat) (privateKey : PrivateKey) (phrase : String), d.enclave.head? = some key ∧
    d.item .ciphertext = some (.wrapped key privateKey.1) ∧
    d.item .mnemonic = some (.wrapped key (utf8 phrase)) ∧
    SecureSigner.address kit privateKey = some address ∧
    Mnemonic.solanaPrivateKey kit.toPrimitives phrase "" = some privateKey.1

def Device.Coherent (kit : Kit) (d : Device) : Prop := ∀ address, d.address = some address →
    d.Working kit address

/-- A readable wallet whose address is `address`, in working order. -/
def Device.Holds (kit : Kit) (d : Device) (address : String) : Prop :=
  d.address = some address ∧ d.Working kit address

inductive Operation where
  | generateKeyPair
  | restore (mnemonic : String)
  | loadOrRecover
  | deleteKey

namespace Operation

def program (kit : Kit) : Operation → Native Unit
  | generateKeyPair => do
    let _ ← SecureSigner.generateKeyPair kit
    pure ()
  | restore mnemonic => do
    let _ ← SecureSigner.restore kit mnemonic
    pure ()
  | loadOrRecover => do
    let _ ← SecureSigner.loadOrRecover kit
    pure ()
  | deleteKey => SecureSigner.deleteKey

end Operation

/-- The call took effect on what a readable wallet is made of. -/
def Disturbs (t : DeviceStep) : Prop :=
  t.before.address ≠ none ∧ t.verdict.status = errSecSuccess ∧
    match t.call with
    | .secItemDelete items => .ciphertext ∈ items ∨ .mnemonic ∈ items ∨ .pub ∈ items
    | .deleteKeys => True
    | .secKeyCreateRandomKey _ _ => t.verdict.front = true
    | _ => False

def Stores (t : DeviceStep) : Prop :=
  t.before.item .pub = none ∧ t.verdict.status = errSecSuccess ∧
    ∃ data, t.call = .secItemAdd .pub data

def Removes (t : DeviceStep) : Prop :=
  t.verdict.status = errSecSuccess ∧ ∃ items, t.call = .secItemDelete items ∧ .pub ∈ items

/-- A new key that a lookup does not find, because an older one is still there. -/
def Misplaces (t : DeviceStep) : Prop :=
  t.before.enclave ≠ [] ∧ t.verdict.front = false ∧ t.verdict.status = errSecSuccess ∧
    ∃ flags inSecureEnclave, t.call = .secKeyCreateRandomKey flags inSecureEnclave

def Operation.Completes : Operation → DeviceStep → Prop
  | deleteKey => Removes
  | _ => Stores

/-- An operation that disturbed a wallet also got to its own last word on the
address item, and no address was stored for a misplaced key. -/
structure Clean (op : Operation) (steps : List DeviceStep) : Prop where
  completed : (∃ t ∈ steps, Disturbs t) → ∃ t ∈ steps, op.Completes t
  current : (∃ t ∈ steps, Misplaces t) → ¬ ∃ t ∈ steps, Stores t

section Steps

variable {kit : Kit} {d : Device} {c : Call} {v : Verdict} {address : String}

theorem Device.item_pub_of_address (h : d.address = some address) :
    ∃ data, d.item .pub = some data ∧ data.text = some address := by
  simpa [Device.address, Option.bind_eq_some_iff] using h

theorem Device.Holds.step (h : d.Holds kit address) (hq : ¬ Disturbs ⟨d, c, v⟩) :
    (d.execute c v).1.Holds kit address := by
  obtain ⟨ha, key, privateKey, phrase, hhead, hct, hmn, haddr, hpriv⟩ := h
  obtain ⟨data, hpub, htext⟩ := d.item_pub_of_address ha
  have hread : d.address ≠ none := by simp [ha]
  rcases d.execute_cases c v with he | ⟨hs, he⟩
  · rw [he]
    exact ⟨ha, key, privateKey, phrase, hhead, hct, hmn, haddr, hpriv⟩
  · generalize (d.execute c v).1 = d' at he
    cases he with
    | add item data' hnone =>
      have hp : Item.pub ≠ item := fun hi => by simp [← hi, hpub] at hnone
      have hc : Item.ciphertext ≠ item := fun hi => by simp [← hi, hct] at hnone
      have hm : Item.mnemonic ≠ item := fun hi => by simp [← hi, hmn] at hnone
      refine ⟨?_, key, privateKey, phrase, hhead, ?_, ?_, haddr, hpriv⟩
      · simp only [Device.address, d.put_ne _ _ _ hp, hpub, Option.bind_some, htext]
      · rw [d.put_ne _ _ _ hc, hct]
      · rw [d.put_ne _ _ _ hm, hmn]
    | delete items =>
      have hkept : Item.ciphertext ∉ items ∧ Item.mnemonic ∉ items ∧ Item.pub ∉ items := by
        simpa only [Disturbs, hread, hs, ne_eq, not_false_eq_true, true_and, not_or] using hq
      obtain ⟨hc, hm, hp⟩ := hkept
      refine ⟨?_, key, privateKey, phrase, hhead, ?_, ?_, haddr, hpriv⟩
      · simp only [Device.address, d.remove_item, hp, if_false, hpub, Option.bind_some, htext]
      · rw [d.remove_item, if_neg hc, hct]
      · rw [d.remove_item, if_neg hm, hmn]
    | deleteKeys => exact absurd ⟨hread, hs, trivial⟩ hq
    | create flags inSecureEnclave =>
      have hback : v.front = false := by
        simpa only [Disturbs, hread, hs, ne_eq, not_false_eq_true, true_and,
          Bool.not_eq_true] using hq
      refine ⟨ha, key, privateKey, phrase, ?_, hct, hmn, haddr, hpriv⟩
      rw [d.createKey_enclave, hback]
      cases hlist : d.enclave with
      | nil => simp [hlist] at hhead
      | cons k ks => simpa [hlist] using hhead

theorem Device.address_none_step (h : d.address = none) (hq : ¬ Stores ⟨d, c, v⟩) :
    (d.execute c v).1.address = none := by
  rcases d.execute_cases c v with he | ⟨hs, he⟩
  · rw [he, h]
  · generalize (d.execute c v).1 = d' at he
    cases he with
    | add item data hnone =>
      have hp : Item.pub ≠ item := fun hi => hq ⟨hi ▸ hnone, hs, data, by rw [hi]⟩
      rw [Device.address, d.put_ne _ _ _ hp]
      exact h
    | delete items =>
      rw [Device.address, d.remove_item]
      by_cases hp : Item.pub ∈ items
      · simp [hp]
      · rw [if_neg hp]
        exact h
    | deleteKeys => exact h
    | create flags inSecureEnclave => exact h

theorem Device.address_of_removes (h : Removes ⟨d, c, v⟩) : (d.execute c v).1.address = none := by
  obtain ⟨hs, items, rfl, hp⟩ := h
  have hnone := d.execute_delete_item items v .pub
  rw [if_pos ⟨hs, hp⟩] at hnone
  simp [address, hnone]

end Steps

section Establishing

abbrev Logged := Device × List DeviceStep

abbrev logged : Logged → (c : Call) → Verdict → Logged × Reply c := Prog.recording Device.execute

def Unstored (s : Logged) : Prop := ∀ t ∈ s.2, ¬ Stores t

/-- Once an address is stored, and unless its key was misplaced, there is a wallet
in working order. -/
def Sound (kit : Kit) (s : Logged) : Prop :=
  Unstored s ∨ (∃ t ∈ s.2, Misplaces t) ∨ ∃ address, s.1.Holds kit address

/-- At every point of `x` the device is sound; it throws only before it stores. -/
abbrev Keeps {α : Type} (kit : Kit) (x : Native α) (Q : α → Logged → Prop) (s : Logged) : Prop :=
  x.run.Spec logged (fun _ => True) (Sound kit) (Ends (fun _ => Unstored) Q) s

/-- Nothing is stored yet; `key` is the current key unless it was misplaced. -/
structure Prepared (key : Nat) (contents : List (Item × Data)) (s : Logged) : Prop where
  unstored : Unstored s
  current : (∃ t ∈ s.2, Misplaces t) ∨ s.1.enclave.head? = some key
  written : ∀ p ∈ contents, s.1.item p.1 = some p.2

variable {kit : Kit} {α β : Type} {s : Logged} {c : Call} {v : Verdict} {key : Nat}
    {contents : List (Item × Data)}

theorem Unstored.step (h : Unstored s) (hc : ∀ data, c ≠ .secItemAdd .pub data) :
    Unstored (logged s c v).1 := by
  intro t ht
  rcases List.mem_cons.mp ht with rfl | ht
  · exact fun hst => hc _ hst.2.2.choose_spec
  · exact h t ht

theorem Unstored.sound (h : Unstored s) : Sound kit s := .inl h

theorem Unstored.ask {Q : Reply c → Logged → Prop} (h : Unstored s)
    (hc : ∀ data, c ≠ .secItemAdd .pub data)
    (hQ : ∀ v, Unstored (logged s c v).1 → Q (logged s c v).2 (logged s c v).1) :
    Keeps kit (ask c) Q s :=
  spec_request h.sound fun _ _ => ⟨(h.step hc).sound, hQ _ (h.step hc)⟩

theorem Unstored.fail {Q : α → Logged → Prop} (h : Unstored s) (e : SecureSignerError) :
    Keeps kit (SecureSigner.fail e) Q s := spec_attempt h.sound h

theorem Unstored.require {Q : Unit → Logged → Prop} (h : Unstored s) {b : Bool}
    {e : SecureSignerError}
    (hQ : b = true → Q () s) : Keeps kit (SecureSigner.require b e) Q s := by
  cases b with
  | true => exact spec_pure h.sound (hQ rfl)
  | false => exact h.fail e

theorem Unstored.orTrap {Q : α → Logged → Prop} (h : Unstored s) {o : Option α}
    (hQ : ∀ a, o = some a → Q a s) :
    Keeps kit (SecureSigner.orTrap o) Q s := by
  cases o with
  | none => exact spec_attempt h.sound h
  | some a => exact spec_attempt h.sound (hQ a rfl)

theorem Keeps.catching {Q : α → Logged → Prop} {x : Native α} {handler : NativeError → Native α}
    (h : Keeps kit x Q s) (hh : ∀ e s, Unstored s → Keeps kit (handler e) Q s) :
    Keeps kit (SecureSigner.catching x handler) Q s := by
  refine SecureSigner.spec_catching (h.mono fun r s hI hr => ?_)
  match r with
  | .ok a => exact hr
  | .error (.thrown e) => exact hh e s hr
  | .error .trap => exact hr

theorem Unstored.makeWrappingKey (h : Unstored s) (flags : List AccessFlag)
    (inSecureEnclave : Bool) :
    Keeps kit (SecureSigner.makeWrappingKey flags inSecureEnclave)
      (fun key => Prepared key []) s := by
  refine spec_bind (h.ask (by simp) fun v h => spec_bind (h.require fun _ => ?_))
  refine spec_bind (h.ask (by simp) fun w h' => ?_)
  by_cases hs : w.status = errSecSuccess
  · simp only [logged, Prog.recording, Device.execute, hs, ne_eq,
      not_true_eq_false, if_false] at h' ⊢
    refine spec_pure h'.sound ⟨h', ?_, by simp⟩
    rw [Device.createKey_enclave]
    cases hf : w.front with
    | true => exact .inr rfl
    | false =>
      by_cases hempty : s.1.enclave = []
      · right
        simp [hempty]
      · left
        exact ⟨_, List.mem_cons_self, hempty, hf, hs, flags, inSecureEnclave, rfl⟩
  · simp only [logged, Prog.recording, Device.execute, hs, ne_eq,
      not_false_eq_true, if_true] at h' ⊢
    exact h'.fail _

theorem Unstored.firstKey (h : Unstored s) (lastError : NativeError)
    (attempts : List (List AccessFlag × Bool)) :
    Keeps kit (SecureSigner.firstKey lastError attempts) (fun key => Prepared key []) s := by
  induction attempts generalizing s lastError with
  | nil => exact spec_attempt h.sound h
  | cons a rest ih => exact Keeps.catching (h.makeWrappingKey a.1 a.2) fun e s hs => ih hs e

theorem Unstored.createEnclaveKey (h : Unstored s) (simulator : Bool) :
    Keeps kit (SecureSigner.createEnclaveKey simulator) (fun key => Prepared key []) s := by
  refine spec_bind (spec_bind (h.ask (by simp) fun v h => spec_pure h.sound ?_))
  refine spec_bind (h.ask (by simp) fun v h => spec_bind (h.ask (by simp) fun w h => ?_))
  exact h.firstKey _ _

theorem Prepared.ask {Q : Reply c → Logged → Prop} (h : Prepared key contents s)
    (hc : ∀ data, c ≠ .secItemAdd .pub data) (hd : ∀ v, (s.1.execute c v).1 = s.1)
    (hQ : ∀ v, Prepared key contents (logged s c v).1 → Q (logged s c v).2 (logged s c v).1) :
    Keeps kit (ask c) Q s := by
  refine h.unstored.ask hc fun v hu => hQ v ⟨hu, ?_, ?_⟩
  · rw [show (logged s c v).1.1 = s.1 from hd v]
    exact h.current.imp_left List.exists_mem_cons_of_exists
  · rw [show (logged s c v).1.1 = s.1 from hd v]
    exact h.written

theorem Prepared.wrap (h : Prepared key contents s) (plaintext : Bytes) (label : String) :
    Keeps kit (SecureSigner.wrap plaintext key label)
      (fun data s => data = .wrapped key plaintext ∧ Prepared key contents s) s := by
  refine spec_bind (h.ask (by simp) (fun v => ?_) fun v h => ?_)
  · by_cases hs : v.status = errSecSuccess <;> simp [Device.execute, hs]
  · by_cases hs : v.status = errSecSuccess
    · simp only [logged, Prog.recording, Device.execute, hs, ne_eq,
        not_true_eq_false, if_false] at h ⊢
      exact spec_pure h.unstored.sound ⟨rfl, h⟩
    · simp only [logged, Prog.recording, Device.execute, hs, ne_eq,
        not_false_eq_true, if_true] at h ⊢
      exact h.unstored.fail _

/-- Once the address item is out of the way, the other items can be replaced. -/
theorem Prepared.delete (h : Prepared key contents s) (item : Item)
    (hi : ∀ p ∈ contents, p.1 ≠ item) (v : Verdict) :
    Prepared key contents (logged s (.secItemDelete [item]) v).1 := by
  refine ⟨h.unstored.step (by simp), ?_, fun p hp => ?_⟩
  · refine h.current.imp List.exists_mem_cons_of_exists fun hhead => ?_
    exact (congrArg List.head? (s.1.execute_delete_enclave [item] v)).trans hhead
  · have hkept := s.1.execute_delete_item [item] v p.1
    rw [if_neg (by simp [hi p hp])] at hkept
    exact hkept.trans (h.written p hp)

theorem Prepared.keychainSet (h : Prepared key contents s) {item : Item}
    (data : Data) (hpub : item ≠ .pub)
    (hi : ∀ p ∈ contents, p.1 ≠ item) :
    Keeps kit (SecureSigner.keychainSet item data)
      (fun _ => Prepared key ((item, data) :: contents)) s := by
  refine spec_bind (h.unstored.ask (by simp) fun v _ => ?_)
  have h := h.delete item hi v
  generalize (logged s (.secItemDelete [item]) v).1 = s at h ⊢
  refine spec_bind (h.unstored.ask (by simpa using hpub) fun w hu => ?_)
  by_cases hadd : w.status = errSecSuccess ∧ s.1.item item = none
  · simp only [logged, Prog.recording, Device.execute_add data hadd.1 hadd.2] at hu ⊢
    refine hu.require fun _ => ⟨hu, ?_, ?_⟩
    · exact h.current.imp_left List.exists_mem_cons_of_exists
    · rw [List.forall_mem_cons]
      refine ⟨Device.put_self .., fun p hp => ?_⟩
      rw [Device.put_ne _ _ _ _ (hi p hp)]
      exact h.written p hp
  · have hne := (Device.execute_add_of_ne data hadd).2
    exact hu.require fun hb => absurd (of_decide_eq_true hb) hne

theorem Prepared.storeAddress {privateKey : PrivateKey} {phrase address : String}
    (h : Prepared key
      [(.mnemonic, .wrapped key (utf8 phrase)), (.ciphertext, .wrapped key privateKey.1)] s)
    (haddr : SecureSigner.address kit privateKey = some address)
    (hpriv : Mnemonic.solanaPrivateKey kit.toPrimitives phrase "" = some privateKey.1) :
    Keeps kit (SecureSigner.keychainSet .pub (.plain (utf8 address))) (fun _ _ => True) s := by
  refine spec_bind (h.unstored.ask (by simp) fun v _ => ?_)
  have h := h.delete .pub (by simp) v
  generalize (logged s (.secItemDelete [.pub]) v).1 = s at h ⊢
  have hwritten := h.written
  simp only [List.forall_mem_cons, List.not_mem_nil, false_implies,
    implies_true, and_true] at hwritten
  refine spec_bind (spec_request h.unstored.sound fun w _ => ?_)
  by_cases hadd : w.status = errSecSuccess ∧ s.1.item .pub = none
  · have hsound : Sound kit (logged s (.secItemAdd .pub (.plain (utf8 address))) w).1 := by
      simp only [logged, Prog.recording, Device.execute_add _ hadd.1 hadd.2]
      refine .inr (h.current.imp List.exists_mem_cons_of_exists fun hhead => ?_)
      refine ⟨address, ?_, key, privateKey, phrase, hhead, ?_, ?_, haddr, hpriv⟩
      · simp [Device.address, Data.text, ofUtf8_utf8]
      · rw [Device.put_ne _ _ _ _ (by simp), hwritten.2]
      · rw [Device.put_ne _ _ _ _ (by simp), hwritten.1]
    refine ⟨hsound, ?_⟩
    simp only [logged, Prog.recording, Device.execute_add _ hadd.1 hadd.2] at hsound ⊢
    exact spec_pure hsound trivial
  · have hne := Device.execute_add_of_ne (.plain (utf8 address)) hadd
    have hu : Unstored (logged s (.secItemAdd .pub (.plain (utf8 address))) w).1 := by
      intro t ht
      rcases List.mem_cons.mp ht with rfl | ht
      · exact fun hst => hadd ⟨hst.2.1, hst.1⟩
      · exact h.unstored t ht
    exact ⟨hu.sound, hu.require fun hb => absurd (of_decide_eq_true hb) hne.2⟩

theorem Unstored.establish {privateKey : Bytes} {phrase : String} (h : Unstored s)
    (hpriv : Mnemonic.solanaPrivateKey kit.toPrimitives phrase "" = some privateKey) :
    Keeps kit (SecureSigner.establish kit privateKey phrase) (fun _ _ => True) s := by
  have hraw : Keeps kit (SecureSigner.rawRepresentation kit privateKey)
      (fun signingKey s => Unstored s ∧ signingKey.1 = privateKey) s := by
    by_cases hlen : privateKey.length = 32
    · simp only [SecureSigner.rawRepresentation, hlen, dif_pos]
      exact spec_pure h.sound ⟨h, rfl⟩
    · simp only [SecureSigner.rawRepresentation, hlen, dif_neg, not_false_eq_true]
      exact spec_attempt h.sound h
  refine spec_bind (spec_mono hraw fun signingKey s _ hkey => ?_)
  obtain ⟨h, rfl⟩ := hkey
  refine spec_bind (h.orTrap fun address haddr => ?_)
  refine spec_bind (spec_mono (h.createEnclaveKey kit.simulator) fun key s _ h => ?_)
  refine spec_bind
    (h.ask (by simp) (fun _ => rfl) fun v h => spec_bind (h.unstored.require fun _ => ?_))
  refine spec_bind
    (h.ask (by simp) (fun _ => rfl) fun v h => spec_bind (h.unstored.require fun _ => ?_))
  refine spec_bind (spec_mono (h.wrap _ _) fun keyCiphertext s _ hw => ?_)
  obtain ⟨rfl, h⟩ := hw
  refine spec_bind (spec_mono (h.wrap _ _) fun phraseCiphertext s _ hw => ?_)
  obtain ⟨rfl, h⟩ := hw
  refine spec_bind (spec_mono (h.keychainSet _ (by simp) (by simp)) fun _ s _ h => ?_)
  refine spec_bind (spec_mono (h.keychainSet _ (by simp) (by simp)) fun _ s _ h => ?_)
  refine spec_bind (spec_mono (h.storeAddress haddr hpriv) fun _ s hs _ => ?_)
  exact spec_pure hs trivial

end Establishing

section Seeds

/-- A change to the recovery seed alone. -/
def SeedOnly : Call → Prop
  | .secItemDelete items => ∀ item ∈ items, ∃ synchronizable, item = .seedVault synchronizable
  | .secItemAdd item _ => ∃ synchronizable, item = .seedVault synchronizable
  | _ => False

variable {S V : Type} {exec : S → (c : Call) → V → S × Reply c} {Ok : Step Call S V → Prop}
    {I : S → Prop} {s : S}

theorem keychainSetSeed_spec (hI : ∀ s c v, SeedOnly c → I s → I (exec s c v).1)
    (hs : I s) (data : Data)
    (synchronizable : Bool) :
    (SecureSigner.keychainSetSeed data synchronizable).run.Spec exec Ok I
      (Ends (SecureSigner.OnHalt (fun _ => I) fun _ => False) fun _ => I) s := by
  have hdelete : SeedOnly (.secItemDelete [.seedVault synchronizable]) := by simp [SeedOnly]
  have hadd : SeedOnly (.secItemAdd (.seedVault synchronizable) data) := by simp [SeedOnly]
  refine spec_bind (spec_request hs fun v _ => ⟨hI _ _ v hdelete hs, ?_⟩)
  have hs := hI s _ v hdelete hs
  refine spec_bind (spec_request hs fun w _ => ⟨hI _ _ w hadd hs, ?_⟩)
  have hs := hI _ _ w hadd hs
  generalize (exec _ (.secItemAdd (.seedVault synchronizable) data) w) = r at hs ⊢
  by_cases hr : r.2 = errSecSuccess
  · simp only [SecureSigner.require, hr, decide_true, if_true]
    exact spec_pure hs hs
  · simp only [SecureSigner.require, hr, decide_false]
    exact spec_attempt hs hs

theorem storeRecoverySeed_spec (hI : ∀ s c v, SeedOnly c → I s → I (exec s c v).1)
    (hs : I s) (mnemonic : String) :
    (SecureSigner.storeRecoverySeed mnemonic).run.Spec exec Ok I
      (Ends (fun _ _ => False) fun _ => I) s := by
  refine SecureSigner.spec_catching ((keychainSetSeed_spec hI hs _ true).mono fun r s hs hr => ?_)
  match r with
  | .ok () => exact hr
  | .error .trap => exact hr
  | .error (.thrown e) =>
    refine spec_bind
      (SecureSigner.spec_tried ((keychainSetSeed_spec hI hs _ false).mono fun r s hs hr => ?_))
    match r with
    | .ok () => exact ⟨hs, hs⟩
    | .error .trap => exact hr
    | .error (.thrown e) => exact ⟨hs, hs⟩

end Seeds

section Operations

variable {kit : Kit} {d : Device} {s : Logged} {mnemonic : String}

theorem Sound.seedOnly (s : Logged) (c : Call) (v : Verdict) (hc : SeedOnly c) (h : Sound kit s) :
    Sound kit (logged s c v).1 := by
  rcases h with h | ⟨t, ht, hm⟩ | ⟨address, h⟩
  · left
    refine h.step fun data he => ?_
    rw [he] at hc
    obtain ⟨_, hi⟩ := hc
    cases hi
  · exact .inr (.inl ⟨t, List.mem_cons_of_mem _ ht, hm⟩)
  · right
    right
    refine ⟨address, h.step fun hq => ?_⟩
    obtain ⟨-, -, hq⟩ := hq
    cases c with
    | secItemDelete items =>
      rcases hq with hq | hq | hq <;> obtain ⟨_, hi⟩ := hc _ hq <;> cases hi
    | _ => first | exact hq | exact hc

theorem Unstored.established {β : Type} {f : String → Native β} (h : Unstored s)
    (hf : ∀ address s, Sound kit s → Keeps kit (f address) (fun _ _ => True) s) :
    Keeps kit (do
      let privateKey ← SecureSigner.orTrap (Mnemonic.solanaPrivateKey kit.toPrimitives mnemonic "")
      let address ← SecureSigner.establish kit privateKey mnemonic
      f address) (fun _ _ => True) s := by
  generalize hkey : Mnemonic.solanaPrivateKey kit.toPrimitives mnemonic "" = key
  refine spec_bind (h.orTrap fun privateKey hpriv => ?_)
  exact spec_bind (spec_mono (h.establish (hkey.trans hpriv)) fun address s hs _ => hf address s hs)

theorem Sound.storeRecoverySeed {β : Type} {b : β} (hs : Sound kit s) :
    Keeps kit (do
      SecureSigner.storeRecoverySeed mnemonic
      pure b) (fun _ _ => True) s := by
  refine spec_bind ((storeRecoverySeed_spec Sound.seedOnly hs mnemonic).mono fun r s hs hr => ?_)
  match r with
  | .ok () => exact ⟨hs, trivial⟩
  | .error _ => exact absurd hr id

theorem Unstored.validate (h : Unstored s) :
    Keeps kit (SecureSigner.validate kit mnemonic) (fun _ => Unstored) s := by
  unfold SecureSigner.validate
  split
  · exact spec_pure h.sound h
  · exact h.fail _
  · exact spec_attempt h.sound h

theorem Unstored.keychainGet {item : Item} (h : Unstored s) :
    Keeps kit (SecureSigner.keychainGet item) (fun _ => Unstored) s := by
  refine spec_bind (h.ask (by simp) fun v h => ?_)
  generalize (logged s (.secItemCopyMatching item) v).2 = out
  obtain ⟨status, value⟩ := out
  by_cases hfound : status = errSecItemNotFound
  · simp only [SecureSigner.found, hfound, if_true]
    exact h.fail _
  · simp only [SecureSigner.found, hfound, if_false]
    cases value with
    | none => exact h.fail _
    | some data =>
      by_cases hs : status = errSecSuccess
      · simp only [hs, if_true]
        exact spec_pure h.sound h
      · simp only [hs, if_false]
        exact h.fail _

theorem Unstored.tried {α : Type} {x : Native α} (h : Keeps kit x (fun _ => Unstored) s) :
    Keeps kit (SecureSigner.tried x) (fun _ => Unstored) s := by
  refine SecureSigner.spec_tried (h.mono fun r s _ hr => ?_)
  match r with
  | .ok a => exact hr
  | .error (.thrown e) => exact hr
  | .error .trap => exact hr

theorem Unstored.loadRecoverySeedFrom (h : Unstored s) (places : List Bool) :
    Keeps kit (SecureSigner.loadRecoverySeedFrom places) (fun _ => Unstored) s := by
  induction places generalizing s with
  | nil => exact spec_pure h.sound h
  | cons place rest ih =>
    refine spec_bind (spec_mono (Unstored.tried h.keychainGet) fun data s _ h => ?_)
    cases data.bind Data.text with
    | none => exact ih h
    | some mnemonic => exact spec_pure h.sound h

theorem Unstored.getPublicKey (h : Unstored s) :
    Keeps kit SecureSigner.getPublicKey (fun _ => Unstored) s := by
  refine spec_bind (spec_mono h.keychainGet fun data s _ h => ?_)
  cases data.text with
  | none => exact h.fail _
  | some text => exact spec_pure h.sound h

/-- Generation, restoration and recovery throw only before they store an address. -/
theorem Unstored.operation (h : Unstored s) (op : Operation) (hop : op ≠ .deleteKey) :
    Keeps kit (op.program kit) (fun _ _ => True) s := by
  have hdone : ∀ {α : Type} {x : Native α}, Keeps kit x (fun _ _ => True) s →
      Keeps kit (do let _ ← x; pure ()) (fun _ _ => True) s :=
    fun hx => spec_bind (spec_mono hx fun _ s hs _ => spec_pure hs trivial)
  cases op with
  | generateKeyPair =>
    refine hdone (spec_bind (spec_bind (h.ask (by simp) fun v h => h.orTrap fun m _ => ?_)))
    exact h.established fun _ s hs => hs.storeRecoverySeed
  | restore mnemonic =>
    refine hdone (spec_bind (spec_mono h.validate fun _ s _ h => ?_))
    exact h.established fun _ s hs => hs.storeRecoverySeed
  | loadOrRecover =>
    refine hdone (spec_bind (spec_mono (Unstored.tried h.getPublicKey) fun stored s _ h => ?_))
    cases stored with
    | some address => exact spec_pure h.sound trivial
    | none =>
      refine spec_bind (spec_mono (h.loadRecoverySeedFrom [true, false]) fun seed s _ h => ?_)
      cases seed with
      | none => exact spec_pure h.sound trivial
      | some mnemonic => exact h.established fun _ s hs => spec_pure hs trivial
  | deleteKey => exact absurd rfl hop

theorem Operation.sound_run (kit : Kit) (op : Operation) (hop : op ≠ .deleteKey)
    (d : Device) (vs : List Verdict) :
    Sound kit (((op.program kit).run.run Device.execute d vs).1,
        ((op.program kit).run.steps Device.execute d vs).reverse) ∧
      ∀ e, ((op.program kit).run.run Device.execute d vs).2 = some (.error e) →
        ∀ t ∈ (op.program kit).run.steps Device.execute d vs, ¬ Stores t := by
  have hu : Unstored (d, []) := by simp [Unstored]
  have hkeeps : Keeps kit (op.program kit) (fun _ _ => True) (d, []) := hu.operation op hop
  have hspec := hkeeps.run vs (by simp)
  rw [Prog.run_recording, List.append_nil] at hspec
  refine ⟨hspec.1, fun e he t ht => ?_⟩
  exact hspec.2 _ he t (List.mem_reverse.mpr ht)

theorem deleteKey_stores (d : Device) (vs : List Verdict) :
    ∀ t ∈ (Operation.program kit .deleteKey).run.steps Device.execute d vs, ¬ Stores t := by
  have hcalls : (Operation.program kit .deleteKey).run.Calls fun c => ∀ item data,
      c ≠ .secItemAdd item data := by
    simp [Operation.program, SecureSigner.deleteKey, SecureSigner.deleteEnclaveKey, Prog.Calls]
  intro t ht hst
  obtain ⟨-, -, data, hc⟩ := hst
  exact hcalls.steps d vs t ht _ _ hc

theorem address_none_of_removes {α : Type} (p : Prog Call Reply α) (vs : List Verdict)
    (hst : ∀ t ∈ p.steps Device.execute d vs, ¬ Stores t)
    (hr : ∃ t ∈ p.steps Device.execute d vs, Removes t) :
    (p.run Device.execute d vs).1.address = none := by
  induction p generalizing d vs with
  | done a => simp [Prog.steps] at hr
  | call c k ih =>
    cases vs with
    | nil => simp [Prog.steps] at hr
    | cons v vs =>
      simp only [Prog.steps, List.mem_cons, forall_eq_or_imp, exists_eq_or_imp] at hst hr
      rcases hr with hr | hr
      · have hnone := Device.address_of_removes hr
        exact Prog.run_preserves (J := fun d => d.address = none)
          (fun t ht hd => Device.address_none_step hd ht) _ hnone vs hst.2
      · exact ih _ vs hst.2 hr

theorem Device.Holds.coherent {address : String} (h : d.Holds kit address) : d.Coherent kit := by
  intro other hother
  obtain rfl : address = other := Option.some.inj (h.1.symm.trans hother)
  exact h.2

theorem Device.Holds.run {α : Type} {address : String} (h : d.Holds kit address)
    (p : Prog Call Reply α)
    (vs : List Verdict) (hq : ∀ t ∈ p.steps Device.execute d vs, ¬ Disturbs t) :
    (p.run Device.execute d vs).1.Holds kit address :=
  Prog.run_preserves (J := fun d => d.Holds kit address) (fun _ ht hd => hd.step ht) p h vs hq

theorem Clean.coherent {op : Operation} (vs : List Verdict) (hd : d.Coherent kit)
    (h : Clean op ((op.program kit).run.steps Device.execute d vs)) :
    ((op.program kit).run.run Device.execute d vs).1.Coherent kit := by
  by_cases hst : ∃ t ∈ (op.program kit).run.steps Device.execute d vs, Stores t
  · have hop : op ≠ .deleteKey := by
      rintro rfl
      obtain ⟨t, ht, hs⟩ := hst
      exact deleteKey_stores d vs t ht hs
    rcases (op.sound_run kit hop d vs).1 with hu | ⟨t, ht, hm⟩ | ⟨address, hh⟩
    · obtain ⟨t, ht, hs⟩ := hst
      exact absurd hs (hu t (List.mem_reverse.mpr ht))
    · exact absurd hst (h.current ⟨t, List.mem_reverse.mp ht, hm⟩)
    · exact hh.coherent
  · have hnone : ∀ t ∈ (op.program kit).run.steps Device.execute d vs, ¬ Stores t := by
      simpa using hst
    by_cases hdist : ∃ t ∈ (op.program kit).run.steps Device.execute d vs, Disturbs t
    · have hcomp := h.completed hdist
      cases op with
      | deleteKey =>
        have haddr := address_none_of_removes _ vs hnone hcomp
        intro address ha
        simp [haddr] at ha
      | _ => exact absurd hcomp hst
    · have hquiet : ∀ t ∈ (op.program kit).run.steps Device.execute d vs, ¬ Disturbs t := by
        simpa using hdist
      cases haddr : d.address with
      | some address => exact (Device.Holds.run ⟨haddr, hd address haddr⟩ _ vs hquiet).coherent
      | none =>
        have hstill := Prog.run_preserves (J := fun d => d.address = none)
          (fun t ht hd => Device.address_none_step hd ht) _ haddr vs hnone
        intro address ha
        simp [hstill] at ha

/-- With every call carried out the wallet signs, and reveals a phrase that
derives its key. -/
def Device.Usable (kit : Kit) (d : Device) (address : String) : Prop :=
  ∀ (v : Verdict) (signature : Signature) (message : Bytes) (reason : String),
    v.status = errSecSuccess → v.signature = some signature →
    ((SecureSigner.signMessage kit message reason).run.run Device.execute d
      (List.replicate 4 v)).2 =
        some (.ok signature) ∧
      ∃ phrase privateKey,
      ((SecureSigner.revealMnemonic reason).run.run Device.execute d (List.replicate 3 v)).2 =
          some (.ok phrase) ∧
        Mnemonic.solanaPrivateKey kit.toPrimitives phrase "" = some privateKey.1 ∧
        SecureSigner.address kit privateKey = some address

theorem Device.Working.usable {address : String} (h : d.Working kit address) :
    d.Usable kit address := by
  obtain ⟨key, privateKey, phrase, hhead, hct, hmn, haddr, hpriv⟩ := h
  obtain ⟨rest, hlist⟩ : ∃ rest, d.enclave = key :: rest := by
    cases hlist : d.enclave with
    | nil => simp [hlist] at hhead
    | cons k rest => exact ⟨rest, by simpa [hlist] using hhead⟩
  intro v signature message reason hs hsig
  constructor
  · simp [SecureSigner.signMessage, SecureSigner.loadEnclaveKey, SecureSigner.keychainGet,
      SecureSigner.unwrap, SecureSigner.found, SecureSigner.rawRepresentation, Device.execute,
      Prog.run, hs, hsig, hlist, hct,
      privateKey.2, errSecSuccess, errSecItemNotFound, List.replicate]
  · refine ⟨phrase, privateKey, ?_, hpriv, haddr⟩
    simp [SecureSigner.revealMnemonic, SecureSigner.loadEnclaveKey, SecureSigner.keychainGet,
      SecureSigner.unwrap, SecureSigner.found, Device.execute, Prog.run, hs,
      hlist, hmn, ofUtf8_utf8,
      errSecSuccess, errSecItemNotFound, List.replicate]

/-- In a session of clean operations the stored address always belongs to a wallet
in working order, and an operation that throws leaves the wallet it found. -/
theorem coherent_of_clean (hd : d.address = none) (runs : List (Operation × List Verdict))
    (hruns : Prog.EachRun Device.execute (fun op => (Operation.program kit op).run) Clean d runs) :
    (Prog.session Device.execute (fun op => (Operation.program kit op).run) d runs).Coherent kit ∧
      ∀ (op : Operation) (vs : List Verdict) (e : Halt NativeError) (address : String),
        let d' := Prog.session Device.execute (fun op => (Operation.program kit op).run) d runs
        Clean op ((op.program kit).run.steps Device.execute d' vs) → op ≠ .deleteKey →
        ((op.program kit).run.run Device.execute d' vs).2 = some (.error e) → d'.Holds kit address →
        ((op.program kit).run.run Device.execute d' vs).1.Holds kit address ∧
          ((op.program kit).run.run Device.execute d' vs).1.Usable kit address := by
  constructor
  · refine hruns.session (J := Device.Coherent kit) (fun op d vs hd hc => hc.coherent vs hd) ?_
    intro address ha
    simp [hd] at ha
  · intro op vs e address d' hc hop he hh
    have hnone := (op.sound_run kit hop d' vs).2 e he
    have hquiet : ∀ t ∈ (op.program kit).run.steps Device.execute d' vs, ¬ Disturbs t := by
      intro t ht hdist
      obtain ⟨u, hu, hcomp⟩ := hc.completed ⟨t, ht, hdist⟩
      cases op with
      | deleteKey => exact hop rfl
      | _ => exact hnone u hu hcomp
    have hkept := hh.run _ vs hquiet
    exact ⟨hkept, hkept.2.usable⟩

end Operations

section Samples

/-- Generation that gets no wrapping key throws, and leaves what `createEnclaveKey` left. -/
theorem generate_uncreated {kit : Kit} {answer : Call → Verdict} {d d' : Device}
    {privateKey : PrivateKey}
    {phrase text : String} {e : Halt NativeError}
    (hphrase : Mnemonic.encode kit.toPrimitives (answer .secRandomCopyBytes).entropy.1 =
      some phrase)
    (hkey : Mnemonic.solanaPrivateKey kit.toPrimitives phrase "" = some privateKey.1)
    (htext : SecureSigner.address kit privateKey = some text)
    (hcreate : (SecureSigner.createEnclaveKey kit.simulator).run.answered Device.execute answer d =
      (d', .error e)) :
    (Operation.program kit .generateKeyPair).run.answered Device.execute answer d =
      (d', .error e) := by
  have hgen : (SecureSigner.generate kit).run.answered Device.execute answer d =
      (d, .ok phrase) := by
    change (SecureSigner.orTrap
      (Mnemonic.encode kit.toPrimitives (answer .secRandomCopyBytes).entropy.1)).run.answered
      Device.execute answer d = (d, .ok phrase)
    rw [hphrase]
    rfl
  have htrap :
      (SecureSigner.orTrap (Mnemonic.solanaPrivateKey kit.toPrimitives phrase "")).run.answered
      Device.execute answer d = (d, .ok privateKey.1) := by
    rw [hkey]
    rfl
  have hraw :
      (SecureSigner.rawRepresentation kit privateKey.1).run.answered Device.execute answer d =
      (d, .ok privateKey) := by
    simp only [SecureSigner.rawRepresentation, privateKey.2, dif_pos]
    rfl
  have haddr : (SecureSigner.orTrap (SecureSigner.address kit privateKey)).run.answered
      Device.execute answer d =
      (d, .ok text) := by
    rw [htext]
    rfl
  have hestablish :
      (SecureSigner.establish kit privateKey.1 phrase).run.answered Device.execute answer d =
      (d', .error e) := by
    rw [SecureSigner.establish, answered_exceptBind hraw, answered_exceptBind haddr]
    exact answered_exceptBind_error hcreate
  refine answered_exceptBind_error ?_
  rw [SecureSigner.generateKeyPair, answered_exceptBind hgen, answered_exceptBind htrap]
  exact answered_exceptBind_error hestablish

/-- The phone while it is locked: no item and no key can be read, written or made. -/
def locked (c : Call) : Verdict := { sampleService.answer c with status := -25308 }

theorem createEnclaveKey_locked (d : Device) (simulator : Bool) :
    ∃ e, (SecureSigner.createEnclaveKey simulator).run.answered Device.execute locked d =
      (d, .error e) := by
  cases simulator with
  | true => exact ⟨_, rfl⟩
  | false => exact ⟨_, rfl⟩

/-- An operation that is refused everything is clean. -/
theorem clean_of_refused {op : Operation} {steps : List DeviceStep}
    (h : ∀ t ∈ steps, t.verdict.status ≠ errSecSuccess) : Clean op steps := by
  constructor
  · rintro ⟨t, ht, -, hs, -⟩
    exact absurd hs (h t ht)
  · rintro ⟨t, ht, -, -, hs, -⟩
    exact absurd hs (h t ht)

/-- So is a generation that stores its address, where every new key goes first. -/
theorem clean_of_generated {kit : Kit} {d : Device} {vs : List Verdict} (hnone : d.address = none)
    (hstored : ((Operation.program kit .generateKeyPair).run.run Device.execute d vs).1.address ≠
      none)
    (hfront : ∀ t ∈ (Operation.program kit .generateKeyPair).run.steps Device.execute d vs,
      t.verdict.front = true) :
    Clean .generateKeyPair
      ((Operation.program kit .generateKeyPair).run.steps Device.execute d vs) := by
  constructor
  · intro _
    by_contra hunstored
    have hquiet : ∀ t ∈ (Operation.program kit .generateKeyPair).run.steps Device.execute d vs,
        ¬ Stores t :=
      fun t ht hs => hunstored ⟨t, ht, hs⟩
    have hstill := Prog.run_preserves (J := fun d => d.address = none)
      (fun t ht hd => Device.address_none_step hd ht) _ hnone vs hquiet
    exact hstored hstill
  · rintro ⟨t, ht, -, hback, -⟩
    rw [hfront t ht] at hback
    cases hback

/-- A wallet that was generated survives a second generation on the locked phone. -/
theorem coherent_of_clean_locked :
    ∃ (vs ws : List Verdict) (e : Halt NativeError) (address : String),
    let d := Prog.session Device.execute
      (fun op => (Operation.program sampleKit op).run) Device.blank
      [(.generateKeyPair, vs)]
    d.address = some address ∧
      ((Operation.program sampleKit .generateKeyPair).run.run Device.execute d ws).2 =
        some (.error e) ∧
      d.Coherent sampleKit ∧
      ((Operation.program sampleKit .generateKeyPair).run.run Device.execute d ws).1.Holds
        sampleKit address ∧
      ((Operation.program sampleKit .generateKeyPair).run.run Device.execute d ws).1.Usable
        sampleKit address := by
  obtain ⟨d, privateKey, phrase, address, hphrase, hkey, haddress, hgen, hprovisioned, -, -⟩ :=
    SecureSigner.generateKeyPair_served sampleService Device.blank sampleKit
  have hfirst :
      (Operation.program sampleKit .generateKeyPair).run.answered
        Device.execute sampleService.answer
      Device.blank = (d, .ok ()) := answered_exceptBind hgen
  have hstored : d.address = some address := by
    rw [Device.address, hprovisioned.pub, Option.bind_some, Data.text, ofUtf8_utf8]
  obtain ⟨e, hcreate⟩ := createEnclaveKey_locked d sampleKit.simulator
  have hsecond : (Operation.program sampleKit .generateKeyPair).run.answered Device.execute
      locked d = (d, .error e) :=
    generate_uncreated hphrase hkey haddress hcreate
  obtain ⟨vs, hrun, hsteps⟩ := Prog.run_answered Device.execute sampleService.answer
    (Operation.program sampleKit .generateKeyPair).run Device.blank
  obtain ⟨ws, hrun', hsteps'⟩ := Prog.run_answered Device.execute locked
    (Operation.program sampleKit .generateKeyPair).run d
  rw [hfirst] at hrun
  rw [hsecond] at hrun'
  have hclean :
      Prog.EachRun Device.execute (fun op => (Operation.program sampleKit op).run)
        Clean Device.blank
      [(.generateKeyPair, vs)] := by
    refine ⟨clean_of_generated rfl ?_ fun t ht => ?_, trivial⟩
    · rw [hrun, hstored]
      exact Option.some_ne_none _
    · rw [hsteps t ht]
      rfl
  have hrefused : Clean .generateKeyPair
      ((Operation.program sampleKit .generateKeyPair).run.steps Device.execute d ws) := by
    refine clean_of_refused fun t ht => ?_
    rw [hsteps' t ht]
    exact (by decide : (-25308 : OSStatus) ≠ errSecSuccess)
  have hsession :
      Prog.session Device.execute (fun op => (Operation.program sampleKit op).run) Device.blank
      [(.generateKeyPair, vs)] = d := by
    simp only [Prog.session, hrun]
  obtain ⟨hcoherent, hkept⟩ := coherent_of_clean rfl [(.generateKeyPair, vs)] hclean
  rw [hsession] at hcoherent hkept
  have hthrown : ((Operation.program sampleKit .generateKeyPair).run.run Device.execute d ws).2 =
      some (.error e) := by
    rw [hrun']
  have hsurvives :=
    hkept .generateKeyPair ws e address hrefused (by simp) hthrown ⟨hstored,
      hcoherent address hstored⟩
  refine ⟨vs, ws, e, address, ?_⟩
  rw [hsession]
  exact ⟨hstored, hthrown, hcoherent, hsurvives.1, hsurvives.2⟩

/-- The phone after its biometrics were switched off: no access control can be had. -/
def unequipped (c : Call) : Verdict := { sampleService.answer c with holds := false }

theorem createEnclaveKey_unequipped (d : Device) (simulator : Bool) :
    ∃ e, (SecureSigner.createEnclaveKey simulator).run.answered Device.execute unequipped d =
      ((d.execute .deleteKeys (unequipped .deleteKeys)).1, .error e) := by
  cases simulator with
  | true => exact ⟨_, rfl⟩
  | false => exact ⟨_, rfl⟩

/-- A second generation that cannot make its wrapping key throws, and leaves the
address of a wallet whose key is gone, whatever the cryptography. -/
theorem secondGenerate_breaks :
    ¬ ∃ kit : Kit, ∀ runs : List (Operation × List Verdict),
      (Prog.session Device.execute (fun op => (Operation.program kit op).run) Device.blank
        runs).Coherent kit := by
  rintro ⟨kit, h⟩
  obtain ⟨d, privateKey, phrase, text, hphrase, hkey, htext, hgen,
      ⟨hpub, key, hhead, -, -⟩, -, -⟩ :=
    SecureSigner.generateKeyPair_served sampleService Device.blank kit
  have hfirst : (Operation.program kit .generateKeyPair).run.answered Device.execute
      sampleService.answer Device.blank =
      (d, .ok ()) := answered_exceptBind hgen
  obtain ⟨e, hcreate⟩ := createEnclaveKey_unequipped d kit.simulator
  generalize hd₂ : (d.execute .deleteKeys (unequipped .deleteKeys)).1 = d₂ at hcreate
  have hsecond : (Operation.program kit .generateKeyPair).run.answered Device.execute unequipped d =
      (d₂, .error e) := generate_uncreated hphrase hkey htext hcreate
  obtain ⟨vs₁, hrun₁⟩ := Prog.exists_run hfirst
  obtain ⟨vs₂, hrun₂⟩ := Prog.exists_run hsecond
  have hcoherent := h [(.generateKeyPair, vs₁), (.generateKeyPair, vs₂)]
  simp only [Prog.session, hrun₁, hrun₂] at hcoherent
  have hdevice : d₂.address = some text ∧ d₂.enclave = [] := by
    rw [← hd₂]
    by_cases hempty : d.enclave.isEmpty
    · simp only [List.isEmpty_iff] at hempty
      simp [hempty] at hhead
    · simp [Device.execute, unequipped, Service.answer, hempty, Device.address, hpub, Data.text]
  obtain ⟨key', _, _, hhead', -⟩ := hcoherent text hdevice.1
  simp [hdevice.2] at hhead'

end Samples

end Xend.Sdk
