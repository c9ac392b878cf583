import Xend.Exclusion
import Xend.KeyStore
import Xend.StartUp

/-! Native calls for one wallet, interleaved step by step: what the phone holds when
none of them is under way. -/

namespace Xend.Sdk

open Framing Interaction

def Call.changes : Call → Bool
  | .secItemAdd _ _ => true
  | .secItemDelete _ => true
  | .deleteKeys => true
  | .secKeyCreateRandomKey _ _ => true
  | _ => false

/-- The address of the wallet a call returns, if it returns one. -/
def Operation.address (kit : Kit) : Operation → Native (Option String)
  | generateKeyPair => do
    let (address, _) ← SecureSigner.generateKeyPair kit
    pure (some address)
  | restore mnemonic => do
    let address ← SecureSigner.restore kit mnemonic
    pure (some address)
  | loadOrRecover => do
    let loaded ← SecureSigner.loadOrRecover kit
    pure (loaded.map (·.address))
  | deleteKey => do
    SecureSigner.deleteKey
    pure none

abbrev NativePool (ι : Type) :=
  Pool ι Call Reply Device Verdict (Except (Halt NativeError) (Option String))

def nativeCalls {ι : Type} (kit : Kit) (d : Device) (ops : ι → Operation) : NativePool ι :=
  Pool.start d fun i => ((ops i).address kit).run

/-- A call leaves no address, or the wallet it returns in working order. -/
def Settles (kit : Kit) (r : Except (Halt NativeError) (Option String)) (d : Device) : Prop :=
  d.item .pub = none ∨ ∃ address, r = .ok (some address) ∧ d.Holds kit address

section Alone

variable {kit : Kit} {d : Device} {c : Call} {v : Verdict}

theorem execute_of_reading (h : c.changes = false) : (d.execute c v).1 = d := by
  rcases d.execute_cases c v with he | ⟨-, he⟩
  · exact he
  · generalize (d.execute c v).1 = d' at he
    cases he <;> cases h

theorem Device.Provisioned.holds {address phrase : String} {privateKey : PrivateKey}
    (h : d.Provisioned address privateKey.1 phrase)
    (haddr : SecureSigner.address kit privateKey = some address)
    (hpriv : Mnemonic.solanaPrivateKey kit.toPrimitives phrase "" = some privateKey.1) :
    d.Holds kit address := by
  obtain ⟨key, hhead, hct, hmn⟩ := h.wrapped
  refine ⟨?_, key, privateKey, phrase, hhead, hct, hmn, haddr, hpriv⟩
  rw [Device.address, h.pub, Option.bind_some, Data.text, ofUtf8_utf8]

/-- A call that works alone, and has only read so far. -/
abbrev Steadily {α : Type} (x : Native α)
    (Q : Except (Halt NativeError) α → Device → Prop) : Prop :=
  x.run.Steady Device.execute Serves Call.changes Q

theorem steady_of_call {α : Type} {Q : α → Device → Prop} {p : Prog Call Reply α}
    {k : Reply c → Prog Call Reply α}
    (hp : p = .call c k) (hc : c.changes = true)
    (h : ∀ d, p.Spec Device.execute Serves (fun _ => True) Q d) :
    p.Steady Device.execute Serves Call.changes Q := by
  subst hp
  rw [Prog.Steady, if_pos hc]
  exact h

/-- From the phrase on, a wallet is established on any phone. -/
theorem steadily_wallet {β : Type} {Q : Except (Halt NativeError) β → Device → Prop}
    {f : String → Native β} (phrase : String)
    (hf : ∀ address d, d.Holds kit address →
      (f address).run.Spec Device.execute Serves (fun _ => True) Q d) :
    Steadily (do
      let privateKey ← SecureSigner.orTrap (Mnemonic.solanaPrivateKey kit.toPrimitives phrase "")
      let address ← SecureSigner.establish kit privateKey phrase
      f address) Q := by
  obtain ⟨key, hkey, hlen⟩ : ∃ key, Mnemonic.solanaPrivateKey kit.toPrimitives phrase "" =
      some key ∧ key.length = 32 :=
    Mnemonic.exists_solanaPrivateKey phrase ""
  obtain ⟨text, htext⟩ := SecureSigner.exists_address kit ⟨key, hlen⟩
  have hraw : SecureSigner.rawRepresentation kit key = pure ⟨key, hlen⟩ := dif_pos hlen
  have hprogram : (do
      let privateKey ← SecureSigner.orTrap (Mnemonic.solanaPrivateKey kit.toPrimitives phrase "")
      let address ← SecureSigner.establish kit privateKey phrase
      f address) = SecureSigner.provision kit key phrase text >>= f := by
    rw [hkey, SecureSigner.orTrap]
    change SecureSigner.establish kit key phrase >>= f = _
    rw [SecureSigner.establish_eq, hraw, pure_bind, htext]
    rfl
  rw [Steadily, hprogram]
  refine steady_of_call (c := .deleteKeys) rfl rfl fun d => ?_
  rw [run_bind]
  refine Prog.Spec.bind ((SecureSigner.serving_provision d kit key phrase text).mono
    fun r d' _ hr => ?_)
  cases r with
  | error e => exact absurd hr id
  | ok a =>
    obtain ⟨rfl, hprovisioned, -⟩ := hr
    exact hf a d' (Device.Provisioned.holds hprovisioned htext hkey)

theorem Device.Holds.of_seed {address : String} {d' : Device} {seed : Data}
    (h : d.Holds kit address)
    (hitem : d'.item = Function.update d.item (.seedVault true) (some seed))
    (henclave : d'.enclave = d.enclave) :
    d'.Holds kit address := by
  obtain ⟨haddress, key, privateKey, phrase, hhead, hct, hmn, haddr, hpriv⟩ := h
  have hother : ∀ item, item ≠ .seedVault true → d'.item item = d.item item := by
    intro item hne
    rw [hitem, Function.update_of_ne hne]
  refine ⟨?_, key, privateKey, phrase, ?_, ?_, ?_, haddr, hpriv⟩
  · rw [Device.address, hother .pub (by simp)]
    exact haddress
  · rw [henclave, hhead]
  · rw [hother .ciphertext (by simp), hct]
  · rw [hother .mnemonic (by simp), hmn]

theorem spec_storeSeed {β : Type} {Q : Except (Halt NativeError) β → Device → Prop}
    {address : String} {b : β}
    (h : d.Holds kit address) (phrase : String) (hQ : ∀ d', d'.Holds kit address → Q (.ok b) d') :
    (do
      SecureSigner.storeRecoverySeed phrase
      pure b : Native β).run.Spec Device.execute Serves (fun _ => True) Q d := by
  rw [run_bind]
  refine Prog.Spec.bind ((SecureSigner.serving_storeRecoverySeed d phrase).mono fun r d' _ hr => ?_)
  cases r with
  | error e => exact absurd hr id
  | ok _ => exact ⟨trivial, hQ d' (h.of_seed hr.1 hr.2)⟩

theorem steadily_restored (phrase : String) : Steadily (do
      let privateKey ← SecureSigner.orTrap (Mnemonic.solanaPrivateKey kit.toPrimitives phrase "")
      let address ← SecureSigner.establish kit privateKey phrase
      SecureSigner.storeRecoverySeed phrase
      pure (some address)) (Settles kit) :=
  steadily_wallet phrase fun address _ h =>
    spec_storeSeed h phrase fun _ hd => .inr ⟨address, rfl, hd⟩

theorem steadily_search (items : List Item) :
    (SecureSigner.search (SecureSigner.continueWith kit) items).Steady
      Device.execute Serves Call.changes
      (fun r => Settles kit (r.map (Option.map (·.address)))) := by
  induction items with
  | nil => trivial
  | cons item rest ih =>
    have hread : ¬ (Call.secItemCopyMatching item).changes = true := Bool.false_ne_true
    rw [SecureSigner.search, Prog.Steady, if_neg hread]
    intro out
    cases SecureSigner.readText out with
    | none => exact ih
    | some text =>
      by_cases hpub : item = .pub
      · simp only [SecureSigner.continueWith, hpub, if_true]
        trivial
      · simp only [SecureSigner.continueWith, hpub, if_false]
        exact steadily_wallet text fun address d h => ⟨trivial, .inr ⟨address, rfl, h⟩⟩

theorem spec_deleteKey (d : Device) :
    (Operation.address kit .deleteKey).run.Spec Device.execute Serves (fun _ => True)
    (Settles kit) d := by
  have hpub : ∀ (d : Device) c v, c = .secItemDelete [.seedVault true, .seedVault false] ∨
      c = .deleteKeys →
      d.item .pub = none → (d.execute c v).1.item .pub = none := by
    rintro d c v hc hnone
    rcases d.execute_cases c v with he | ⟨-, he⟩
    · rw [he, hnone]
    · generalize (d.execute c v).1 = d' at he
      cases he with
      | add item data h => rcases hc with hc | hc <;> cases hc
      | delete items =>
        rw [Device.remove_item, hnone]
        exact ite_self none
      | deleteKeys => exact hnone
      | create flags inSecureEnclave => exact hnone
  refine ⟨trivial,
    fun v₁ _ =>
      ⟨trivial, fun v₂ _ => ⟨trivial, fun v₃ hv₃ => ⟨trivial, fun v₄ _ => ⟨trivial, fun v₅ _ =>
    ⟨trivial, .inl (hpub _ _ _ (.inr rfl) (hpub _ _ _ (.inl rfl) ?_))⟩⟩⟩⟩⟩⟩
  rw [Device.execute_delete_item, if_pos ⟨hv₃.status (by simp), List.mem_cons_self⟩]

theorem run_loadOrRecover_address (kit : Kit) : (Operation.address kit .loadOrRecover).run =
    Except.map (Option.map (·.address)) <$> (SecureSigner.loadOrRecover kit).run := by
  have hmap : Operation.address kit .loadOrRecover =
      Option.map (·.address) <$> SecureSigner.loadOrRecover kit :=
    bind_pure_comp _ _
  rw [hmap]
  exact ExceptT.run_map ..

theorem steadily_address (kit : Kit) (op : Operation) :
    Steadily (op.address kit) (Settles kit) := by
  cases op with
  | generateKeyPair =>
    have hread : (SecureSigner.generate kit).run.Calls fun c => c.changes = false :=
      calls_bind (calls_request rfl) fun _ => trivial
    rw [Operation.address, SecureSigner.generateKeyPair, Steadily]
    simp only [bind_assoc, pure_bind]
    exact steady_bind hread fun mnemonic => steadily_restored mnemonic
  | restore mnemonic =>
    have hread : (SecureSigner.validate kit mnemonic).run.Calls fun c => c.changes = false := by
      unfold SecureSigner.validate
      split <;> trivial
    rw [Operation.address, SecureSigner.restore, Steadily]
    simp only [bind_assoc, pure_bind]
    exact steady_bind hread fun _ => steadily_restored mnemonic
  | loadOrRecover =>
    rw [Steadily, run_loadOrRecover_address, SecureSigner.run_loadOrRecover_eq_search]
    exact Prog.Steady.map (steadily_search _)
  | deleteKey => exact steady_of_call (c := .secItemDelete [.ciphertext]) rfl rfl spec_deleteKey

end Alone

/-- No address is left, or one whole wallet: one that a call returned or that was
there before. -/
def OneWallet {ι : Type} (kit : Kit) (d : Device) (p : NativePool ι) : Prop :=
  p.world.item .pub = none ∨ ∃ address, p.world.Holds kit address ∧
    ((∃ i, p.answer i = some (.ok (some address))) ∨ d.address = some address)

/-- Where no two calls are in the midst of changes at once, the phone ends up with
one wallet at most. -/
theorem oneWallet_of_exclusive {ι : Type} [DecidableEq ι] {kit : Kit} {d : Device}
    (hd : d.item .pub = none ∨ ∃ address, d.Holds kit address) (ops : ι → Operation)
    (es : List (ι × Act Verdict))
    (hok : ∀ t ∈ (nativeCalls kit d ops).turns Device.execute es,
      Serves ⟨t.pool.world, t.call, t.verdict⟩ ∧ Exclusive Call.changes t)
    (hquiet : Quiescent Call.changes ((nativeCalls kit d ops).run Device.execute es)) :
    OneWallet kit d ((nativeCalls kit d ops).run Device.execute es) := by
  have hleft :=
    Pool.run_exclusive (fun _ _ _ => execute_of_reading)
      (fun i => steadily_address kit (ops i)) hok hquiet
  rcases hleft with hsame | ⟨i, r, -, hanswer, hnone | ⟨address, rfl, hholds⟩⟩
  · change ((nativeCalls kit d ops).run Device.execute es).world = d at hsame
    rw [OneWallet, hsame]
    exact hd.imp_right fun ⟨address, h⟩ => ⟨address, h, .inr h.1⟩
  · exact .inl hnone
  · exact .inr ⟨address, hholds, .inl ⟨i, hanswer⟩⟩

section Samples

theorem generateKeyPair_address (kit : Kit) (d : Device) :
    ∃ (d' : Device) (privateKey : PrivateKey) (phrase text : String),
    (Operation.address kit .generateKeyPair).run.answered Device.execute sampleService.answer d =
      (d', .ok (some text)) ∧
      d'.Provisioned text privateKey.1 phrase := by
  obtain ⟨d', privateKey, phrase, text, -, -, -, hgen, hprovisioned, -⟩ :=
    SecureSigner.generateKeyPair_served sampleService d kit
  refine ⟨d', privateKey, phrase, text, ?_, hprovisioned⟩
  rw [Operation.address, answered_exceptBind hgen]
  rfl

theorem nativeCalls_thread {ι : Type} (kit : Kit) (d : Device) (ops : ι → Operation) (i : ι) :
    (nativeCalls kit d ops).thread i = some (((ops i).address kit).run >>= .done) := by
  rw [Prog.bind_done]
  rfl

def generationAndLoad : Bool → Operation
  | true => .generateKeyPair
  | false => .loadOrRecover

theorem oneWallet_of_exclusive_generated : ∃ (es : List (Bool × Act Verdict)) (address : String),
    (∀ i, ((nativeCalls sampleKit .blank generationAndLoad).run Device.execute es).answer i =
      some (.ok (some address))) ∧
    OneWallet sampleKit .blank
      ((nativeCalls sampleKit .blank generationAndLoad).run Device.execute es) := by
  obtain ⟨d, privateKey, phrase, text, hgen, hpub, -⟩ := generateKeyPair_address sampleKit .blank
  obtain ⟨es₁, hes₁, hv₁, hworld₁, hthread₁⟩ :=
    Pool.exists_block Device.execute sampleService.answer
    (nativeCalls_thread sampleKit .blank generationAndLoad true)
  generalize hp₁ : (nativeCalls sampleKit .blank generationAndLoad).run Device.execute es₁ =
    p₁ at hworld₁ hthread₁
  have hload : p₁.thread false =
      some ((Operation.address sampleKit .loadOrRecover).run >>= .done) := by
    rw [← hp₁, Pool.thread_run_other hes₁ Bool.false_ne_true]
    exact nativeCalls_thread sampleKit .blank generationAndLoad false
  obtain ⟨es₂, hes₂, hv₂, hworld₂, hthread₂⟩ :=
    Pool.exists_block Device.execute sampleService.answer hload
  have hd : p₁.world = d := hworld₁.trans (congrArg Prod.fst hgen)
  have hfound : (served sampleService (SecureSigner.loadOrRecover sampleKit) d).2 =
      .ok (some ⟨text, false⟩) :=
    congrArg Prod.snd (loadOrRecover_found rfl hpub sampleKit)
  rw [hd, run_loadOrRecover_address, Prog.answered_map, hfound] at hthread₂
  have hdone : p₁.thread true = some (.done (.ok (some text))) :=
    hthread₁.trans (congrArg (some ∘ Prog.done ∘ Prod.snd) hgen)
  have hanswers : ∀ i,
      ((nativeCalls sampleKit .blank generationAndLoad).run Device.execute (es₁ ++ es₂)).answer i =
      some (.ok (some text)) := by
    rintro (_ | _)
    · rw [Pool.answer_eq_some, Pool.run_append, hp₁, hthread₂]
      rfl
    · rw [Pool.answer_eq_some, Pool.run_append, hp₁, Pool.thread_run_other hes₂ (by simp), hdone]
  refine ⟨es₁ ++ es₂, text, hanswers,
    oneWallet_of_exclusive (.inl rfl) generationAndLoad (es₁ ++ es₂) ?_
    fun i _ => ⟨_, hanswers i⟩⟩
  intro t ht
  rw [Pool.turns_append, hp₁, List.mem_append] at ht
  have hverdict : t.verdict = sampleService.answer t.call := ht.elim (hv₁ t) (hv₂ t)
  refine ⟨hverdict ▸ sampleService.serves _ _, fun _ j hj hbegun => ?_⟩
  rcases ht with ht | ht
  · -- Nobody else has had a turn yet.
    obtain ⟨e, he, rfl, -⟩ := hbegun
    rcases Pool.turns_log ht he with hlog | hevent
    · cases hlog
    · exact absurd ((hes₁ _ hevent).trans (hes₁ _ (Pool.turns_event ht)).symm) hj
  · obtain ⟨before, after, rfl, hpool⟩ := Pool.turns_pool ht
    have hself : t.thread = false := hes₂ _ (Pool.turns_event ht)
    have hother : j = true := by simpa [hself] using hj
    refine ⟨.ok (some text), Pool.answer_eq_some.mpr ?_⟩
    have hbefore : ∀ e ∈ before, e.1 = false := fun e he => hes₂ e (List.mem_append_left _ he)
    rw [hpool, hother, Pool.thread_run_other hbefore (by simp), hdone]

def deletionAndGeneration : Bool → Operation
  | true => .generateKeyPair
  | false => .deleteKey

def itemDeletion : Prog Call Reply Unit := do
  let _ ← Prog.perform (.secItemDelete [.ciphertext])
  let _ ← Prog.perform (.secItemDelete [.mnemonic])
  let _ ← Prog.perform (.secItemDelete [.pub])
  let _ ← Prog.perform (.secItemDelete [.seedVault true, .seedVault false])
  pure ()

theorem itemDeletion_blank : itemDeletion.answered Device.execute sampleService.answer .blank =
    (.blank, ()) := rfl

/-- A deletion that has only the key left to delete when a generation starts takes
the new key with it, whatever the cryptography. -/
theorem overlappingDeletion_mixes : ¬ ∃ kit : Kit, ∀ es : List (Bool × Act Verdict),
    (∀ t ∈ (nativeCalls kit .blank deletionAndGeneration).turns Device.execute es,
      Serves ⟨t.pool.world, t.call, t.verdict⟩) →
    (∀ i, ∃ r, ((nativeCalls kit .blank deletionAndGeneration).run Device.execute es).answer i =
      some r) →
      OneWallet kit .blank
        ((nativeCalls kit .blank deletionAndGeneration).run Device.execute es) := by
  rintro ⟨kit, h⟩
  obtain ⟨d, privateKey, phrase, text, hgen, hpub, key, hhead, -⟩ :=
    generateKeyPair_address kit .blank
  have hdelete : (nativeCalls kit .blank deletionAndGeneration).thread false =
      some (itemDeletion >>= fun _ => .call .deleteKeys fun _ => .done (.ok none)) := rfl
  obtain ⟨es₁, hes₁, hv₁, hworld₁, hthread₁⟩ :=
    Pool.exists_block Device.execute sampleService.answer hdelete
  generalize hp₁ : (nativeCalls kit .blank deletionAndGeneration).run Device.execute es₁ =
    p₁ at hworld₁ hthread₁
  have hgenerate : p₁.thread true =
      some ((Operation.address kit .generateKeyPair).run >>= .done) := by
    rw [← hp₁, Pool.thread_run_other hes₁ (by simp)]
    exact nativeCalls_thread kit .blank deletionAndGeneration true
  obtain ⟨es₂, hes₂, hv₂, hworld₂, hthread₂⟩ :=
    Pool.exists_block Device.execute sampleService.answer hgenerate
  generalize hp₂ : p₁.run Device.execute es₂ = p₂ at hworld₂ hthread₂
  have hlast : p₂.thread false = some (.call .deleteKeys fun _ => .done (.ok none)) := by
    rw [← hp₂, Pool.thread_run_other hes₂ Bool.false_ne_true]
    exact hthread₁
  have hblank : p₁.world = .blank := hworld₁.trans (congrArg Prod.fst itemDeletion_blank)
  have hd : p₂.world = d := by
    rw [hworld₂, hblank]
    exact congrArg Prod.fst hgen
  have hremoved : (p₂.world.execute .deleteKeys (sampleService.answer .deleteKeys)).1 =
      d.removeKeys := by
    have hempty : ¬ d.enclave.isEmpty := fun hempty => by simp [List.isEmpty_iff.mp hempty] at hhead
    rw [hd]
    exact congrArg Prod.fst ((if_neg (not_not.mpr rfl)).trans (if_neg hempty))
  have hrun : (nativeCalls kit .blank deletionAndGeneration).run Device.execute
      (es₁ ++ es₂ ++ [(false, .step (sampleService.answer .deleteKeys))]) =
        p₂.perform Device.execute false .deleteKeys (fun _ => .done (.ok none))
          (sampleService.answer .deleteKeys) := by
    rw [Pool.run_append, Pool.run_append, hp₁, hp₂]
    exact Pool.next_of_call _ hlast
  have hmixed := h (es₁ ++ es₂ ++ [(false, .step (sampleService.answer .deleteKeys))]) ?_ ?_
  · rw [hrun] at hmixed
    rcases hmixed with hnone | ⟨address, ⟨-, key', -, -, hhead', -⟩, -⟩
    · simp [Pool.perform, hremoved, hpub] at hnone
    · simp [Pool.perform, hremoved] at hhead'
  · intro t ht
    have hverdict : t.verdict = sampleService.answer t.call := by
      rw [Pool.turns_append, Pool.turns_append, Pool.run_append, hp₁, hp₂, List.mem_append,
        List.mem_append] at ht
      rcases ht with (ht | ht) | ht
      · exact hv₁ t ht
      · exact hv₂ t ht
      · rw [Pool.turns, Pool.turn_of_call _ hlast] at ht
        obtain rfl := List.mem_singleton.mp ht
        rfl
    rw [hverdict]
    exact sampleService.serves _ _
  · rintro (_ | _)
    · exact ⟨_, Pool.answer_eq_some.mpr (by rw [hrun, Pool.perform_thread, if_pos rfl])⟩
    · exact ⟨_,
        Pool.answer_eq_some.mpr (by rw [hrun, Pool.perform_thread, if_neg (by simp), hthread₂])⟩

end Samples

end Xend.Sdk
