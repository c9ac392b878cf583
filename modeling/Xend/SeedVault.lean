import Xend.StartUp

/-! The two copies of the recovery seed: which one is the newest depends on what was
refused when they were written, and the synced one is read first. -/

namespace Xend.Sdk

open Framing Interaction

/-- The phrase that is kept at one place of the vault. -/
def Device.seed (d : Device) (synchronizable : Bool) : Option String :=
  (d.item (.seedVault synchronizable)).bind Data.text

/-- Where reads are carried out, recovery is given `phrase` or nothing. -/
def Recalls (d : Device) (phrase : String) : Prop :=
  ∀ service : Service, (∀ item, service.reads item = errSecSuccess) →
    ∃ r, served service SecureSigner.loadRecoverySeed d = (d, .ok r) ∧ (r = none ∨ r = some phrase)

/-- A deletion is refused where another phrase is kept, which will be read. -/
def Revives (phrase : String) (t : DeviceStep) : Prop :=
  t.verdict.status ≠ errSecSuccess ∧
    ∃ synchronizable old, t.call = .secItemDelete [.seedVault synchronizable] ∧
    t.before.seed synchronizable = some old ∧ old ≠ phrase ∧
    (synchronizable = false → t.before.seed true = none)

abbrev storing (phrase : String) : Prog Call Reply (Except (Halt NativeError) Unit) :=
  (SecureSigner.storeRecoverySeed phrase).run

abbrev Device.afterStores (d : Device) (calls : List (String × List Verdict)) : Device :=
  Prog.session Device.execute storing d calls

def Finished (d : Device) : List (String × List Verdict) → Prop
  | [] => True
  | (phrase, vs) :: rest => ((storing phrase).run Device.execute d vs).2 ≠ none ∧
    Finished ((storing phrase).run Device.execute d vs).1 rest

section Reading

variable {d : Device} {phrase : String}

theorem loadRecoverySeed_served {service : Service}
    (hreads : ∀ item, service.reads item = errSecSuccess) (d : Device) :
    served service SecureSigner.loadRecoverySeed d =
      (d, .ok ((d.seed true).or (d.seed false))) := by
  have hlookup : ∀ b, d.lookup service.reads (.seedVault b) = d.seed b := fun b => if_pos (hreads _)
  have hread : ∀ b, (d.execute (.secItemCopyMatching (.seedVault b))
        (service.answer (.secItemCopyMatching (.seedVault b)))).1 = d ∧
      SecureSigner.readText (d.execute (.secItemCopyMatching (.seedVault b))
        (service.answer (.secItemCopyMatching (.seedVault b)))).2 = d.seed b := by
    intro b
    rw [← hlookup b]
    exact execute_read rfl
  rw [served, SecureSigner.loadRecoverySeed, SecureSigner.run_loadRecoverySeedFrom, Prog.answered,
    (hread true).1, (hread true).2]
  cases hsynced : d.seed true with
  | some text => rfl
  | none =>
    rw [Option.none_or]
    dsimp only
    rw [SecureSigner.run_loadRecoverySeedFrom, Prog.answered, (hread false).1, (hread false).2]
    cases d.seed false <;> rfl

theorem recalls_iff : Recalls d phrase ↔
    (∀ old, d.seed true = some old → old = phrase) ∧
      (d.seed true = none → ∀ old, d.seed false = some old → old = phrase) := by
  have hread : Recalls d phrase ↔
      (d.seed true).or (d.seed false) = none ∨ (d.seed true).or (d.seed false) = some phrase := by
    constructor
    · intro h
      obtain ⟨r, hr, hrecall⟩ := h sampleService fun _ => rfl
      rw [loadRecoverySeed_served fun _ => rfl] at hr
      obtain rfl : (d.seed true).or (d.seed false) = r := Except.ok.inj (congrArg Prod.snd hr)
      exact hrecall
    · intro h service hreads
      exact ⟨_, loadRecoverySeed_served hreads d, h⟩
  rw [hread]
  cases d.seed true with
  | some synced => simp
  | none => cases d.seed false <;> simp

end Reading

section Writing

variable {d : Device} {phrase : String} {vs : List Verdict}

theorem seed_delete (d : Device) (place other : Bool) (v : Verdict) :
    (d.execute (.secItemDelete [.seedVault place]) v).1.seed other =
      if v.status = errSecSuccess ∧ other = place then none else d.seed other := by
  by_cases hdeleted : v.status = errSecSuccess ∧ other = place
  · simp [Device.seed, Device.execute_delete_item, hdeleted]
  · simp [Device.seed, Device.execute_delete_item, hdeleted]

/-- A copy is stored, or what was there stays. -/
theorem seed_add (d : Device) (place : Bool) (phrase : String) (v : Verdict) :
    ((d.execute (.secItemAdd (.seedVault place) (.plain (utf8 phrase))) v).2 = errSecSuccess ∧
      d.seed place = none ∧
      ∀ other, (d.execute (.secItemAdd (.seedVault place) (.plain (utf8 phrase))) v).1.seed other =
        if other = place then some phrase else d.seed other) ∨
    (d.execute (.secItemAdd (.seedVault place) (.plain (utf8 phrase))) v).2 ≠ errSecSuccess ∧
      (d.execute (.secItemAdd (.seedVault place) (.plain (utf8 phrase))) v).1 = d := by
  by_cases hadded : v.status = errSecSuccess ∧ d.item (.seedVault place) = none
  · rw [Device.execute_add _ hadded.1 hadded.2]
    refine .inl ⟨rfl, by simp [Device.seed, hadded.2], fun other => ?_⟩
    by_cases hplace : other = place
    · simp [Device.seed, hplace, Data.text]
    · have hother : Item.seedVault other ≠ .seedVault place := by simpa using hplace
      simp [Device.seed, hplace, Device.put_ne _ _ _ _ hother]
  · exact .inr (Device.execute_add_of_ne _ hadded).symm

theorem run_keychainSet (item : Item) (data : Data) : (SecureSigner.keychainSet item data).run =
    .call (.secItemDelete [item]) fun _ => .call (.secItemAdd item data) fun status =>
      .done (if status = errSecSuccess then .ok ()
        else .error (.thrown (.secureSigner (.keychain status)))) := by
  refine congrArg (Prog.call _) (funext fun _ => congrArg (Prog.call _) (funext fun status => ?_))
  change (SecureSigner.require (decide (status = errSecSuccess)) (.keychain status)).run = _
  by_cases hs : status = errSecSuccess
  · rw [if_pos hs, decide_eq_true hs]
    rfl
  · rw [if_neg hs, decide_eq_false hs]
    rfl

def storingLocally (phrase : String) : Prog Call Reply (Except (Halt NativeError) Unit) :=
  .call (.secItemDelete [.seedVault false]) fun _ =>
    .call (.secItemAdd (.seedVault false) (.plain (utf8 phrase))) fun _ => .done (.ok ())

theorem run_storing (phrase : String) : storing phrase =
    .call (.secItemDelete [.seedVault true]) fun _ =>
      .call (.secItemAdd (.seedVault true) (.plain (utf8 phrase))) fun status =>
        if status = errSecSuccess then .done (.ok ()) else storingLocally phrase := by
  change (SecureSigner.catching (SecureSigner.keychainSet (.seedVault true) (.plain (utf8 phrase)))
    fun _ => do
    let _ ← SecureSigner.tried (SecureSigner.keychainSet (.seedVault false) (.plain (utf8 phrase)))
    pure ()).run = _
  have hlocal : (do
      let _ ← SecureSigner.tried
        (SecureSigner.keychainSet (.seedVault false) (.plain (utf8 phrase)))
      pure () : Native Unit).run = storingLocally phrase := by
    rw [run_bind, SecureSigner.tried, SecureSigner.catching, run_bind, run_keychainSet]
    refine congrArg (Prog.call _) (funext fun _ => congrArg (Prog.call _) (funext fun status => ?_))
    dsimp only
    by_cases hs : status = errSecSuccess
    · rw [if_pos hs]
      rfl
    · rw [if_neg hs]
      rfl
  rw [SecureSigner.catching, run_keychainSet]
  refine congrArg (Prog.call _) (funext fun _ => congrArg (Prog.call _) (funext fun status => ?_))
  dsimp only
  by_cases hs : status = errSecSuccess
  · rw [if_pos hs, if_pos hs]
    rfl
  · rw [if_neg hs, if_neg hs]
    exact hlocal

theorem not_revives_synced {v : Verdict} :
    ¬ Revives phrase ⟨d, .secItemDelete [.seedVault true], v⟩ ↔
    ∀ old, (d.execute (.secItemDelete [.seedVault true]) v).1.seed true = some old →
    old = phrase := by
  by_cases hs : v.status = errSecSuccess
  · simp [Revives, seed_delete, hs]
  · simp [Revives, seed_delete, hs]

theorem not_revives_local {v : Verdict} :
    ¬ Revives phrase ⟨d, .secItemDelete [.seedVault false], v⟩ ↔
    (d.seed true = none →
      ∀ old, (d.execute (.secItemDelete [.seedVault false]) v).1.seed false = some old →
      old = phrase) := by
  by_cases hs : v.status = errSecSuccess
  · simp [Revives, seed_delete, hs]
  · have hswap : (∀ old, d.seed false = some old → ¬ old = phrase → ¬ d.seed true = none) ↔
        (d.seed true = none → ∀ old, d.seed false = some old → old = phrase) := by
      constructor
      · intro h hnone old hold
        by_contra hne
        exact h old hold hne hnone
      · intro h old hold hne hnone
        exact hne (h hnone old hold)
    simpa [Revives, seed_delete, hs] using hswap

theorem not_revives_add {item : Item} {data : Data} {v : Verdict} :
    ¬ Revives phrase ⟨d, .secItemAdd item data, v⟩ := by
  simp [Revives]

theorem recalls_storingLocally_iff
    (hdone : ((storingLocally phrase).run Device.execute d vs).2 ≠ none) :
    Recalls ((storingLocally phrase).run Device.execute d vs).1 phrase ↔
      (∀ old, d.seed true = some old → old = phrase) ∧
        ∀ t ∈ (storingLocally phrase).steps Device.execute d vs, ¬ Revives phrase t := by
  match vs with
  | [] | [_] => exact absurd rfl hdone
  | v₁ :: v₂ :: rest =>
    have hsynced : (d.execute (.secItemDelete [.seedVault false]) v₁).1.seed true =
        d.seed true := by
      simp [seed_delete]
    simp only [storingLocally, Prog.run, Prog.steps, List.forall_mem_cons, List.not_mem_nil,
      false_imp_iff, implies_true, and_true, not_revives_add, not_false_eq_true,
      not_revives_local, recalls_iff]
    rcases seed_add (d.execute (.secItemDelete [.seedVault false]) v₁).1 false phrase v₂ with ⟨-,
      hnone, hseed⟩ | ⟨-, hkept⟩
    · simp [hseed, hsynced, hnone]
    · rw [hkept, hsynced]

theorem recalls_storing_iff (hdone : ((storing phrase).run Device.execute d vs).2 ≠ none) :
    Recalls ((storing phrase).run Device.execute d vs).1 phrase ↔
      ∀ t ∈ (storing phrase).steps Device.execute d vs, ¬ Revives phrase t := by
  rw [run_storing] at hdone ⊢
  match vs with
  | [] | [_] => exact absurd rfl hdone
  | v₁ :: v₂ :: rest =>
    simp only [Prog.run, Prog.steps, List.forall_mem_cons, not_revives_add,
      not_false_eq_true, true_and, not_revives_synced] at hdone ⊢
    rcases seed_add (d.execute (.secItemDelete [.seedVault true]) v₁).1 true phrase v₂ with ⟨hs,
      hnone, hseed⟩ | ⟨hs, hkept⟩
    · simp [hs, Prog.run, Prog.steps, recalls_iff, hseed, hnone]
    · rw [if_neg hs, hkept] at hdone ⊢
      exact recalls_storingLocally_iff hdone

end Writing

/-- Recovery is given the latest phrase or nothing after every call of a run, exactly if
no deletion of the run is refused where another phrase is left to be read. -/
theorem latest_or_nil_iff {d : Device} {calls : List (String × List Verdict)}
    (hdone : Finished d calls) :
    (∀ earlier phrase vs, earlier ++ [(phrase, vs)] <+: calls →
      Recalls (d.afterStores (earlier ++ [(phrase, vs)])) phrase) ↔
      Prog.EachRun Device.execute storing
        (fun phrase steps => ∀ t ∈ steps, ¬ Revives phrase t) d calls := by
  induction calls generalizing d with
  | nil => simp [Prog.EachRun]
  | cons call rest ih =>
    obtain ⟨phrase, vs⟩ := call
    obtain ⟨hfirst, hrest⟩ := hdone
    rw [Prog.EachRun, ← recalls_storing_iff hfirst, ← ih hrest]
    constructor
    · intro h
      refine ⟨h [] phrase vs ⟨rest, rfl⟩, fun earlier other us hprefix => ?_⟩
      exact h ((phrase, vs) :: earlier) other us (List.cons_prefix_cons.mpr ⟨rfl, hprefix⟩)
    · intro h earlier other us hprefix
      cases earlier with
      | nil =>
        obtain ⟨heq, -⟩ := List.cons_prefix_cons.mp hprefix
        cases heq
        exact h.1
      | cons c earlier =>
        obtain ⟨heq, hlater⟩ := List.cons_prefix_cons.mp hprefix
        cases heq
        exact h.2 earlier other us hlater

section Samples

def firstPhrase : String :=
  "legal winner thank year wave sausage worth useful legal winner thank yellow"

def secondPhrase : String :=
  "letter advice cage absurd amount doctor acoustic avoid letter advice cage above"

def carriedOut : Verdict := sampleService.answer .deleteKeys

def firstStored : Device := Device.blank.put (.seedVault true) (.plain (utf8 firstPhrase))

theorem firstStore :
    (storing firstPhrase).run Device.execute Device.blank [carriedOut, carriedOut] =
    (firstStored, some (.ok ())) := rfl

/-- The synced copy can be neither deleted nor replaced; the new phrase is kept next to it. -/
def vaultOffline : List Verdict :=
  [{ carriedOut with status := -25308 }, carriedOut, carriedOut, carriedOut]

theorem finished_twice {vs : List Verdict}
    (h : ((storing secondPhrase).run Device.execute firstStored vs).2 = some (.ok ())) :
    Finished Device.blank [(firstPhrase, [carriedOut, carriedOut]), (secondPhrase, vs)] := by
  refine ⟨by simp [firstStore], ?_, trivial⟩
  rw [firstStore, h]
  exact Option.some_ne_none _

theorem vaultOffline_revives : Revives secondPhrase
    ⟨firstStored, .secItemDelete [.seedVault true], { carriedOut with status := -25308 }⟩ := by
  refine ⟨by decide, true, firstPhrase, rfl, by simp [firstStored, Device.seed, Data.text],
    by decide, ?_⟩
  intro hfalse
  cases hfalse

/-- The second phrase is recovered where the first could be deleted, and else it is not. -/
theorem latest_or_nil_iff_twice :
    (∀ earlier phrase vs, earlier ++ [(phrase, vs)] <+:
        [(firstPhrase, [carriedOut, carriedOut]), (secondPhrase, [carriedOut, carriedOut])] →
      Recalls (Device.blank.afterStores (earlier ++ [(phrase, vs)])) phrase) ∧
    ¬ ∀ earlier phrase vs, earlier ++ [(phrase, vs)] <+:
        [(firstPhrase, [carriedOut, carriedOut]), (secondPhrase, vaultOffline)] →
      Recalls (Device.blank.afterStores (earlier ++ [(phrase, vs)])) phrase := by
  constructor
  · refine (latest_or_nil_iff (finished_twice rfl)).mpr ⟨?_, ?_, trivial⟩
    · simp [run_storing, Prog.steps, Revives, carriedOut, sampleService, Service.answer,
        Device.execute, storingLocally]
    · simp [run_storing, Prog.steps, Revives, carriedOut, sampleService, Service.answer,
        Device.execute, storingLocally]
  · intro h
    obtain ⟨-, hsecond, -⟩ := (latest_or_nil_iff (finished_twice rfl)).mp h
    exact hsecond _ List.mem_cons_self vaultOffline_revives

/-- The phrase that was stored last is not the one that is recovered. -/
theorem firstPhrase_revived :
    ¬ ∀ calls : List (String × List Verdict), Finished Device.blank calls →
      ∀ earlier phrase vs, earlier ++ [(phrase, vs)] = calls →
      Recalls (Device.blank.afterStores calls) phrase := by
  intro h
  have hdone : ((storing secondPhrase).run Device.execute firstStored vaultOffline).2 =
      some (.ok ()) := rfl
  have hrecalls :=
    h _ (finished_twice hdone) [(firstPhrase, [carriedOut, carriedOut])]
      secondPhrase vaultOffline rfl
  simp only [Device.afterStores, Prog.session, firstStore] at hrecalls
  rw [recalls_storing_iff (by rw [hdone]; exact Option.some_ne_none _)] at hrecalls
  exact hrecalls _ List.mem_cons_self vaultOffline_revives

end Samples

end Xend.Sdk
