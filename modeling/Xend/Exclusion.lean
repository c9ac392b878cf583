import Xend.Interleaving

/-! Programs that change a shared world one at a time, each from its first change to
its end. What each does alone then holds of all of them together. -/

namespace Interaction

section

variable {ι C : Type} {R : C → Type} {S V α β ε : Type} (exec : S → (c : C) → V → S × R c)
    (Ok : Step C S V → Prop)
  (changes : C → Bool) (Q : α → S → Prop)

/-- A program that has changed nothing yet: it only reads, up to a point from which it
ends in `Q`, whatever world it finds there. -/
def Prog.Steady : Prog C R α → Prop
  | .done _ => True
  | .call c k =>
    if changes c then ∀ s, (call c k).Spec exec Ok (fun _ => True) Q s else ∀ r, (k r).Steady

def Begun (log : List (Entry ι C V)) (i : ι) : Prop := ∃ e ∈ log, e.thread = i ∧
    changes e.call = true

/-- Whoever makes a change finds the others before their first or at their end. -/
def Exclusive (t : Turn ι C R S V α) : Prop :=
  changes t.call = true → ∀ j, j ≠ t.thread → Begun changes t.pool.log j →
    ∃ a, t.pool.answer j = some a

/-- Nobody is in the midst of changes. -/
def Quiescent (p : Pool ι C R S V α) : Prop := ∀ i, Begun changes p.log i → ∃ a, p.answer i = some a

/-- The world is as `s` was, or as the last to change it has left it. -/
def LeftBy (s : S) (p : Pool ι C R S V α) : Prop :=
  p.world = s ∨ ∃ i a, Begun changes p.log i ∧ p.answer i = some a ∧ Q a p.world

/-- At most one thread is in the midst of changes, and the world is what it alone makes of it. -/
structure Orderly (s : S) (p : Pool ι C R S V α) : Prop where
  steady : ∀ i q, p.thread i = some q → ¬ Begun changes p.log i → q.Steady exec Ok changes Q
  busy : ∀ i q, p.thread i = some q → Begun changes p.log i →
    (∃ a, q = .done a) ∨ q.Spec exec Ok (fun _ => True) Q p.world
  left : Quiescent changes p → LeftBy changes Q s p

variable {exec Ok changes Q}

namespace Prog

theorem Steady.bind {p : Prog C R β} {f : β → Prog C R α} (hp : p.Calls fun c => changes c = false)
    (hf : ∀ b, (f b).Steady exec Ok changes Q) : (p >>= f).Steady exec Ok changes Q := by
  induction p with
  | done b => exact hf b
  | call c k ih =>
    rw [call_bind, Steady, hp.1, if_neg Bool.false_ne_true]
    exact fun r => ih r (hp.2 r)

theorem Steady.map {f : β → α} {p : Prog C R β} (h : p.Steady exec Ok changes (fun b => Q (f b))) :
    (f <$> p).Steady exec Ok changes Q := by
  induction p with
  | done b => trivial
  | call c k ih =>
    rw [map_call, Steady]
    rw [Steady] at h
    split
    · rename_i hc
      rw [if_pos hc] at h
      exact fun s => Spec.map (f := f) (h s)
    · rename_i hc
      rw [if_neg hc] at h
      exact fun r => ih r (h r)

end Prog

theorem steady_bind {x : ExceptT ε (Prog C R) β} {f : β → ExceptT ε (Prog C R) α}
    {Q : Except ε α → S → Prop}
    (hx : x.run.Calls fun c => changes c = false) (hf : ∀ b, (f b).run.Steady exec Ok changes Q) :
    (x >>= f).run.Steady exec Ok changes Q := by
  rw [run_bind]
  refine Prog.Steady.bind hx fun r => ?_
  cases r with
  | ok b => exact hf b
  | error e => trivial

theorem Begun.append {log : List (Entry ι C V)} {i j : ι} {c : C} {v : V} :
    Begun changes (log ++ [⟨i, c, v⟩]) j ↔ Begun changes log j ∨ j = i ∧ changes c = true := by
  constructor
  · rintro ⟨e, he, hthread, hc⟩
    rcases List.mem_append.mp he with he | he
    · exact .inl ⟨e, he, hthread, hc⟩
    · obtain rfl := List.mem_singleton.mp he
      exact .inr ⟨hthread.symm, hc⟩
  · rintro (⟨e, he, hh⟩ | ⟨rfl, hc⟩)
    · exact ⟨e, List.mem_append_left _ he, hh⟩
    · exact ⟨_, List.mem_append_right _ List.mem_cons_self, rfl, hc⟩

variable [DecidableEq ι] {s : S} {p : Pool ι C R S V α}

theorem Pool.answer_perform (p : Pool ι C R S V α) {i j : ι} (hj : j ≠ i) (c : C)
    (k : R c → Prog C R α) (v : V) :
    (p.perform exec i c k v).answer j = p.answer j := by
  rw [Pool.answer, Pool.answer, Pool.perform_thread, if_neg hj]

theorem Pool.answer_crash (p : Pool ι C R S V α) {i j : ι} (hj : j ≠ i) :
    (p.crash i).answer j = p.answer j := by
  rw [Pool.answer, Pool.answer, Pool.crash_thread, if_neg hj]

theorem Pool.answer_crash_self (p : Pool ι C R S V α) (i : ι) : (p.crash i).answer i = none := by
  rw [Pool.answer, Pool.crash_thread, if_pos rfl]

omit [DecidableEq ι] in
theorem Orderly.start {progs : ι → Prog C R α}
    (h : ∀ i, (progs i).Steady exec Ok changes Q) (s : S) :
    Orderly exec Ok changes Q s (Pool.start s progs : Pool ι C R S V α) := by
  refine ⟨fun i q hq _ => ?_, fun i q _ hb => ?_, fun _ => .inl rfl⟩
  · obtain rfl := Option.some.inj hq
    exact h i
  · obtain ⟨e, he, -⟩ := hb
    cases he

omit [DecidableEq ι] in
/-- A thread that has made a change goes on as it would alone. -/
theorem Orderly.next (h : Orderly exec Ok changes Q s p) {i : ι} {c : C}
    {k : R c → Prog C R α} {v : V}
    (hi : p.thread i = some (.call c k)) (hv : Ok ⟨p.world, c, v⟩)
    (hb : Begun changes p.log i ∨ changes c = true) :
    (k (exec p.world c v).2).Spec exec Ok (fun _ => True) Q (exec p.world c v).1 := by
  by_cases hbefore : Begun changes p.log i
  · rcases h.busy i _ hi hbefore with ⟨a, ha⟩ | hspec
    · cases ha
    · exact hspec.2 v hv
  · have hsteady := h.steady i _ hi hbefore
    rw [Prog.Steady, hb.resolve_left hbefore, if_pos rfl] at hsteady
    exact (hsteady p.world).2 v hv

section Perform

variable {i j : ι} {c : C} {k : R c → Prog C R α} {v : V}

theorem begun_perform :
    Begun changes (p.perform exec i c k v).log j ↔ Begun changes p.log j ∨
    j = i ∧ changes c = true :=
  Begun.append

theorem Pool.perform_thread_self :
    (p.perform exec i c k v).thread i = some (k (exec p.world c v).2) := by
  rw [Pool.perform_thread, if_pos rfl]

theorem Pool.perform_thread_other (hj : j ≠ i) :
    (p.perform exec i c k v).thread j = p.thread j := by
  rw [Pool.perform_thread, if_neg hj]

theorem Orderly.perform_steady (h : Orderly exec Ok changes Q s p)
    (hi : p.thread i = some (.call c k)) {q : Prog C R α}
    (hq : (p.perform exec i c k v).thread j = some q)
    (hb : ¬ Begun changes (p.perform exec i c k v).log j) :
    q.Steady exec Ok changes Q := by
  have hidle := not_or.mp (mt begun_perform.mpr hb)
  by_cases hj : j = i
  · subst hj
    obtain rfl := Option.some.inj (Pool.perform_thread_self.symm.trans hq)
    have hsteady := h.steady j _ hi hidle.1
    rw [Prog.Steady, if_neg fun hc => hidle.2 ⟨rfl, hc⟩] at hsteady
    exact hsteady _
  · rw [Pool.perform_thread_other hj] at hq
    exact h.steady j q hq hidle.1

/-- Another thread that has made changes is done, or nothing changes under it. -/
theorem Orderly.perform_busy (hread : ∀ s c v, changes c = false → (exec s c v).1 = s)
    (h : Orderly exec Ok changes Q s p) (hi : p.thread i = some (.call c k))
    (hv : Ok ⟨p.world, c, v⟩)
    (hx : Exclusive changes ⟨p, i, c, v⟩) {q : Prog C R α}
    (hq : (p.perform exec i c k v).thread j = some q)
    (hb : Begun changes (p.perform exec i c k v).log j) :
    (∃ a, q = .done a) ∨ q.Spec exec Ok (fun _ => True) Q (p.perform exec i c k v).world := by
  by_cases hj : j = i
  · subst hj
    obtain rfl := Option.some.inj (Pool.perform_thread_self.symm.trans hq)
    exact .inr (h.next hi hv ((begun_perform.mp hb).imp_right And.right))
  · rw [Pool.perform_thread_other hj] at hq
    have hbefore := (begun_perform.mp hb).resolve_right fun hh => hj hh.1
    cases hc : changes c with
    | true =>
      obtain ⟨a, ha⟩ := hx hc j hj hbefore
      rw [Pool.answer_eq_some, hq] at ha
      exact .inl ⟨a, Option.some.inj ha⟩
    | false =>
      have hworld : (p.perform exec i c k v).world = p.world := hread p.world c v hc
      rw [hworld]
      exact h.busy j q hq hbefore

/-- What the performing thread leaves is its own if it has made changes, and else
what was left before. -/
theorem Orderly.perform_left (hread : ∀ s c v, changes c = false → (exec s c v).1 = s)
    (h : Orderly exec Ok changes Q s p) (hi : p.thread i = some (.call c k))
    (hv : Ok ⟨p.world, c, v⟩)
    (hquiet : Quiescent changes (p.perform exec i c k v)) :
    LeftBy changes Q s (p.perform exec i c k v) := by
  by_cases hb : Begun changes (p.perform exec i c k v).log i
  · obtain ⟨a, ha⟩ := hquiet i hb
    have hdone := Pool.answer_eq_some.mp ha
    rw [Pool.perform_thread_self, Option.some.injEq] at hdone
    have hend := h.next hi hv ((begun_perform.mp hb).imp_right And.right)
    rw [hdone] at hend
    exact .inr ⟨i, a, hb, ha, hend.2⟩
  · have hidle := not_or.mp (mt begun_perform.mpr hb)
    have hworld : (p.perform exec i c k v).world = p.world :=
      hread p.world c v (Bool.eq_false_iff.mpr fun hc => hidle.2 ⟨rfl, hc⟩)
    have hkept : ∀ {j}, Begun changes p.log j → (p.perform exec i c k v).answer j = p.answer j := by
      intro j hbefore
      refine p.answer_perform (fun hj => ?_) c k v
      subst hj
      exact hidle.1 hbefore
    have hbefore : Quiescent changes p := by
      intro j hj
      obtain ⟨a, ha⟩ := hquiet j (begun_perform.mpr (.inl hj))
      exact ⟨a, hkept hj ▸ ha⟩
    rcases h.left hbefore with hsame | ⟨j, a, hj, ha, hleft⟩
    · exact .inl (hworld.trans hsame)
    · refine .inr ⟨j, a, begun_perform.mpr (.inl hj), (hkept hj).trans ha, ?_⟩
      rw [hworld]
      exact hleft

theorem Orderly.perform (hread : ∀ s c v, changes c = false → (exec s c v).1 = s)
    (h : Orderly exec Ok changes Q s p) (hi : p.thread i = some (.call c k))
    (hv : Ok ⟨p.world, c, v⟩)
    (hx : Exclusive changes ⟨p, i, c, v⟩) :
    Orderly exec Ok changes Q s (p.perform exec i c k v) where
  steady _ _ hq hb := h.perform_steady hi hq hb
  busy _ _ hq hb := h.perform_busy hread hi hv hx hq hb
  left hquiet := h.perform_left hread hi hv hquiet

end Perform

theorem Orderly.crash (h : Orderly exec Ok changes Q s p) (i : ι) :
    Orderly exec Ok changes Q s (p.crash i) := by
  have hthread : ∀ {j q}, (p.crash i).thread j = some q → p.thread j = some q := by
    intro j q hq
    rw [Pool.crash_thread] at hq
    split at hq
    · cases hq
    · exact hq
  refine ⟨fun j q hq hb => h.steady j q (hthread hq) hb,
    fun j q hq hb => h.busy j q (hthread hq) hb, fun hquiet => ?_⟩
  have hne : ∀ {j}, Begun changes p.log j → j ≠ i := by
    rintro j hb rfl
    obtain ⟨a, ha⟩ := hquiet j hb
    rw [p.answer_crash_self] at ha
    cases ha
  have hbefore : Quiescent changes p := by
    intro j hb
    obtain ⟨a, ha⟩ := hquiet j hb
    exact ⟨a, (p.answer_crash (hne hb)).symm.trans ha⟩
  rcases h.left hbefore with hsame | ⟨j, a, hb, ha, hleft⟩
  · exact .inl hsame
  · exact .inr ⟨j, a, hb, (p.answer_crash (hne hb)).trans ha, hleft⟩

/-- Where changes exclude each other, the world ends up as one of the programs leaves it. -/
theorem Pool.run_exclusive (hread : ∀ s c v, changes c = false → (exec s c v).1 = s)
    {progs : ι → Prog C R α}
    (hsteady : ∀ i, (progs i).Steady exec Ok changes Q) {es : List (ι × Act V)}
    (hok : ∀ t ∈ (Pool.start s progs).turns exec es, Ok ⟨t.pool.world, t.call, t.verdict⟩ ∧
      Exclusive changes t)
    (hquiet : Quiescent changes ((Pool.start s progs).run exec es)) :
    LeftBy changes Q s ((Pool.start s progs).run exec es) := by
  have horderly := (Pool.run_invariant (I := Orderly exec Ok changes Q s)
    (fun t => Ok ⟨t.pool.world, t.call, t.verdict⟩ ∧ Exclusive changes t)
    (fun p i c k v h hi hok => h.perform hread hi hok.1 hok.2) (fun p i h => h.crash i)
    (Orderly.start hsteady s) hok).1
  exact horderly.left hquiet

end

end Interaction
