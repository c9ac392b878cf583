import Xend.Interaction

/-! Any number of programs over one shared world, interleaved call by call.
A thread that crashes is dropped; the log keeps every call that was made. -/

namespace Interaction

structure Entry (ι C V : Type) where
  thread : ι
  call : C
  verdict : V

structure Pool (ι C : Type) (R : C → Type) (S V α : Type) where
  world : S
  thread : ι → Option (Prog C R α)
  log : List (Entry ι C V)

inductive Act (V : Type) where
  | step (v : V)
  | crash

/-- A call about to be made, with the whole pool it is made in. -/
structure Turn (ι C : Type) (R : C → Type) (S V α : Type) where
  pool : Pool ι C R S V α
  thread : ι
  call : C
  verdict : V

def Turn.entry {ι C : Type} {R : C → Type} {S V α : Type} (t : Turn ι C R S V α) : Entry ι C V :=
  ⟨t.thread, t.call, t.verdict⟩

theorem update_cases {ι α : Type} [DecidableEq ι] {f : ι → Option α} {i j : ι} {a x : α}
    (h : Function.update f i (some a) j = some x) : j = i ∧ x = a ∨ j ≠ i ∧ f j = some x := by
  rw [Function.update_apply] at h
  split at h
  · exact .inl ⟨‹_›, (Option.some.inj h).symm⟩
  · exact .inr ⟨‹_›, h⟩

theorem crash_cases {ι α : Type} [DecidableEq ι] {f : ι → Option α} {i j : ι} {x : α}
    (h : Function.update f i none j = some x) : f j = some x := by
  rw [Function.update_apply] at h
  split at h
  · cases h
  · exact h

namespace Pool

variable {ι C : Type} {R : C → Type} {S V α : Type} [DecidableEq ι]

def start (s : S) (progs : ι → Prog C R α) : Pool ι C R S V α := ⟨s, fun i => some (progs i), []⟩

def crash (p : Pool ι C R S V α) (i : ι) : Pool ι C R S V α :=
  { p with thread := Function.update p.thread i none }

def answer (p : Pool ι C R S V α) (i : ι) : Option α :=
  match p.thread i with
  | some (.done a) => some a
  | _ => none

section Run

variable (exec : S → (c : C) → V → S × R c)

def perform (p : Pool ι C R S V α) (i : ι) (c : C) (k : R c → Prog C R α)
    (v : V) : Pool ι C R S V α :=
  { world := (exec p.world c v).1
    thread := Function.update p.thread i (some (k (exec p.world c v).2))
    log := p.log ++ [⟨i, c, v⟩] }

def next (p : Pool ι C R S V α) : ι × Act V → Pool ι C R S V α
  | (i, .step v) =>
    match p.thread i with
    | some (.call c k) => p.perform exec i c k v
    | _ => p
  | (i, .crash) => p.crash i

def run (p : Pool ι C R S V α) (es : List (ι × Act V)) : Pool ι C R S V α := es.foldl (next exec) p

def turn (p : Pool ι C R S V α) : ι × Act V → List (Turn ι C R S V α)
  | (i, .step v) =>
    match p.thread i with
    | some (.call c _) => [⟨p, i, c, v⟩]
    | _ => []
  | (_, .crash) => []

def turns : Pool ι C R S V α → List (ι × Act V) → List (Turn ι C R S V α)
  | _, [] => []
  | p, e :: es => p.turn e ++ turns (p.next exec e) es

end Run

variable {exec : S → (c : C) → V → S × R c}

@[simp] theorem run_nil (p : Pool ι C R S V α) : p.run exec [] = p := rfl

@[simp] theorem run_cons (p : Pool ι C R S V α) (e : ι × Act V) (es : List (ι × Act V)) :
    p.run exec (e :: es) = (p.next exec e).run exec es := rfl

theorem run_append (p : Pool ι C R S V α) (es es' : List (ι × Act V)) :
    p.run exec (es ++ es') = (p.run exec es).run exec es' := List.foldl_append

@[simp] theorem crash_log (p : Pool ι C R S V α) (i : ι) : (p.crash i).log = p.log := rfl

@[simp] theorem crash_world (p : Pool ι C R S V α) (i : ι) : (p.crash i).world = p.world := rfl

theorem crash_thread (p : Pool ι C R S V α) (i j : ι) :
    (p.crash i).thread j = if j = i then none else p.thread j := by
  simp [crash, Function.update_apply]

theorem perform_thread (p : Pool ι C R S V α) (i j : ι) (c : C) (k : R c → Prog C R α) (v : V) :
    (p.perform exec i c k v).thread j =
      if j = i then some (k (exec p.world c v).2) else p.thread j := by
  simp [perform, Function.update_apply]

theorem next_of_call {p : Pool ι C R S V α} {i : ι} {c : C} {k : R c → Prog C R α} (v : V)
    (h : p.thread i = some (.call c k)) : p.next exec (i, .step v) = p.perform exec i c k v := by
  simp [next, h]

omit [DecidableEq ι] in
theorem turn_of_call {p : Pool ι C R S V α} {i : ι} {c : C} {k : R c → Prog C R α} (v : V)
    (h : p.thread i = some (.call c k)) : p.turn (i, .step v) = [⟨p, i, c, v⟩] := by
  simp [turn, h]

theorem next_of_idle {p : Pool ι C R S V α} {i : ι} (v : V)
    (h : ∀ c k, p.thread i ≠ some (.call c k)) :
    p.next exec (i, .step v) = p := by
  cases hp : p.thread i with
  | none => simp [next, hp]
  | some q =>
    cases q with
    | done a => simp [next, hp]
    | call c k => exact absurd hp (h c k)

theorem next_cases (exec : S → (c : C) → V → S × R c) (p : Pool ι C R S V α) (e : ι × Act V) :
    (p.next exec e = p ∧ p.turn e = []) ∨
    (p.next exec e = p.crash e.1 ∧ p.turn e = []) ∨
    ∃ c k v, p.thread e.1 = some (.call c k) ∧ p.next exec e = p.perform exec e.1 c k v ∧
      p.turn e = [⟨p, e.1, c, v⟩] := by
  obtain ⟨i, a⟩ := e
  cases a with
  | crash => exact .inr (.inl ⟨rfl, rfl⟩)
  | step v =>
    cases h : p.thread i with
    | none => exact .inl ⟨by simp [next, h], by simp [turn, h]⟩
    | some q =>
      cases q with
      | done a => exact .inl ⟨by simp [next, h], by simp [turn, h]⟩
      | call c k => exact .inr (.inr ⟨c, k, v, rfl, by simp [next, h], by simp [turn, h]⟩)

omit [DecidableEq ι] in
theorem answer_eq_some {p : Pool ι C R S V α} {i : ι} {a : α} :
    p.answer i = some a ↔ p.thread i = some (.done a) := by
  unfold answer
  split
  · rename_i b hb
    simp [hb]
  · rename_i hne
    simpa using hne a

theorem log_run (p : Pool ι C R S V α) (es : List (ι × Act V)) :
    (p.run exec es).log = p.log ++ (p.turns exec es).map Turn.entry := by
  induction es generalizing p with
  | nil => simp [turns]
  | cons e es ih =>
    rw [run_cons, ih, turns]
    rcases next_cases exec p e with ⟨hn, ht⟩ | ⟨hn, ht⟩ | ⟨c, k, v, -, hn, ht⟩
    · simp [hn, ht]
    · simp [hn, ht]
    · simp [hn, ht, perform, Turn.entry]

theorem turns_event {p : Pool ι C R S V α} {es : List (ι × Act V)} {t : Turn ι C R S V α}
    (h : t ∈ p.turns exec es) : (t.thread, Act.step t.verdict) ∈ es := by
  induction es generalizing p with
  | nil => cases h
  | cons e es ih =>
    rcases List.mem_append.mp h with ht | ht
    · obtain ⟨i, a⟩ := e
      cases a with
      | crash => cases ht
      | step v =>
        simp only [turn] at ht
        split at ht
        · obtain rfl := List.mem_singleton.mp ht
          exact List.mem_cons_self
        · cases ht
    · exact List.mem_cons_of_mem _ (ih ht)

theorem thread_run {p : Pool ι C R S V α} {es : List (ι × Act V)} {i : ι} (h : ∀ e ∈ es, e.1 ≠ i) :
    (p.run exec es).thread i = p.thread i := by
  induction es generalizing p with
  | nil => rfl
  | cons e es ih =>
    rw [run_cons, ih fun e' he' => h e' (List.mem_cons_of_mem _ he')]
    have hne := (h e List.mem_cons_self).symm
    rcases next_cases exec p e with ⟨hn, -⟩ | ⟨hn, -⟩ | ⟨c, k, v, -, hn, -⟩
    · rw [hn]
    · rw [hn, crash_thread, if_neg hne]
    · rw [hn, perform_thread, if_neg hne]

theorem thread_run_other {p : Pool ι C R S V α} {es : List (ι × Act V)} {i j : ι}
    (h : ∀ e ∈ es, e.1 = i) (hj : j ≠ i) :
    (p.run exec es).thread j = p.thread j :=
  thread_run fun e he hej => hj (hej.symm.trans (h e he))

theorem turns_pool {p : Pool ι C R S V α} {es : List (ι × Act V)} {t : Turn ι C R S V α}
    (h : t ∈ p.turns exec es) :
    ∃ before after, es = before ++ after ∧ t.pool = p.run exec before := by
  induction es generalizing p with
  | nil => cases h
  | cons e es ih =>
    rcases List.mem_append.mp h with ht | ht
    · refine ⟨[], e :: es, rfl, ?_⟩
      rcases next_cases exec p e with ⟨-, hn⟩ | ⟨-, hn⟩ | ⟨c, k, v, -, -, hn⟩
      · rw [hn] at ht
        cases ht
      · rw [hn] at ht
        cases ht
      · rw [hn, List.mem_singleton] at ht
        subst t
        rfl
    · obtain ⟨before, after, rfl, hp⟩ := ih ht
      exact ⟨e :: before, after, rfl, hp⟩

theorem turns_log {p : Pool ι C R S V α} {es : List (ι × Act V)}
    {t : Turn ι C R S V α} {e : Entry ι C V}
    (ht : t ∈ p.turns exec es) (he : e ∈ t.pool.log) : e ∈ p.log ∨
    (e.thread, Act.step e.verdict) ∈ es := by
  obtain ⟨before, after, rfl, hp⟩ := turns_pool ht
  rw [hp, log_run, List.mem_append] at he
  refine he.imp_right fun he => ?_
  obtain ⟨t', ht', rfl⟩ := List.mem_map.mp he
  exact List.mem_append_left _ (turns_event ht')

/-- A thread whose turns follow one another runs as it would alone. -/
theorem run_block {p : Pool ι C R S V α} {i : ι} {q : Prog C R α} (h : p.thread i = some q)
    (vs : List V) :
    (p.run exec (vs.map fun v => (i, .step v))).world = (q.run exec p.world vs).1 := by
  induction vs generalizing p q with
  | nil => cases q <;> rfl
  | cons v vs ih =>
    cases q with
    | done a =>
      have hidle : p.next exec (i, .step v) = p := next_of_idle v (by simp [h])
      have hrest := ih h
      rw [List.map_cons, run_cons, hidle, hrest]
      rfl
    | call c k =>
      have hthread : (p.perform exec i c k v).thread i = some (k (exec p.world c v).2) := by
        rw [perform_thread, if_pos rfl]
      rw [List.map_cons, run_cons, next_of_call v h, ih hthread]
      rfl

/-- Threads that run one after another, from thread `n` on. -/
def serial : Nat → List (List V) → List (Nat × Act V)
  | _, [] => []
  | n, vs :: rest => vs.map (fun v => (n, .step v)) ++ serial (n + 1) rest

theorem run_serial {p : Pool Nat C R S V α} {n : Nat} {calls : List (Prog C R α × List V)}
    (h : ∀ k, p.thread (n + k) = calls[k]?.map Prod.fst) :
    (p.run exec (serial n (calls.map Prod.snd))).world =
      calls.foldl (fun s q => (q.1.run exec s q.2).1) p.world := by
  induction calls generalizing p n with
  | nil => rfl
  | cons q calls ih =>
    have hlater : ∀ k, (p.run exec (q.2.map fun v => (n, .step v))).thread (n + 1 + k) =
        calls[k]?.map Prod.fst := by
      intro k
      have hall : ∀ e ∈ q.2.map fun v => (n, Act.step v), e.1 = n := by simp
      rw [thread_run_other hall (by omega), Nat.add_right_comm, Nat.add_assoc, h (k + 1)]
      rfl
    have hfirst : p.thread n = some q.1 := h 0
    rw [List.map_cons, serial, run_append, ih hlater, run_block hfirst]
    rfl

/-- A thread that is given all the turns gets on as it would alone. -/
theorem exists_block {β : Type} (exec : S → (c : C) → V → S × R c) (answer : C → V)
    {p : Pool ι C R S V α} {i : ι} {x : Prog C R β} {f : β → Prog C R α}
    (h : p.thread i = some (x >>= f)) :
    ∃ es, (∀ e ∈ es, e.1 = i) ∧ (∀ t ∈ p.turns exec es, t.verdict = answer t.call) ∧
      (p.run exec es).world = (x.answered exec answer p.world).1 ∧
      (p.run exec es).thread i = some (f (x.answered exec answer p.world).2) := by
  induction x generalizing p with
  | done b => exact ⟨[], by simp, by simp [turns], rfl, h⟩
  | call c k ih =>
    have hnext : p.next exec (i, .step (answer c)) =
        p.perform exec i c (fun r => k r >>= f) (answer c) := next_of_call _ h
    have hthread : (p.next exec (i, .step (answer c))).thread i =
        some (k (exec p.world c (answer c)).2 >>= f) := by
      rw [hnext, perform_thread, if_pos rfl]
    obtain ⟨es, hes, hverdicts, hworld, hend⟩ := ih _ hthread
    refine ⟨(i, .step (answer c)) :: es, ?_, ?_, ?_, ?_⟩
    · rintro e he
      rcases List.mem_cons.mp he with rfl | he
      · rfl
      · exact hes e he
    · intro t ht
      rw [turns, turn_of_call _ h] at ht
      rcases List.mem_cons.mp ht with rfl | ht
      · rfl
      · exact hverdicts t ht
    · rw [run_cons, hworld, hnext]
      rfl
    · rw [run_cons, hend, hnext]
      rfl

theorem turns_thread {p : Pool ι C R S V α} {es : List (ι × Act V)} {t : Turn ι C R S V α}
    (h : t ∈ p.turns exec es) : ∃ k, t.pool.thread t.thread = some (.call t.call k) := by
  induction es generalizing p with
  | nil => cases h
  | cons e es ih =>
    rcases List.mem_append.mp h with ht | ht
    · rcases next_cases exec p e with ⟨-, hn⟩ | ⟨-, hn⟩ | ⟨c, k, v, hp, -, hn⟩
      · rw [hn] at ht
        cases ht
      · rw [hn] at ht
        cases ht
      · rw [hn, List.mem_singleton] at ht
        subst t
        exact ⟨k, hp⟩
    · exact ih ht

/-- What every allowed call and every crash preserve holds after the run. -/
theorem run_invariant {I : Pool ι C R S V α → Prop} (Ok : Turn ι C R S V α → Prop)
    (hcall : ∀ p i c k v, I p → p.thread i = some (.call c k) → Ok ⟨p, i, c, v⟩ →
      I (p.perform exec i c k v))
    (hcrash : ∀ p i, I p → I (p.crash i))
    {p : Pool ι C R S V α} {es : List (ι × Act V)} (h : I p) (hok : ∀ t ∈ p.turns exec es, Ok t) :
    I (p.run exec es) ∧ ∀ t ∈ p.turns exec es, I t.pool := by
  induction es generalizing p with
  | nil => exact ⟨h, by simp [turns]⟩
  | cons e es ih =>
    simp only [turns, List.mem_append] at hok ⊢
    have hnext : I (p.next exec e) ∧ ∀ t ∈ p.turn e, I t.pool := by
      rcases next_cases exec p e with ⟨hn, ht⟩ | ⟨hn, ht⟩ | ⟨c, k, v, hp, hn, ht⟩
      · exact ⟨by rw [hn]; exact h, by simp [ht]⟩
      · exact ⟨by rw [hn]; exact hcrash p e.1 h, by simp [ht]⟩
      · refine ⟨?_, by simpa [ht] using h⟩
        rw [hn]
        exact hcall p e.1 c k v h hp (hok _ (.inl (by simp [ht])))
    have hh := ih hnext.1 (fun t ht => hok t (.inr ht))
    exact ⟨hh.1, fun t ht => ht.elim (hnext.2 t) (hh.2 t)⟩

theorem turns_append (p : Pool ι C R S V α) (es es' : List (ι × Act V)) :
    p.turns exec (es ++ es') = p.turns exec es ++ (p.run exec es).turns exec es' := by
  induction es generalizing p with
  | nil => rfl
  | cons e es ih => simp [turns, ih]

section Tracking

variable {Φ : Type} (resume : ι → Φ → Prog C R α)

/-- Every live thread stands at the phase that `φ` gives it. -/
def Tracks (φ : ι → Option Φ) (p : Pool ι C R S V α) : Prop :=
  ∀ i, p.thread i = (φ i).map (resume i)

variable {resume} {φ : ι → Option Φ} {p : Pool ι C R S V α}

theorem Tracks.crash (h : Tracks resume φ p) (i : ι) :
    Tracks resume (Function.update φ i none) (p.crash i) := by
  intro j
  rw [crash_thread, Function.update_apply]
  split
  · rfl
  · exact h j

theorem Tracks.perform (h : Tracks resume φ p) {i : ι} {c : C}
    {k : R c → Prog C R α} {v : V} {ph : Φ}
    (hph : k (exec p.world c v).2 = resume i ph) :
    Tracks resume (Function.update φ i (some ph)) (p.perform exec i c k v) := by
  intro j
  rw [perform_thread, Function.update_apply]
  split
  · subst j
    rw [hph]
    rfl
  · exact h j

omit [DecidableEq ι] in
theorem Tracks.call (h : Tracks resume φ p) {i : ι} {c : C} {k : R c → Prog C R α}
    (hi : p.thread i = some (.call c k)) : ∃ ph, φ i = some ph ∧ resume i ph = .call c k :=
  Option.map_eq_some_iff.mp ((h i).symm.trans hi)

omit [DecidableEq ι] in
theorem Tracks.start {s : S} {progs : ι → Prog C R α} {begins : ι → Φ}
    (h : ∀ i, progs i = resume i (begins i)) :
    Tracks resume (fun i => some (begins i)) (start s progs : Pool ι C R S V α) :=
  fun i => congrArg some (h i)

/-- `run_invariant` over the phases of the threads: one allowed call moves its
thread to a next phase and keeps `J`. -/
theorem run_tracked {J : (ι → Option Φ) → S → List (Entry ι C V) → Prop}
    (Ok : Turn ι C R S V α → Prop)
    (hcall : ∀ φ p i ph c k v, Tracks resume φ p → J φ p.world p.log → φ i = some ph →
      resume i ph = .call c k → Ok ⟨p, i, c, v⟩ → ∃ ph', k (exec p.world c v).2 = resume i ph' ∧
        J (Function.update φ i (some ph')) (exec p.world c v).1 (p.log ++ [⟨i, c, v⟩]))
    (hcrash : ∀ φ s log i, J φ s log → J (Function.update φ i none) s log)
    {es : List (ι × Act V)} (ht : Tracks resume φ p) (hj : J φ p.world p.log)
    (hok : ∀ t ∈ p.turns exec es, Ok t) :
    (∃ φ, Tracks resume φ (p.run exec es) ∧ J φ (p.run exec es).world (p.run exec es).log) ∧
      ∀ t ∈ p.turns exec es, ∃ φ, Tracks resume φ t.pool ∧ J φ t.pool.world t.pool.log := by
  refine run_invariant (I := fun p => ∃ φ, Tracks resume φ p ∧
    J φ p.world p.log) Ok ?_ ?_ ⟨φ, ht, hj⟩ hok
  · rintro p i c k v ⟨φ, ht, hj⟩ hi hv
    obtain ⟨ph, hph, hr⟩ := ht.call hi
    obtain ⟨ph', hph', hj'⟩ := hcall φ p i ph c k v ht hj hph hr hv
    exact ⟨_, ht.perform hph', hj'⟩
  · rintro p i ⟨φ, ht, hj⟩
    exact ⟨_, ht.crash i, hcrash φ _ _ i hj⟩

/-- A verdict `G` on one thread's phase is settled by what holds, `M`, at its own allowed turns. -/
theorem Tracks.outcome_iff {G : Φ → Prop} {A M : Turn ι C R S V α → Prop} {i : ι}
    (hcall : ∀ (p : Pool ι C R S V α) ph c k v, resume i ph = .call c k → A ⟨p, i, c, v⟩ →
      ∃ ph', k (exec p.world c v).2 = resume i ph' ∧ (G ph' ↔ G ph ∧ M ⟨p, i, c, v⟩))
    (hother : ∀ (p : Pool ι C R S V α) j ph c k v, resume j ph = .call c k →
      ∃ ph', k (exec p.world c v).2 = resume j ph')
    {es : List (ι × Act V)} (h : Tracks resume φ p)
    (hok : ∀ t ∈ p.turns exec es, t.thread = i → A t) :
    ∃ φ', Tracks resume φ' (p.run exec es) ∧ ∀ ph', φ' i = some ph' →
      ∃ ph, φ i = some ph ∧ (G ph' ↔ G ph ∧ ∀ t ∈ p.turns exec es, t.thread = i → M t) := by
  induction es generalizing p φ with
  | nil => exact ⟨φ, h, fun ph' hph' => ⟨ph', hph', by simp [turns]⟩⟩
  | cons e es ih =>
    simp only [turns, List.mem_append] at hok ⊢
    rcases next_cases exec p e with ⟨hn, ht⟩ | ⟨hn, ht⟩ | ⟨c, k, v, hp, hn, ht⟩
    · simp only [run_cons, hn, ht, List.not_mem_nil, false_or] at hok ⊢
      exact ih h hok
    · simp only [run_cons, hn, ht, List.not_mem_nil, false_or] at hok ⊢
      obtain ⟨φ', ht', hφ'⟩ := ih (h.crash e.1) hok
      refine ⟨φ', ht', fun ph' hph' => ?_⟩
      obtain ⟨ph, hph, hiff⟩ := hφ' ph' hph'
      rw [Function.update_apply] at hph
      split at hph
      · cases hph
      · exact ⟨ph, hph, hiff⟩
    · obtain ⟨phe, hphe, hr⟩ := h.call hp
      simp only [run_cons, hn, ht, List.mem_singleton] at hok ⊢
      by_cases hi : e.1 = i
      · subst hi
        obtain ⟨ph', hk, hiff⟩ := hcall p phe c k v hr (hok _ (.inl rfl) rfl)
        obtain ⟨φ', ht', hφ'⟩ := ih (h.perform hk) fun t ht => hok t (.inr ht)
        refine ⟨φ', ht', fun ph'' hph'' => ⟨phe, hphe, ?_⟩⟩
        obtain ⟨ph, hph, hiff'⟩ := hφ' ph'' hph''
        rw [Function.update_self] at hph
        cases hph
        rw [hiff', hiff]
        constructor
        · rintro ⟨⟨hg, hm⟩, hall⟩
          exact ⟨hg, fun t ht hti => ht.elim (fun he => he ▸ hm) fun ht => hall t ht hti⟩
        · rintro ⟨hg, hall⟩
          exact ⟨⟨hg, hall _ (.inl rfl) rfl⟩, fun t ht hti => hall t (.inr ht) hti⟩
      · obtain ⟨ph', hk⟩ := hother p e.1 phe c k v hr
        obtain ⟨φ', ht', hφ'⟩ := ih (h.perform hk) fun t ht => hok t (.inr ht)
        refine ⟨φ', ht', fun ph'' hph'' => ?_⟩
        obtain ⟨ph, hph, hiff'⟩ := hφ' ph'' hph''
        rw [Function.update_of_ne (Ne.symm hi)] at hph
        refine ⟨ph, hph, hiff'.trans (and_congr_right fun _ => ?_)⟩
        constructor
        · exact fun hall t ht hti => ht.elim (fun he => absurd (by rw [← hti, he]) hi) fun ht =>
            hall t ht hti
        · exact fun hall t ht hti => hall t (.inr ht) hti

end Tracking

/-- A relation to the run without the events of some threads. -/
theorem run_filter {T : Pool ι C R S V α → Pool ι C R S V α → Prop} {keep : ι → Bool}
    (Ok : Turn ι C R S V α → Prop)
    (hkeep : ∀ p p' e, keep e.1 = true → (∀ t ∈ p.turn e, Ok t) → T p p' →
      T (p.next exec e) (p'.next exec e))
    (hdrop : ∀ p p' e, keep e.1 = false → (∀ t ∈ p.turn e, Ok t) → T p p' → T (p.next exec e) p')
    {p p' : Pool ι C R S V α} {es : List (ι × Act V)} (h : T p p')
    (hok : ∀ t ∈ p.turns exec es, Ok t) :
    T (p.run exec es) (p'.run exec (es.filter fun e => keep e.1)) := by
  induction es generalizing p p' with
  | nil => exact h
  | cons e es ih =>
    simp only [turns, List.mem_append] at hok
    have ht : ∀ t ∈ p.turn e, Ok t := fun t ht => hok t (.inl ht)
    have hts : ∀ t ∈ (p.next exec e).turns exec es, Ok t := fun t ht => hok t (.inr ht)
    cases hk : keep e.1 with
    | true =>
      simp only [List.filter_cons, hk, if_true]
      exact ih (hkeep p p' e hk ht h) hts
    | false =>
      simp only [List.filter_cons, hk, Bool.false_eq_true, if_false]
      exact ih (hdrop p p' e hk ht h) hts

end Pool

end Interaction
