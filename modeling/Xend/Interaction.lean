import Mathlib.Logic.Function.Basic

/-! Programs that act only through calls to their surroundings. A run is
driven by one verdict per call; a verdict list that ends early is a process
that died between two calls. -/

namespace Interaction

inductive Prog (C : Type) (R : C → Type) (α : Type) where
  | done (a : α)
  | call (c : C) (k : R c → Prog C R α)

/-- One executed call: the state it found, the call and its verdict. -/
structure Step (C S V : Type) where
  before : S
  call : C
  verdict : V

namespace Prog

variable {C : Type} {R : C → Type} {S V α β γ : Type}

def bind : Prog C R α → (α → Prog C R β) → Prog C R β
  | done a, f => f a
  | call c k, f => call c fun r => (k r).bind f

def perform (c : C) : Prog C R (R c) := call c done

instance : Monad (Prog C R) where
  pure := done
  bind := bind

@[simp] theorem pure_eq (a : α) : (pure a : Prog C R α) = done a := rfl

@[simp] theorem done_bind (a : α) (f : α → Prog C R β) : done a >>= f = f a := rfl

@[simp] theorem call_bind (c : C) (k : R c → Prog C R α) (f : α → Prog C R β) :
    call c k >>= f = call c fun r => k r >>= f := rfl

@[simp] theorem perform_bind (c : C) (f : R c → Prog C R β) : perform c >>= f = call c f := rfl

theorem bind_done (p : Prog C R α) : p >>= done = p := by
  induction p with
  | done a => rfl
  | call c k ih => exact congrArg (call c) (funext ih)

theorem bind_assoc (p : Prog C R α) (f : α → Prog C R β) (g : β → Prog C R γ) :
    p >>= f >>= g = p >>= fun a => f a >>= g := by
  induction p with
  | done a => rfl
  | call c k ih => exact congrArg (call c) (funext ih)

instance : LawfulMonad (Prog C R) := LawfulMonad.mk' (Prog C R)
  (fun p => bind_done p) (fun _ _ => rfl) (fun p f g => bind_assoc p f g)

@[simp] theorem map_done (f : α → β) (a : α) : f <$> (done a : Prog C R α) = done (f a) := rfl

@[simp] theorem map_call (f : α → β) (c : C) (k : R c → Prog C R α) :
    f <$> call c k = call c fun r => f <$> k r := rfl

/-- The call a program waits on, if it has not finished. -/
def next : Prog C R α → Option C
  | done _ => none
  | call c _ => some c

section Run

variable (exec : S → (c : C) → V → S × R c)

def run : Prog C R α → S → List V → S × Option α
  | done a, s, _ => (s, some a)
  | call _ _, s, [] => (s, none)
  | call c k, s, v :: vs => run (k (exec s c v).2) (exec s c v).1 vs

def steps : Prog C R α → S → List V → List (Step C S V)
  | call c k, s, v :: vs => ⟨s, c, v⟩ :: steps (k (exec s c v).2) (exec s c v).1 vs
  | _, _, _ => []

theorem steps_nil (p : Prog C R α) (s : S) : p.steps exec s [] = [] := by
  cases p <;> rfl

/-- Under verdicts that satisfy `Ok`, the program keeps `I` at every point and
ends in `Q`. -/
def Spec (Ok : Step C S V → Prop) (I : S → Prop) : Prog C R α → (α → S → Prop) → S → Prop
  | done a, Q, s => I s ∧ Q a s
  | call c k, Q, s => I s ∧ ∀ v, Ok ⟨s, c, v⟩ → Spec Ok I (k (exec s c v).2) Q (exec s c v).1

variable {exec} {Ok : Step C S V → Prop} {I : S → Prop}

theorem Spec.mono {p : Prog C R α} {Q Q' : α → S → Prop} {s : S} (h : p.Spec exec Ok I Q s)
    (hQ : ∀ a s, I s → Q a s → Q' a s) : p.Spec exec Ok I Q' s := by
  induction p generalizing s with
  | done a => exact ⟨h.1, hQ a s h.1 h.2⟩
  | call c k ih => exact ⟨h.1, fun v hv => ih _ (h.2 v hv)⟩

theorem Spec.weaken {I' : S → Prop} {p : Prog C R α} {Q : α → S → Prop} {s : S}
    (h : p.Spec exec Ok I Q s)
    (hI : ∀ s, I s → I' s) : p.Spec exec Ok I' Q s := by
  induction p generalizing s with
  | done a => exact ⟨hI s h.1, h.2⟩
  | call c k ih => exact ⟨hI s h.1, fun v hv => ih _ (h.2 v hv)⟩

theorem Spec.and {I' : S → Prop} {p : Prog C R α} {Q Q' : α → S → Prop} {s : S}
    (h : p.Spec exec Ok I Q s)
    (h' : p.Spec exec Ok I' Q' s) : p.Spec exec Ok I (fun a s => Q a s ∧ Q' a s) s := by
  induction p generalizing s with
  | done a => exact ⟨h.1, h.2, h'.2⟩
  | call c k ih => exact ⟨h.1, fun v hv => ih _ (h.2 v hv) (h'.2 v hv)⟩

theorem spec_any (p : Prog C R α) (s : S) : p.Spec exec Ok (fun _ => True) (fun _ _ => True) s := by
  induction p generalizing s with
  | done a => exact ⟨trivial, trivial⟩
  | call c k ih => exact ⟨trivial, fun v _ => ih _ _⟩

theorem Spec.bind {p : Prog C R α} {f : α → Prog C R β} {Q : β → S → Prop} {s : S}
    (h : p.Spec exec Ok I (fun a s => (f a).Spec exec Ok I Q s) s) :
    (p >>= f).Spec exec Ok I Q s := by
  induction p generalizing s with
  | done a => exact h.2
  | call c k ih => exact ⟨h.1, fun v hv => ih _ (h.2 v hv)⟩

theorem Spec.map {p : Prog C R α} {f : α → β} {Q : β → S → Prop} {s : S}
    (h : p.Spec exec Ok I (fun a => Q (f a)) s) : (f <$> p).Spec exec Ok I Q s := by
  induction p generalizing s with
  | done a => exact h
  | call c k ih => exact ⟨h.1, fun v hv => ih _ (h.2 v hv)⟩

theorem Spec.run {p : Prog C R α} {Q : α → S → Prop} {s : S} (h : p.Spec exec Ok I Q s)
    (vs : List V) (hok : ∀ t ∈ p.steps exec s vs, Ok t) :
    I (p.run exec s vs).1 ∧ ∀ a, (p.run exec s vs).2 = some a → Q a (p.run exec s vs).1 := by
  induction p generalizing s vs with
  | done a => exact ⟨h.1, fun b hb => by cases hb; exact h.2⟩
  | call c k ih =>
    cases vs with
    | nil => exact ⟨h.1, fun b hb => by simp [Prog.run] at hb⟩
    | cons v vs =>
      simp only [steps, List.mem_cons, forall_eq_or_imp] at hok
      exact ih _ (h.2 v hok.1) vs hok.2

theorem Spec.steps {p : Prog C R α} {Q : α → S → Prop} {s : S} (h : p.Spec exec Ok I Q s)
    (vs : List V) (hok : ∀ t ∈ p.steps exec s vs, Ok t) : ∀ t ∈ p.steps exec s vs, I t.before := by
  induction p generalizing s vs with
  | done a => simp [Prog.steps]
  | call c k ih =>
    cases vs with
    | nil => simp [Prog.steps]
    | cons v vs =>
      simp only [Prog.steps, List.mem_cons, forall_eq_or_imp] at hok ⊢
      exact ⟨h.1, ih _ (h.2 v hok.1) vs hok.2⟩

/-- Every call the program can make satisfies `P`, whatever it is answered. -/
def Calls (P : C → Prop) : Prog C R α → Prop
  | done _ => True
  | call c k => P c ∧ ∀ r, Calls P (k r)

theorem calls_any (p : Prog C R α) : p.Calls fun _ => True := by
  induction p with
  | done a => trivial
  | call c k ih => exact ⟨trivial, ih⟩

theorem Calls.mono {P P' : C → Prop} {p : Prog C R α} (h : p.Calls P) (hP : ∀ c, P c → P' c) :
    p.Calls P' := by
  induction p with
  | done a => trivial
  | call c k ih => exact ⟨hP c h.1, fun r => ih r (h.2 r)⟩

theorem Calls.bind {P : C → Prop} {p : Prog C R α} {f : α → Prog C R β} (h : p.Calls P)
    (hf : ∀ a, (f a).Calls P) : (p >>= f).Calls P := by
  induction p with
  | done a => exact hf a
  | call c k ih => exact ⟨h.1, fun r => ih r (h.2 r)⟩

theorem Calls.map {P : C → Prop} {p : Prog C R α} (h : p.Calls P) (f : α → β) :
    (f <$> p).Calls P := by
  induction p with
  | done a => trivial
  | call c k ih => exact ⟨h.1, fun r => ih r (h.2 r)⟩

theorem Calls.steps {P : C → Prop} {p : Prog C R α} (h : p.Calls P) (s : S) (vs : List V) :
    ∀ t ∈ p.steps exec s vs, P t.call := by
  induction p generalizing s vs with
  | done a => simp [Prog.steps]
  | call c k ih =>
    cases vs with
    | nil => simp [Prog.steps]
    | cons v vs =>
      simp only [Prog.steps, List.mem_cons, forall_eq_or_imp]
      exact ⟨h.1, ih _ (h.2 _) _ vs⟩

theorem Calls.spec {P : C → Prop} {J : S → Prop} {p : Prog C R α} (h : p.Calls P)
    (hJ : ∀ s c v, P c → J s → J (exec s c v).1) (hI : ∀ s, J s → I s) {s : S} (hs : J s) :
    p.Spec exec Ok I (fun _ => J) s := by
  induction p generalizing s with
  | done a => exact ⟨hI s hs, hs⟩
  | call c k ih => exact ⟨hI s hs, fun v _ => ih _ (h.2 _) (hJ s c v h.1 hs)⟩

theorem run_preserves {J : S → Prop}
    (hJ : ∀ t : Step C S V, Ok t → J t.before → J (exec t.before t.call t.verdict).1)
    (p : Prog C R α) {s : S} (hs : J s) (vs : List V) (hok : ∀ t ∈ p.steps exec s vs, Ok t) :
    J (p.run exec s vs).1 := by
  induction p generalizing s vs with
  | done a => exact hs
  | call c k ih =>
    cases vs with
    | nil => exact hs
    | cons v vs =>
      simp only [Prog.steps, List.mem_cons, forall_eq_or_imp] at hok
      exact ih _ (hJ _ hok.1 hs) vs hok.2

theorem steps_preserve {J : S → Prop}
    (hJ : ∀ t : Step C S V, Ok t → J t.before → J (exec t.before t.call t.verdict).1)
    (p : Prog C R α) {s : S} (hs : J s) (vs : List V) (hok : ∀ t ∈ p.steps exec s vs, Ok t) :
    ∀ t ∈ p.steps exec s vs, J t.before := by
  induction p generalizing s vs with
  | done a => simp [Prog.steps]
  | call c k ih =>
    cases vs with
    | nil => simp [Prog.steps]
    | cons v vs =>
      simp only [Prog.steps, List.mem_cons, forall_eq_or_imp] at hok ⊢
      exact ⟨hs, ih _ (hJ ⟨s, c, v⟩ hok.1 hs) vs hok.2⟩

/-- A run of `p >>= f` ends within `p`, or goes on with the value that `p` ended in. -/
theorem bind_cases (exec : S → (c : C) → V → S × R c) (p : Prog C R α) (f : α → Prog C R β)
    (s : S) (vs : List V) :
    ((p.run exec s vs).2 = none ∧ (p >>= f).run exec s vs = ((p.run exec s vs).1, none) ∧
        (p >>= f).steps exec s vs = p.steps exec s vs) ∨
      ∃ a vs', (p.run exec s vs).2 = some a ∧
      (p >>= f).run exec s vs = (f a).run exec (p.run exec s vs).1 vs' ∧
        (p >>= f).steps exec s vs = p.steps exec s vs ++
          (f a).steps exec (p.run exec s vs).1 vs' := by
  induction p generalizing s vs with
  | done a => exact .inr ⟨a, vs, rfl, rfl, rfl⟩
  | call c k ih =>
    cases vs with
    | nil => exact .inl ⟨rfl, rfl, rfl⟩
    | cons v vs =>
      rcases ih _ (exec s c v).1 vs with ⟨hnone, hrun, hsteps⟩ | ⟨a, vs', hsome, hrun, hsteps⟩
      · exact .inl ⟨hnone, hrun, congrArg (List.cons _) hsteps⟩
      · exact .inr ⟨a, vs', hsome, hrun, congrArg (List.cons _) hsteps⟩

theorem run_map (f : α → β) (p : Prog C R α) (s : S) (vs : List V) :
    (f <$> p).run exec s vs = ((p.run exec s vs).1, (p.run exec s vs).2.map f) := by
  induction p generalizing s vs with
  | done a => rfl
  | call c k ih =>
    cases vs with
    | nil => rfl
    | cons v vs => exact ih _ _ vs

theorem steps_map (f : α → β) (p : Prog C R α) (s : S) (vs : List V) :
    (f <$> p).steps exec s vs = p.steps exec s vs := by
  induction p generalizing s vs with
  | done a => rfl
  | call c k ih =>
    cases vs with
    | nil => rfl
    | cons v vs => exact congrArg (List.cons _) (ih _ _ vs)

/-- Where every call is seen as a call of another system, so is a whole run. -/
theorem run_seen {S' V' : Type} {exec' : S' → (c : C) → V' → S' × R c}
    {seen : S → S'} {sent : V' → V}
    (h : ∀ s c v, exec' (seen s) c v = (seen (exec s c (sent v)).1, (exec s c (sent v)).2))
    (p : Prog C R α) (s : S)
    (vs : List V') :
    p.run exec' (seen s) vs =
      (seen (p.run exec s (vs.map sent)).1, (p.run exec s (vs.map sent)).2) := by
  induction p generalizing s vs with
  | done a => rfl
  | call c k ih =>
    cases vs with
    | nil => rfl
    | cons v vs =>
      rw [run, h]
      exact ih _ _ vs

/-- Execution that also records its steps, the latest first. -/
def recording (exec : S → (c : C) → V → S × R c) :
    S × List (Step C S V) → (c : C) → V → (S × List (Step C S V)) × R c :=
  fun s c v => (((exec s.1 c v).1, ⟨s.1, c, v⟩ :: s.2), (exec s.1 c v).2)

theorem run_recording (p : Prog C R α) (s : S) (h : List (Step C S V)) (vs : List V) :
    p.run (recording exec) (s, h) vs =
      (((p.run exec s vs).1, (p.steps exec s vs).reverse ++ h), (p.run exec s vs).2) := by
  induction p generalizing s h vs with
  | done a => rfl
  | call c k ih =>
    cases vs with
    | nil => rfl
    | cons v vs =>
      simp only [Prog.run, Prog.steps, recording, List.reverse_cons, List.append_assoc,
        List.singleton_append]
      exact ih _ _ _ vs

theorem mem_steps_recording {p : Prog C R α} {s : S} {h : List (Step C S V)} {vs : List V}
    {t : Step C (S × List (Step C S V)) V} (ht : t ∈ p.steps (recording exec) (s, h) vs) :
    ∃ t' ∈ p.steps exec s vs, t'.call = t.call ∧ t'.verdict = t.verdict := by
  induction p generalizing s h vs with
  | done a => simp [Prog.steps] at ht
  | call c k ih =>
    cases vs with
    | nil => simp [Prog.steps] at ht
    | cons v vs =>
      rw [Prog.steps, List.mem_cons] at ht
      rcases ht with rfl | ht
      · exact ⟨_, List.mem_cons_self, rfl, rfl⟩
      · obtain ⟨t', ht', heq⟩ := ih _ ht
        exact ⟨t', List.mem_cons_of_mem _ ht', heq⟩

/-- The whole run of a program whose every call meets the verdict `answer` has for it. -/
def answered (exec : S → (c : C) → V → S × R c) (answer : C → V) : Prog C R α → S → S × α
  | done a, s => (s, a)
  | call c k, s => answered exec answer (k (exec s c (answer c)).2) (exec s c (answer c)).1

theorem answered_bind {answer : C → V} {p : Prog C R α} {f : α → Prog C R β} {s s' : S} {a : α}
    (h : p.answered exec answer s = (s', a)) :
    (p >>= f).answered exec answer s = (f a).answered exec answer s' := by
  induction p generalizing s with
  | done b =>
    cases h
    rfl
  | call c k ih => exact ih _ h

theorem answered_map (answer : C → V) (f : α → β) (p : Prog C R α) (s : S) :
    (f <$> p).answered exec answer s =
      ((p.answered exec answer s).1, f (p.answered exec answer s).2) := by
  induction p generalizing s with
  | done a => rfl
  | call c k ih => exact ih _ _

theorem Spec.answered {p : Prog C R α} {Q : α → S → Prop} {s : S} {answer : C → V}
    (h : p.Spec exec Ok I Q s)
    (hok : ∀ s c, Ok ⟨s, c, answer c⟩) :
    Q (p.answered exec answer s).2 (p.answered exec answer s).1 := by
  induction p generalizing s with
  | done a => exact h.2
  | call c k ih => exact ih _ (h.2 _ (hok s c))

/-- The steps of such a run. -/
def answeredSteps (exec : S → (c : C) → V → S × R c) (answer : C → V) : Prog C R α →
    S → List (Step C S V)
  | done _, _ => []
  | call c k,
      s => ⟨s, c, answer c⟩ :: answeredSteps exec answer (k (exec s c (answer c)).2)
        (exec s c (answer c)).1

theorem answeredSteps_bind {answer : C → V} {p : Prog C R α} {f : α → Prog C R β} {s s' : S} {a : α}
    (h : p.answered exec answer s = (s', a)) :
    (p >>= f).answeredSteps exec answer s = p.answeredSteps exec answer s ++
      (f a).answeredSteps exec answer s' := by
  induction p generalizing s with
  | done b =>
    cases h
    rfl
  | call c k ih => exact congrArg (List.cons _) (ih _ h)

theorem run_answeredSteps (exec : S → (c : C) → V → S × R c) (answer : C → V)
    (p : Prog C R α) (s : S) :
    ∃ vs, p.run exec s vs = ((p.answered exec answer s).1, some (p.answered exec answer s).2) ∧
      p.steps exec s vs = p.answeredSteps exec answer s := by
  induction p generalizing s with
  | done a => exact ⟨[], rfl, rfl⟩
  | call c k ih =>
    obtain ⟨vs, hrun, hsteps⟩ := ih _ (exec s c (answer c)).1
    exact ⟨answer c :: vs, hrun, congrArg (List.cons _) hsteps⟩

theorem verdict_of_answered {answer : C → V} {p : Prog C R α} {s : S} {t : Step C S V}
    (ht : t ∈ p.answeredSteps exec answer s) : t.verdict = answer t.call := by
  induction p generalizing s with
  | done a => cases ht
  | call c k ih =>
    rcases List.mem_cons.mp ht with rfl | ht
    · rfl
    · exact ih _ ht

theorem run_answered (exec : S → (c : C) → V → S × R c) (answer : C → V) (p : Prog C R α) (s : S) :
    ∃ vs, p.run exec s vs = ((p.answered exec answer s).1, some (p.answered exec answer s).2) ∧
      ∀ t ∈ p.steps exec s vs, t.verdict = answer t.call := by
  obtain ⟨vs, hrun, hsteps⟩ := run_answeredSteps exec answer p s
  exact ⟨vs, hrun, fun t ht => verdict_of_answered (hsteps ▸ ht)⟩

theorem exists_run {answer : C → V} {p : Prog C R α} {s s' : S} {a : α}
    (h : p.answered exec answer s = (s', a)) : ∃ vs, p.run exec s vs = (s', some a) := by
  obtain ⟨vs, hrun, -⟩ := run_answered exec answer p s
  exact ⟨vs, by rw [hrun, h]⟩

end Run

section Session

variable (exec : S → (c : C) → V → S × R c) {ι : Type} (prog : ι → Prog C R α)

/-- The state after a list of programs, each run to the end of its verdicts. -/
def session (s : S) : List (ι × List V) → S
  | [] => s
  | (i, vs) :: rest => session ((prog i).run exec s vs).1 rest

def EachRun (P : ι → List (Step C S V) → Prop) (s : S) : List (ι × List V) → Prop
  | [] => True
  | (i, vs) :: rest => P i ((prog i).steps exec s vs) ∧ EachRun P ((prog i).run exec s vs).1 rest

variable {exec prog}

theorem EachRun.session {P : ι → List (Step C S V) → Prop} {J : S → Prop}
    (hJ : ∀ i s vs, J s → P i ((prog i).steps exec s vs) → J ((prog i).run exec s vs).1)
    {s : S} {runs : List (ι × List V)} (h : EachRun exec prog P s runs) (hs : J s) :
    J (session exec prog s runs) := by
  induction runs generalizing s with
  | nil => exact hs
  | cons r rest ih => exact ih h.2 (hJ r.1 s r.2 hs h.1)

end Session

end Prog

section Requests

variable {C : Type} {R : C → Type} {ε α γ : Type}

def request (c : C) : ExceptT ε (Prog C R) (R c) := ExceptT.lift (Prog.perform c)

def attempt (r : Except ε α) : ExceptT ε (Prog C R) α := ExceptT.mk (.done r)

/-- Goes on with the value, or ends with the error. -/
def proceed (f : α → ExceptT ε (Prog C R) γ) : Except ε α → Prog C R (Except ε γ)
  | .ok a => (f a).run
  | .error e => .done (.error e)

theorem run_bind (x : ExceptT ε (Prog C R) α) (f : α → ExceptT ε (Prog C R) γ) :
    (x >>= f).run = x.run >>= proceed f := by
  refine congrArg (x.run >>= ·) (funext fun r => ?_)
  cases r <;> rfl

@[simp] theorem run_request (c : C) :
    (request c : ExceptT ε (Prog C R) (R c)).run = .call c fun r => .done (.ok r) := rfl

@[simp] theorem run_request_bind (c : C) (f : R c → ExceptT ε (Prog C R) γ) :
    (request c >>= f).run = .call c fun r => (f r).run := rfl

theorem run_attempt_bind (r : Except ε α) (f : α → ExceptT ε (Prog C R) γ) :
    (attempt r >>= f).run = proceed f r := by
  cases r <;> rfl

theorem calls_bind {P : C → Prop} {x : ExceptT ε (Prog C R) α} {f : α → ExceptT ε (Prog C R) γ}
    (h : x.run.Calls P) (hf : ∀ a, (f a).run.Calls P) : (x >>= f).run.Calls P := by
  rw [run_bind]
  refine h.bind fun r => ?_
  cases r with
  | ok a => exact hf a
  | error e => trivial

theorem calls_request {P : C → Prop} {c : C} (h : P c) :
    (request c : ExceptT ε (Prog C R) (R c)).run.Calls P := ⟨h, fun _ => trivial⟩

/-- A run that ends in a value is made of two such runs. -/
theorem run_bind_ok {S V : Type} {exec : S → (c : C) → V → S × R c} {x : ExceptT ε (Prog C R) α}
    {f : α → ExceptT ε (Prog C R) γ} {s s' : S} {vs : List V} {b : γ}
    (h : (x >>= f).run.run exec s vs = (s', some (.ok b))) :
    ∃ a s₁ vs', x.run.run exec s vs = (s₁, some (.ok a)) ∧
    (f a).run.run exec s₁ vs' = (s', some (.ok b)) ∧
      (x >>= f).run.steps exec s vs = x.run.steps exec s vs ++ (f a).run.steps exec s₁ vs' := by
  rw [run_bind] at h ⊢
  rcases Prog.bind_cases exec x.run (proceed f) s vs with ⟨-, hrun, -⟩ | ⟨r,
    vs', hsome, hrun, hsteps⟩
  · rw [hrun] at h
    cases h
  · rw [hrun] at h
    cases r with
    | error e => cases h
    | ok a => exact ⟨a, _, vs', Prod.ext rfl hsome, h, hsteps⟩

theorem run_attempt_ok {S V : Type} {exec : S → (c : C) → V → S × R c} {r : Except ε α}
    {s s' : S} {vs : List V} {a : α}
    (h : (attempt r : ExceptT ε (Prog C R) α).run.run exec s vs = (s', some (.ok a))) :
    r = .ok a ∧ s' = s := by
  obtain ⟨rfl, hr⟩ := Prod.mk.inj h
  exact ⟨Option.some.inj hr, rfl⟩

theorem run_request_ok {S V : Type} {exec : S → (c : C) → V → S × R c} {c : C} {s s' : S}
    {vs : List V} {a : R c}
    (h : (request c : ExceptT ε (Prog C R) (R c)).run.run exec s vs = (s', some (.ok a))) :
    ∃ v, exec s c v = (s', a) ∧
    (request c : ExceptT ε (Prog C R) (R c)).run.steps exec s vs = [⟨s, c, v⟩] := by
  cases vs with
  | nil => cases h
  | cons v vs =>
    obtain ⟨rfl, hr⟩ := Prod.mk.inj h
    exact ⟨v, Prod.ext rfl (Except.ok.inj (Option.some.inj hr)), rfl⟩

/-- `Q` of a value, `E` of an error. -/
def Ends {S : Type} (E : ε → S → Prop) (Q : α → S → Prop) : Except ε α → S → Prop
  | .ok a => Q a
  | .error e => E e

section Spec

variable {S V : Type} {exec : S → (c : C) → V → S × R c} {Ok : Step C S V → Prop} {I : S → Prop}
  {E : ε → S → Prop} {s : S}

theorem spec_bind {x : ExceptT ε (Prog C R) α} {f : α → ExceptT ε (Prog C R) γ} {Q : γ → S → Prop}
    (h : x.run.Spec exec Ok I (Ends E fun a => (f a).run.Spec exec Ok I (Ends E Q)) s) :
    (x >>= f).run.Spec exec Ok I (Ends E Q) s := by
  rw [run_bind]
  refine Prog.Spec.bind (h.mono fun r s hI hr => ?_)
  cases r with
  | ok a => exact hr
  | error e => exact ⟨hI, hr⟩

theorem spec_mono {x : ExceptT ε (Prog C R) α} {Q Q' : α → S → Prop}
    (h : x.run.Spec exec Ok I (Ends E Q) s) (hQ : ∀ a s, I s → Q a s → Q' a s) :
    x.run.Spec exec Ok I (Ends E Q') s := by
  refine h.mono fun r s hI hr => ?_
  cases r with
  | ok a => exact hQ a s hI hr
  | error e => exact hr

theorem spec_pure {a : α} {Q : α → S → Prop} (hI : I s) (hQ : Q a s) :
    (pure a : ExceptT ε (Prog C R) α).run.Spec exec Ok I (Ends E Q) s := ⟨hI, hQ⟩

theorem spec_attempt {r : Except ε α} {Q : α → S → Prop} (hI : I s) (hr : Ends E Q r s) :
    (attempt r : ExceptT ε (Prog C R) α).run.Spec exec Ok I (Ends E Q) s := ⟨hI, hr⟩

theorem spec_request {c : C} {Q : R c → S → Prop} (hI : I s)
    (h : ∀ v, Ok ⟨s, c, v⟩ → I (exec s c v).1 ∧ Q (exec s c v).2 (exec s c v).1) :
    (request c : ExceptT ε (Prog C R) (R c)).run.Spec exec Ok I (Ends E Q) s := ⟨hI, h⟩

theorem spec_calls {P : C → Prop} {J : S → Prop} {x : ExceptT ε (Prog C R) α} (h : x.run.Calls P)
    (hJ : ∀ s c v, P c → J s → J (exec s c v).1) (hI : ∀ s, J s → I s)
    (hE : ∀ e s, J s → E e s) (hs : J s) :
    x.run.Spec exec Ok I (Ends E fun _ => J) s := by
  refine (h.spec hJ hI hs).mono fun r s _ hj => ?_
  cases r with
  | ok a => exact hj
  | error e => exact hE e s hj

theorem answered_exceptBind {answer : C → V} {x : ExceptT ε (Prog C R) α}
    {f : α → ExceptT ε (Prog C R) γ}
    {s' : S} {a : α} (h : x.run.answered exec answer s = (s', .ok a)) :
    (x >>= f).run.answered exec answer s = (f a).run.answered exec answer s' := by
  rw [run_bind]
  exact Prog.answered_bind h

theorem answeredSteps_exceptBind {answer : C → V} {x : ExceptT ε (Prog C R) α}
    {f : α → ExceptT ε (Prog C R) γ}
    {s' : S} {a : α} (h : x.run.answered exec answer s = (s', .ok a)) :
    (x >>= f).run.answeredSteps exec answer s =
      x.run.answeredSteps exec answer s ++ (f a).run.answeredSteps exec answer s' := by
  rw [run_bind]
  exact Prog.answeredSteps_bind h

theorem answered_exceptBind_error {answer : C → V} {x : ExceptT ε (Prog C R) α}
    {f : α → ExceptT ε (Prog C R) γ}
    {s' : S} {e : ε} (h : x.run.answered exec answer s = (s', .error e)) :
    (x >>= f).run.answered exec answer s = (s', .error e) := by
  rw [run_bind]
  exact Prog.answered_bind h

end Spec

end Requests

section Fallible

variable {C : Type} {β : C → Type} {ε γ : Type}

/-- Programs whose calls answer with a value or an error that ends the program. -/
abbrev Fallible (C : Type) (β : C → Type) (ε : Type) := ExceptT ε (Prog C fun c => Except ε (β c))

def ask (c : C) : Fallible C β ε (β c) := ExceptT.mk (Prog.perform c)

theorem run_ask_bind (c : C) (f : β c → Fallible C β ε γ) :
    (ask c >>= f).run = .call c (proceed f) := by
  refine congrArg (Prog.call c) (funext fun r => ?_)
  cases r <;> rfl

end Fallible

end Interaction
