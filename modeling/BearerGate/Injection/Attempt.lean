/-!
Attempts: steps on a state that can be refused. What a step has done before it is refused stays
done, so it is for each kind of step to show that a refused one changes nothing. Main statement:
where this is so, a run comes to what the run of its accepted steps alone comes to.
-/

set_option autoImplicit false
set_option relaxedAutoImplicit false

namespace BearerGate.Injection

/-- A step on a state that can be refused. It leaves a state in either case. -/
abbrev Attempt (ε σ α : Type) := ExceptT ε (StateM σ) α

namespace Attempt

variable {ε σ α β : Type}

def perform (attempt : Attempt ε σ β) (s : σ) : Except ε β × σ := attempt s

/-- The answer of an attempt, and the state that it leaves unless it is refused. -/
def settle (attempt : Attempt ε σ β) (s : σ) : Except ε (β × σ) :=
  match attempt.perform s with
  | (.ok result, s) => .ok (result, s)
  | (.error e, _) => .error e

/-- A refused attempt leaves the state as it was. -/
def Atomic (attempt : Attempt ε σ β) : Prop :=
  ∀ s e s', attempt.perform s = (.error e, s') → s' = s

/-- Attempts one after the other, each on the state that the one before left, refused or not. -/
def each (step : α → Attempt ε σ β) : List α → σ → List (Except ε β) × σ
  | [], s => ([], s)
  | x :: rest, s =>
    let (answer, s) := (step x).perform s
    let (answers, s) := each step rest s
    (answer :: answers, s)

/-- Attempts one after the other, up to the first that is refused. -/
def all (step : α → Attempt ε σ β) (xs : List α) (s : σ) : Except ε σ :=
  xs.foldlM (fun s x => ((step x).settle s).map (·.2)) s

/-- The inputs whose attempts were not refused. -/
def accepted : List α → List (Except ε β) → List α
  | x :: rest, .ok _ :: answers => x :: accepted rest answers
  | _ :: rest, .error _ :: answers => accepted rest answers
  | _, _ => []

theorem isOk_perform_iff {attempt : Attempt ε σ β} {s : σ} :
    (attempt.perform s).1.isOk = true ↔ ∃ result s', attempt.perform s = (.ok result, s') := by
  rcases attempt.perform s with ⟨answer, left⟩
  cases answer <;> simp [Except.isOk, Except.toBool]

theorem perform_bind (attempt : Attempt ε σ α) (next : α → Attempt ε σ β) (s : σ) :
    (attempt >>= next).perform s = match attempt.perform s with
      | (.ok x, s) => (next x).perform s
      | (.error e, s) => (.error e, s) := by
  change (ExceptT.bindCont next (attempt s).1 : StateM σ _) (attempt s).2 = _
  unfold perform
  rcases attempt s with ⟨answer, left⟩
  cases answer <;> rfl

theorem perform_forM_modify (change : α → σ → σ) (xs : List α) (s : σ) :
    (xs.forM fun x => (modify (change x) : Attempt ε σ Unit)).perform s =
      (.ok (), xs.foldl (fun s x => change x s) s) := by
  induction xs generalizing s with
  | nil => rfl
  | cons x rest ih => exact ih (change x s)

section Runs

variable {step : α → Attempt ε σ β}

theorem length_each (step : α → Attempt ε σ β) (xs : List α) (s : σ) :
    (each step xs s).1.length = xs.length := by
  induction xs generalizing s with
  | nil => rfl
  | cons x rest ih => exact congrArg (· + 1) (ih _)

/-- What every attempt keeps, refused or not, a run keeps. -/
theorem each_invariant (Invariant : σ → Prop)
    (keeps : ∀ x s, Invariant s → Invariant ((step x).perform s).2)
    (xs : List α) {s : σ} (holds : Invariant s) : Invariant (each step xs s).2 := by
  induction xs generalizing s with
  | nil => exact holds
  | cons x rest ih => exact ih (keeps x s holds)

/-- What each accepted attempt carries on from the inputs accepted before it, a run carries on to
all inputs that are accepted in it. -/
theorem each_induction (Reached : σ → List α → Prop) (atomic : ∀ x, (step x).Atomic)
    (advance : ∀ x s result s' before, Reached s before →
      (step x).perform s = (.ok result, s') → Reached s' (before ++ [x]))
    (xs : List α) {s : σ} {before : List α} (reached : Reached s before) :
    Reached (each step xs s).2 (before ++ accepted xs (each step xs s).1) := by
  induction xs generalizing s before with
  | nil => simpa only [each, accepted, List.append_nil] using reached
  | cons x rest ih =>
    rcases outcome : (step x).perform s with ⟨answer, left⟩
    simp only [each, outcome]
    cases answer with
    | error e =>
      obtain rfl := atomic x s e left outcome
      exact ih reached
    | ok result =>
      have next := ih (advance x s result left before reached outcome)
      rwa [List.append_assoc] at next

theorem each_accepted (atomic : ∀ x, (step x).Atomic) (xs : List α) (s : σ) :
    each step (accepted xs (each step xs s).1) s =
      ((each step xs s).1.filter (·.isOk), (each step xs s).2) := by
  induction xs generalizing s with
  | nil => rfl
  | cons x rest ih =>
    rcases outcome : (step x).perform s with ⟨answer, left⟩
    simp only [each, outcome]
    cases answer with
    | error e =>
      obtain rfl := atomic x s e left outcome
      exact ih left
    | ok result =>
      simp only [accepted, each, outcome]
      rw [ih left]
      rfl

theorem length_accepted (atomic : ∀ x, (step x).Atomic) (xs : List α) (s : σ) :
    (accepted xs (each step xs s).1).length = (each step xs s).1.countP (·.isOk) := by
  have lengths := length_each step (accepted xs (each step xs s).1) s
  rwa [each_accepted atomic, ← List.countP_eq_length_filter, eq_comm] at lengths

theorem all_cons (x : α) (rest : List α) (s : σ) :
    all step (x :: rest) s = match (step x).perform s with
      | (.ok _, s) => all step rest s
      | (.error e, _) => .error e := by
  rw [all, List.foldlM_cons, settle]
  rcases (step x).perform s with ⟨answer, left⟩
  cases answer <;> rfl

theorem all_induction (Reached : σ → List α → Prop)
    (advance : ∀ x s result s' before, Reached s before →
      (step x).perform s = (.ok result, s') → Reached s' (before ++ [x]))
    {xs : List α} {s s' : σ} {before : List α} (reached : Reached s before)
    (accepted : all step xs s = .ok s') : Reached s' (before ++ xs) := by
  induction xs generalizing s before with
  | nil =>
    cases accepted
    rwa [List.append_nil]
  | cons x rest ih =>
    rw [all_cons] at accepted
    split at accepted
    · rename_i result next outcome
      have done := ih (advance x s result next before reached outcome) accepted
      rwa [List.append_assoc] at done
    · cases accepted

theorem refused_of_all_eq_error {xs : List α} {s : σ} {e : ε} (refused : all step xs s = .error e) :
    ∃ x ∈ xs, ∃ s, ((step x).perform s).1 = .error e := by
  induction xs generalizing s with
  | nil => cases refused
  | cons x rest ih =>
    rw [all_cons] at refused
    split at refused
    · obtain ⟨y, member, found⟩ := ih refused
      exact ⟨y, List.mem_cons_of_mem x member, found⟩
    · rename_i outcome
      cases refused
      exact ⟨x, List.mem_cons_self, s, congrArg Prod.fst outcome⟩

end Runs

end Attempt

end BearerGate.Injection
