import Straightedge.Fault

/-!
# Operations that may be cut short

Laws of going on after an operation: an operation that fails is all that is
done, and what is done in sequence may be grouped at will. So a sequence fails only
in the ways in which one of its operations does.
-/

namespace Straightedge.Outcome

variable {σ : Type}

theorem andThen_of_none {o : Outcome σ} (h : o.fault = none) (next : σ → Outcome σ) :
    o.andThen next = next o.state := by
  simp only [andThen, h]

theorem andThen_of_ne_none {o : Outcome σ} (h : o.fault ≠ none) (next : σ → Outcome σ) :
    o.andThen next = o := by
  obtain ⟨f, h⟩ := Option.ne_none_iff_exists'.mp h
  simp only [andThen, h]

@[simp] theorem andThen_done (o : Outcome σ) : (o.andThen fun s => ⟨s, none⟩) = o := by
  obtain ⟨s, _ | f⟩ := o <;> rfl

theorem andThen_assoc (o : Outcome σ) (next last : σ → Outcome σ) :
    (o.andThen next).andThen last = o.andThen fun s => (next s).andThen last := by
  obtain ⟨s, _ | f⟩ := o <;> rfl

/-- When nothing fails altogether, neither operation does. -/
theorem andThen_fault_eq_none_iff {o : Outcome σ} {next : σ → Outcome σ} :
    (o.andThen next).fault = none ↔ o.fault = none ∧ (next o.state).fault = none := by
  obtain ⟨s, _ | f⟩ := o <;> simp

/-- Nothing fails exactly when each operation succeeds with the state that the other starts from. -/
theorem andThen_eq_done_iff {o : Outcome σ} {next : σ → Outcome σ} {s : σ} :
    o.andThen next = ⟨s, none⟩ ↔ ∃ t, o = ⟨t, none⟩ ∧ next t = ⟨s, none⟩ := by
  obtain ⟨t, _ | f⟩ := o <;> simp

theorem eq_done {o : Outcome σ} (h : o.fault = none) : o = ⟨o.state, none⟩ := by
  rw [← h]

/-- What holds and is kept by the next operation holds in the end, whether or not it is reached. -/
theorem state_andThen {P : σ → Prop} {o : Outcome σ} {next : σ → Outcome σ} (holds : P o.state)
    (kept : ∀ s, P s → P (next s).state) : P (o.andThen next).state := by
  obtain ⟨s, _ | f⟩ := o
  · exact kept s holds
  · exact holds

theorem state_fold {ι : Type} {P : σ → Prop} {step : σ → ι → Outcome σ} {s : σ} (holds : P s)
    (kept : ∀ s i, P s → P (step s i).state) (items : List ι) : P (fold step s items).state := by
  induction items generalizing s with
  | nil => exact holds
  | cons i items ih =>
      rw [fold_cons]
      apply state_andThen (kept s i holds)
      intro t holds
      exact ih holds

/-- A step that commutes with a change of the state does so over and over. -/
theorem fold_map {ι : Type} {P : σ → Prop} {change : σ → σ} {step : σ → ι → Outcome σ}
    (commutes : ∀ s i, P s → step (change s) i = (step s i).map change)
    (kept : ∀ s i, P s → P (step s i).state) {s : σ} (holds : P s) (items : List ι) :
    fold step (change s) items = (fold step s items).map change := by
  induction items generalizing s with
  | nil => rfl
  | cons i items ih =>
      have next := kept s i holds
      rw [fold_cons, fold_cons, commutes s i holds]
      generalize step s i = made at next
      obtain ⟨t, _ | f⟩ := made
      · exact ih next
      · rfl

/-- Two operations end alike: with the same fault and in related states. -/
structure Alike (R : σ → σ → Prop) (o o' : Outcome σ) : Prop where
  fault : o.fault = o'.fault
  state : R o.state o'.state

theorem Alike.andThen {R : σ → σ → Prop} {o o' : Outcome σ} {next next' : σ → Outcome σ}
    (first : Alike R o o') (rest : ∀ s s', R s s' → Alike R (next s) (next' s')) :
    Alike R (o.andThen next) (o'.andThen next') := by
  by_cases succeeds : o.fault = none
  · rw [andThen_of_none succeeds, andThen_of_none (first.fault ▸ succeeds)]
    exact rest _ _ first.state
  · rw [andThen_of_ne_none succeeds, andThen_of_ne_none (first.fault ▸ succeeds)]
    exact first

/-- Under a condition an operation succeeds, and whenever it succeeds its state is as described. -/
structure SucceedsIf (condition : Prop) (R : σ → Prop) (o : Outcome σ) : Prop where
  done : condition → o.fault = none
  holds : o.fault = none → R o.state

/-- The condition of the whole must imply that of the first operation. -/
theorem SucceedsIf.andThen {condition first : Prop} {R S : σ → Prop} {o : Outcome σ}
    {next : σ → Outcome σ} (here : SucceedsIf first R o) (implies : condition → first)
    (rest : ∀ s, R s → SucceedsIf condition S (next s)) :
    SucceedsIf condition S (o.andThen next) := by
  constructor
  · intro holds
    have succeeds := here.done (implies holds)
    rw [andThen_of_none succeeds]
    exact (rest _ (here.holds succeeds)).done holds
  · intro succeeds
    obtain ⟨first, second⟩ := andThen_fault_eq_none_iff.mp succeeds
    rw [andThen_of_none first]
    exact (rest _ (here.holds first)).holds second

/-- If an operation fails, then with a fault that is allowed for the state it leaves. -/
def FailsOnly (allowed : σ → Fault → Prop) (o : Outcome σ) : Prop :=
  ∀ f, o.fault = some f → allowed o.state f

variable {allowed : σ → Fault → Prop} {o : Outcome σ}

theorem failsOnly_false_iff : o.FailsOnly (fun _ _ => False) ↔ o.fault = none := by
  rw [Option.eq_none_iff_forall_ne_some]
  exact Iff.rfl

theorem failsOnly_of_none (h : o.fault = none) : o.FailsOnly allowed := by
  intro f failed
  rw [h] at failed
  cases failed

theorem FailsOnly.andThen {next : σ → Outcome σ} (first : o.FailsOnly allowed)
    (rest : o.fault = none → (next o.state).FailsOnly allowed) :
    (o.andThen next).FailsOnly allowed := by
  by_cases succeeds : o.fault = none
  · rw [andThen_of_none succeeds]
    exact rest succeeds
  · rw [andThen_of_ne_none succeeds]
    exact first

end Straightedge.Outcome
