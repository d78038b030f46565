import Mathlib.Data.List.Basic

/-!
# Computations that succeed or fail

A sequence of steps succeeds exactly when every step does, and it fails only in the
ways in which one of its steps does.
-/

namespace Straightedge.Result

variable {α β ε : Type}

theorem bind_eq_ok_iff {x : Except ε α} {f : α → Except ε β} {b : β} :
    (x >>= f) = .ok b ↔ ∃ a, x = .ok a ∧ f a = .ok b := by
  cases x with
  | error err => simp [bind, Except.bind]
  | ok a => simp [bind, Except.bind]

theorem bind_eq_error_iff {x : Except ε α} {f : α → Except ε β} {err : ε} :
    (x >>= f) = .error err ↔ x = .error err ∨ ∃ a, x = .ok a ∧ f a = .error err := by
  cases x with
  | error other => simp [bind, Except.bind]
  | ok a => simp [bind, Except.bind]

theorem pure_eq_ok_iff {a b : α} : (pure a : Except ε α) = .ok b ↔ a = b := by
  simp [pure, Except.pure]

/-- A list of computations succeeds with the list of their results. -/
theorem mapM_eq_ok_iff {f : α → Except ε β} {xs : List α} {ys : List β} :
    xs.mapM f = .ok ys ↔ xs.map f = ys.map .ok := by
  induction xs generalizing ys with
  | nil =>
      rw [List.mapM_nil, pure_eq_ok_iff]
      cases ys <;> simp
  | cons x xs ih =>
      simp only [List.mapM_cons, bind_eq_ok_iff, pure_eq_ok_iff, ih]
      constructor
      · rintro ⟨y, first, ys, others, rfl⟩
        rw [List.map_cons, first, others, List.map_cons]
      · intro h
        cases ys with
        | nil => cases h
        | cons y ys =>
            obtain ⟨first, others⟩ := List.cons.inj h
            exact ⟨y, first, ys, others, rfl⟩

/-- A list of computations succeeds exactly if each of them does. -/
theorem exists_mapM_iff {f : α → Except ε β} {xs : List α} :
    (∃ ys, xs.mapM f = .ok ys) ↔ ∀ x ∈ xs, ∃ y, f x = .ok y := by
  induction xs with
  | nil => exact ⟨fun _ _ member => absurd member List.not_mem_nil, fun _ => ⟨[], rfl⟩⟩
  | cons x xs ih =>
      rw [List.forall_mem_cons, ← ih]
      simp only [List.mapM_cons, bind_eq_ok_iff, pure_eq_ok_iff]
      constructor
      · rintro ⟨_, y, first, ys, others, rfl⟩
        exact ⟨⟨y, first⟩, ⟨ys, others⟩⟩
      · rintro ⟨⟨y, first⟩, ⟨ys, others⟩⟩
        exact ⟨y :: ys, y, first, ys, others, rfl⟩

/-- A list of computations fails as the first of them that does. -/
theorem mapM_eq_error_iff {f : α → Except ε β} {xs : List α} {err : ε} :
    xs.mapM f = .error err ↔
      ∃ earlier x later, xs = earlier ++ x :: later ∧ (∀ y ∈ earlier, ∃ b, f y = .ok b) ∧
        f x = .error err := by
  induction xs with
  | nil =>
      rw [List.mapM_nil]
      refine iff_of_false (by simp [pure, Except.pure]) ?_
      rintro ⟨earlier, x, later, split, -⟩
      simp at split
  | cons x xs ih =>
      simp only [List.mapM_cons, bind_eq_error_iff, ih]
      constructor
      · rintro (fails | ⟨b, first, ⟨earlier, y, later, rfl, succeed, fails⟩ | ⟨_, _, impossible⟩⟩)
        · exact ⟨[], x, xs, rfl, by simp, fails⟩
        · exact ⟨x :: earlier, y, later, rfl, List.forall_mem_cons.mpr ⟨⟨b, first⟩, succeed⟩, fails⟩
        · cases impossible
      · rintro ⟨earlier, y, later, split, succeed, fails⟩
        cases earlier with
        | nil =>
            obtain ⟨rfl, -⟩ := List.cons.inj split
            exact .inl fails
        | cons _ earlier =>
            obtain ⟨rfl, rfl⟩ := List.cons.inj split
            obtain ⟨⟨b, first⟩, succeed⟩ := List.forall_mem_cons.mp succeed
            exact .inr ⟨b, first, .inl ⟨earlier, y, later, rfl, succeed, fails⟩⟩

/-! ## Which failures there can be -/

/-- A computation that fails in allowed ways only. -/
def FailsOnly (allowed : ε → Prop) (x : Except ε α) : Prop := ∀ err, x = .error err → allowed err

variable {allowed : ε → Prop} {x : Except ε α}

theorem failsOnly_false_iff : FailsOnly (fun _ => False) x ↔ ∃ a, x = .ok a := by
  cases x with
  | error err =>
      exact iff_of_false (fun never => never err rfl) (fun ⟨_, impossible⟩ => nomatch impossible)
  | ok a => exact iff_of_true (fun _ impossible => nomatch impossible) ⟨a, rfl⟩

theorem failsOnly_of_ok (h : ∃ a, x = .ok a) : FailsOnly allowed x := by
  obtain ⟨a, rfl⟩ := h
  exact fun _ impossible => nomatch impossible

theorem FailsOnly.bind {f : α → Except ε β} (first : FailsOnly allowed x)
    (rest : ∀ a, x = .ok a → FailsOnly allowed (f a)) : FailsOnly allowed (x >>= f) := by
  intro err fails
  obtain here | ⟨a, found, later⟩ := bind_eq_error_iff.mp fails
  · exact first err here
  · exact rest a found err later

end Straightedge.Result
