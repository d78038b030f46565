import Straightedge.Kind
import Straightedge.Text.Quoted

/-!
# Faults

What can cut an operation short, as causes. A fault never undoes what was done
before it: an operation that may be cut short returns an `Outcome`, the state
as it was left together with the fault, if any.
-/

namespace Straightedge

/-- Why an operation was cut short. -/
inductive Fault where
  /-- A NaN was to be made an integer. -/
  | integerOfNaN
  /-- An infinity was to be made an integer. -/
  | integerOfInfinity
  /-- An exact integer lies beyond the largest double. -/
  | integerTooLarge
  /-- A sweep was to be cut into steps of size zero. -/
  | zeroStep
  /-- A value that must be there has no entry of its own. -/
  | missing (key : String)
  /-- A coordinate that must be a number is unset. -/
  | unsetCoordinate
  /-- No command declares an entity of the kind. -/
  | noCommand (kind : Kind)
  /-- References run in a circle; the ids are those that can never be placed. -/
  | cycle (ids : List String)
  /-- A surface that clears as a whole was asked to clear a part. -/
  | partialClear
  /-- A style asks for a surface without a size. -/
  | surfaceSize
  /-- A picture cannot be so many inches wide and high. -/
  | pictureSize (inches : String)
  /-- Something else was given where a style is needed. -/
  | notAStyle (found : String)
  deriving DecidableEq, Repr

/-- How a fault is worded. -/
def Fault.message : Fault → String
  | integerOfNaN => "cannot convert float NaN to integer"
  | integerOfInfinity => "cannot convert float infinity to integer"
  | integerTooLarge => "int too large to convert to float"
  | zeroStep => "float division by zero"
  | missing key => Text.quote key
  | unsetCoordinate => "type NoneType doesn't define __round__ method"
  | noCommand kind => "no command for entity kind " ++ Text.quote kind.name
  | cycle ids => "reference cycle between " ++ String.intercalate ", " ids
  | partialClear => "MatplotlibSurface only clears the whole surface"
  | surfaceSize => "surface_size must be positive"
  | pictureSize inches => s!"figure size must be positive finite not ({inches}, {inches})"
  | notAStyle found => "expected RenderConfig, got " ++ found

/-- The state an operation leaves behind, and the fault that cut it short, if any. -/
structure Outcome (σ : Type) where
  state : σ
  fault : Option Fault := none
  deriving Repr

namespace Outcome

variable {σ τ : Type}

/-- Go on with the next operation unless a fault has occurred. -/
def andThen (o : Outcome σ) (next : σ → Outcome σ) : Outcome σ :=
  match o.fault with
  | none => next o.state
  | some _ => o

/-- See the state as a part of a larger one. -/
def map (f : σ → τ) (o : Outcome σ) : Outcome τ := ⟨f o.state, o.fault⟩

@[simp] theorem andThen_none (s : σ) (next : σ → Outcome σ) :
    (⟨s, none⟩ : Outcome σ).andThen next = next s := rfl

@[simp] theorem andThen_some (s : σ) (f : Fault) (next : σ → Outcome σ) :
    (⟨s, some f⟩ : Outcome σ).andThen next = ⟨s, some f⟩ := rfl

@[simp] theorem map_state (f : σ → τ) (o : Outcome σ) : (o.map f).state = f o.state := rfl

@[simp] theorem map_fault (f : σ → τ) (o : Outcome σ) : (o.map f).fault = o.fault := rfl

/-- Operations done one after the other until the first fault. -/
def fold {ι : Type} (step : σ → ι → Outcome σ) (s : σ) : List ι → Outcome σ
  | [] => ⟨s, none⟩
  | i :: rest => (step s i).andThen fun s => fold step s rest

@[simp] theorem fold_nil {ι : Type} (step : σ → ι → Outcome σ) (s : σ) :
    fold step s [] = ⟨s, none⟩ := rfl

theorem fold_cons {ι : Type} (step : σ → ι → Outcome σ) (s : σ) (i : ι) (rest : List ι) :
    fold step s (i :: rest) = (step s i).andThen fun s => fold step s rest := rfl

theorem fold_append {ι : Type} (step : σ → ι → Outcome σ) (s : σ) (first rest : List ι) :
    fold step s (first ++ rest) = (fold step s first).andThen fun s => fold step s rest := by
  induction first generalizing s with
  | nil => simp
  | cons i first ih =>
    simp only [List.cons_append, fold_cons]
    rcases step s i with ⟨t, _ | f⟩
    · simpa using ih t
    · simp

end Outcome

end Straightedge
