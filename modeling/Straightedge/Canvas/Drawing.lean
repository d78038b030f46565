import Straightedge.Canvas.Call

/-!
# Drawings

A drawing is worked out apart from any surface: it is the list of the calls it
makes, and how it ends. It may end in a fault, after the calls made up to there.
Drawings compose like any sequential computation.
-/

namespace Straightedge

/-- The calls that a computation makes, and its result or fault. -/
structure Drawing (α : Type) where
  calls : List Call
  result : Except Fault α

namespace Drawing

variable {α β : Type}

/-- Make one call. -/
def call (c : Call) : Drawing Unit := ⟨[c], .ok ()⟩

/-- Make a call on the pen. -/
def pen (c : PenCall) : Drawing Unit := call (.pen c)

/-- Make no call and take over a result or fault. -/
def lift (r : Except Fault α) : Drawing α := ⟨[], r⟩

/-- Go on with the result, unless there was a fault. -/
def bind (d : Drawing α) (next : α → Drawing β) : Drawing β :=
  match d.result with
  | .ok a => ⟨d.calls ++ (next a).calls, (next a).result⟩
  | .error f => ⟨d.calls, .error f⟩

instance : Monad Drawing where
  pure a := ⟨[], .ok a⟩
  bind := bind

instance : MonadLift (Except Fault) Drawing := ⟨lift⟩

/-- Make drawings one after the other. -/
def sequence : List (Drawing Unit) → Drawing Unit
  | [] => pure ()
  | d :: rest => d.bind fun _ => sequence rest

/-- The fault a drawing ends in, if any. -/
def fault? (d : Drawing α) : Option Fault :=
  match d.result with
  | .ok _ => none
  | .error f => some f

/-- Make a drawing on a surface. A call that fails ends it early. -/
def on {σ : Type} [Surface σ] (d : Drawing α) (s : σ) : Outcome σ :=
  (Surface.performAll s d.calls).andThen fun s => ⟨s, d.fault?⟩

@[simp] theorem pure_calls (a : α) : (pure a : Drawing α).calls = [] := rfl

@[simp] theorem pure_result (a : α) : (pure a : Drawing α).result = .ok a := rfl

@[simp] theorem call_calls (c : Call) : (call c).calls = [c] := rfl

@[simp] theorem call_result (c : Call) : (call c).result = .ok () := rfl

@[simp] theorem lift_calls (r : Except Fault α) : (lift r).calls = [] := rfl

@[simp] theorem lift_result (r : Except Fault α) : (lift r).result = r := rfl

/-- A drawing that succeeds makes its own calls and then those of its continuation. -/
theorem bind_of_ok {d : Drawing α} {a : α} (h : d.result = .ok a) (next : α → Drawing β) :
    d.bind next = ⟨d.calls ++ (next a).calls, (next a).result⟩ := by
  simp [bind, h]

/-- A drawing that fails makes no call of its continuation. -/
theorem bind_of_error {d : Drawing α} {f : Fault} (h : d.result = .error f)
    (next : α → Drawing β) : d.bind next = ⟨d.calls, .error f⟩ := by
  simp [bind, h]

end Drawing

end Straightedge
