import Straightedge.Canvas.Artwork
import Straightedge.Canvas.Recording
import Straightedge.Drag.Controller

/-!
# Desks

A desk holds several controllers with the locks they share and the common style.
A controller made without a style of its own keeps the common style as it was
then; changing the common style later does not reach it. Every step concerns one
controller, one lock or the common style.
-/

namespace Straightedge

/-- A surface of either type. -/
inductive Board where
  | recording (r : Recording)
  | artwork (a : Artwork)
  deriving DecidableEq, Repr

namespace Board

/-- What a call makes of a board. -/
def perform : Board → Call → Outcome Board
  | recording r, call => (r.perform call).map recording
  | artwork a, call => (a.perform call).map artwork

/-- The pen of a board. -/
def pen : Board → Pen
  | recording r => r.pen
  | artwork a => a.pen

/-- How many entries or pieces a board holds. -/
def drawn : Board → Nat
  | recording r => r.entries.length
  | artwork a => a.pieces.length

instance : Surface Board where
  width
    | recording r => r.width
    | artwork a => a.width
  height
    | recording r => r.height
    | artwork a => a.height
  perform := perform

end Board

/-- Controllers, the locks they share, and the common style. -/
structure Desk (σ : Type) where
  locks : Locks := {}
  controllers : List (Controller σ) := []
  style : Style := .default

/-- A step at a desk. -/
inductive Step where
  | pointer (controller : Nat) (event : PointerEvent)
  | toggle (switch : Nat)
  | setGate (gate : Nat) (locked : Bool)
  | setStyle (style : Style)
  deriving DecidableEq, Repr

/-- What a step leaves: the desk, the report or fault, and the ids of changed points. -/
structure StepResult (σ : Type) where
  desk : Desk σ
  reply : Except Fault Reply
  changed : List String := []

namespace Desk

variable {σ : Type}

/-- Add a controller over a scene and a surface. Without a lock it gets a switch of its own,
and without a style the common one. -/
def add (d : Desk σ) (stage : Stage σ) (lock : Option Lock) (style : Option Style)
    (options : Options) (notifies : Bool) : Desk σ :=
  let (locks, lock) := match lock with
    | some lock => (d.locks, lock)
    | none => d.locks.addSwitch false
  let c : Controller σ := { stage, lock, style := style.getD d.style, options, notifies }
  { d with locks, controllers := d.controllers ++ [c] }

/-- Put a changed controller back in its place. -/
def setController (d : Desk σ) (i : Nat) (c : Controller σ) : Desk σ :=
  { d with controllers := d.controllers.set i c }

/-- Make a style the common one, if it may be. -/
def setStyle (d : Desk σ) (style : Style) : Except Fault (Desk σ) := do
  return { d with style := ← style.checked }

variable [Surface σ]

/-- Make one step. -/
def step (d : Desk σ) : Step → StepResult σ
  | .pointer i event =>
    match d.controllers[i]? with
    | none => ⟨d, .ok .done, []⟩
    | some c =>
      let r := c.handle (d.locks.engaged c.lock) event
      ⟨d.setController i r.controller, r.reply, r.changed⟩
  | .toggle i => ⟨{ d with locks := d.locks.toggle i }, .ok .done, []⟩
  | .setGate i locked => ⟨{ d with locks := d.locks.setGate i locked }, .ok .done, []⟩
  | .setStyle style =>
    match d.setStyle style with
    | .ok d => ⟨d, .ok .done, []⟩
    | .error f => ⟨d, .error f, []⟩

/-- Make steps one after the other, faults or not. -/
def run (d : Desk σ) (steps : List Step) : Desk σ :=
  steps.foldl (fun d s => (d.step s).desk) d

end Desk

end Straightedge
