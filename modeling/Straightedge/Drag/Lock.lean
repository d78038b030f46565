/-!
# Drag locks

Dragging may be locked. A lock is a switch, which can be toggled, or a gate,
which is only looked at; both are shared by everyone who holds a reference to
them, so one toggle locks several scenes at once.
-/

namespace Straightedge

/-- A reference to a shared lock. -/
inductive Lock where
  | switch (i : Nat)
  | gate (i : Nat)
  deriving DecidableEq, Repr

/-- The states of all switches and gates; `true` stands for locked. -/
structure Locks where
  switches : List Bool := []
  gates : List Bool := []
  deriving DecidableEq, Repr

namespace Locks

/-- Whether a lock is engaged. A switch that nobody made is not. -/
def engaged (ls : Locks) : Lock → Bool
  | .switch i => ls.switches.getD i false
  | .gate i => ls.gates.getD i false

/-- Flip a switch. -/
def toggle (ls : Locks) (i : Nat) : Locks :=
  { ls with switches := ls.switches.modify i not }

/-- Set a gate. -/
def setGate (ls : Locks) (i : Nat) (locked : Bool) : Locks :=
  { ls with gates := ls.gates.set i locked }

/-- Make a new switch. -/
def addSwitch (ls : Locks) (locked : Bool) : Locks × Lock :=
  ({ ls with switches := ls.switches ++ [locked] }, .switch ls.switches.length)

/-- How a switch is shown. -/
def describe (locked : Bool) : String :=
  "DragLock(locked=" ++ (if locked then "True" else "False") ++ ")"

@[simp] theorem engaged_toggle_gate (ls : Locks) (i j : Nat) :
    (ls.toggle i).engaged (.gate j) = ls.engaged (.gate j) := rfl

@[simp] theorem engaged_setGate_switch (ls : Locks) (i j : Nat) (b : Bool) :
    (ls.setGate i b).engaged (.switch j) = ls.engaged (.switch j) := rfl

end Locks

end Straightedge
