import Straightedge.Scene.Basic

/-!
# Printing a scene

Each entity prints as the command that declares it, one line per entity. Points
print their current coordinates, rounded to integers with a half going to the
even neighbour; all other values are derived again when the text is read.
-/

namespace Straightedge

namespace Entity

/-- A coordinate that must be there. -/
def coordinate (e : Entity) (key : String) : Except Fault (Option Num) :=
  match e.values.get? key with
  | some entry => .ok entry
  | none => .error (.missing key)

/-- A coordinate as an integer. -/
def roundCoordinate : Option Num → Except Fault Int
  | some n => n.round
  | none => .error .unsetCoordinate

/-- The command that declares an entity. -/
def command (e : Entity) : Except Fault String :=
  match e.kind, e.kind.keyword? with
  | .point, _ => do
    let x ← e.coordinate "x"
    let y ← e.coordinate "y"
    let x ← roundCoordinate x
    let y ← roundCoordinate y
    return s!"Point {e.id} ({x}, {y})"
  | _, some keyword => return String.intercalate " " (keyword :: e.id :: e.references)
  | kind, none => throw (.noCommand kind)

end Entity

namespace Scene

/-- The text of entities one after the other. -/
def printEntities : List Entity → Except Fault String
  | [] => return ""
  | e :: rest => return (← e.command) ++ "\n" ++ (← printEntities rest)

/-- The text that declares a scene. -/
def print (s : Scene) : Except Fault String := printEntities s.entities

end Scene

end Straightedge
