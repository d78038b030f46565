import Straightedge.Scene.Basic
import Straightedge.Trace.Grid

/-!
# Traced values

The values that a trace may have to show: texts, numbers, constants, collections
of values, arrays of numbers, entities, scenes, and other things known only by
how they describe themselves. Every value has a full text; what a trace shows is
an abbreviation of it.
-/

namespace Straightedge

/-- A value that a trace may show. -/
inductive Value where
  | text (s : String)
  | number (n : Num)
  | truth (b : Bool)
  | nothing
  | list (items : List Value)
  | tuple (items : List Value)
  | table (rows : List (String × Value))
  /-- An array of doubles. -/
  | array (grid : Grid)
  | entity (e : Entity)
  | scene (s : Scene)
  /-- Something known by its own description. -/
  | other (description : String)
  deriving Inhabited

namespace Value

/-- Texts one after the other, with commas between. -/
def commas (texts : List String) : String := String.intercalate ", " texts

/-- A tuple of texts; a single one is followed by a comma. -/
def tupleText (texts : List String) : String :=
  match texts with
  | [t] => "(" ++ t ++ ",)"
  | ts => "(" ++ commas ts ++ ")"

/-- The constructor name of a kind. -/
def typeName (k : Kind) : String := k.keyword?.getD "Plane"

/-- A truth value. -/
def truthText (b : Bool) : String := if b then "True" else "False"

/-- A number that may be unset. -/
def optionText : Option Num → String
  | some n => n.text
  | none => "None"

/-- Named numbers in the order in which they were given. -/
def valuesText (v : Values) : String :=
  "\x7b" ++ commas (v.entries.map fun (key, n) => Text.quote key ++ ": " ++ optionText n) ++ "\x7d"

/-- The names of the references of a kind. -/
def referenceNames : Kind → List String
  | .point | .plane => []
  | .line | .segment | .ray | .midpoint | .bisector => ["start_id", "end_id"]
  | .circle => ["center_id", "point_id"]
  | .angle => ["vertex_id", "p1_id", "p2_id"]
  | .angleBisector => ["angle_id"]

/-- An entity with all its parts. -/
def entityText (e : Entity) : String :=
  let refs := (referenceNames e.kind).zip e.references
  typeName e.kind ++ "(" ++
    commas ([s!"id={Text.quote e.id}", s!"span=Span(line={e.span.line}, col={e.span.col})",
      s!"values={valuesText e.values}"] ++ refs.map fun (name, id) => s!"{name}={Text.quote id}") ++
    ")"

/-- A scene with all its entities. -/
def sceneText (s : Scene) : String :=
  "Scene(entities=[" ++ commas (s.entities.map entityText) ++ "])"

mutual

/-- The full text of a value. -/
def fullText : Value → String
  | text s => Text.quote s
  | number n => n.text
  | truth b => truthText b
  | nothing => "None"
  | list items => "[" ++ commas (fullTexts items) ++ "]"
  | tuple items => tupleText (fullTexts items)
  | table rows => "\x7b" ++ commas (fullRows rows) ++ "\x7d"
  | array grid => grid.text
  | entity e => entityText e
  | scene s => sceneText s
  | other description => description

/-- The full texts of values. -/
def fullTexts : List Value → List String
  | [] => []
  | v :: rest => v.fullText :: fullTexts rest

/-- The full texts of the rows of a table. -/
def fullRows : List (String × Value) → List String
  | [] => []
  | (key, v) :: rest => (Text.quote key ++ ": " ++ v.fullText) :: fullRows rest

end

/-- Named numbers as a table. -/
def ofValues (v : Values) : Value :=
  .table (v.entries.map fun (key, n) => (key, n.elim .nothing .number))

mutual

/-- A grid as nested lists. -/
def ofGrid : Grid → Value
  | .cell x => .number (.real x)
  | .row items => .list (ofGrids items)

/-- The items of a row as nested lists. -/
def ofGrids : List Grid → List Value
  | [] => []
  | g :: rest => ofGrid g :: ofGrids rest

end

end Value

end Straightedge
