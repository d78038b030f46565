import Straightedge.Statement.Basic
import Straightedge.Statement.Excerpt
import Straightedge.Text.Lines

/-!
# Reading a scene

A text is read line by line, each line against the scene that the lines before
it have declared. A lenient reading drops the lines that declare nothing and
keeps account of them; a strict reading stops at the first of them and shows it.
-/

namespace Straightedge

/-- A scene as far as it was read, and the lines dropped on the way, with their numbers. -/
structure Reading where
  scene : Scene
  dropped : List (Nat × StatementError)
  deriving DecidableEq, Repr

/-- The line at which a strict reading stops. -/
structure Refusal where
  error : StatementError
  line : List Char
  deriving DecidableEq, Repr

namespace Refusal

/-- The message of a refusal. An error in the command itself is shown in its line. -/
def message (r : Refusal) : String :=
  let plain := r.error.message
  if r.error.reference?.isSome then plain
  else
    match Excerpt.attach? plain.toList r.line with
    | some cs => String.ofList cs
    | none => plain

end Refusal

namespace Scene

/-- The entity that a numbered line declares on top of a scene, if it declares any. -/
def declared? (s : Scene) (number : Nat) (line : List Char) :
    Except StatementError (Option Entity) :=
  Entity.ofTokens? s (Token.lex number line)

end Scene

namespace Reading

/-- Nothing read yet. -/
def start : Reading := ⟨.empty, []⟩

/-- Read one more line. -/
def next (r : Reading) (number : Nat) (line : List Char) : Reading :=
  match r.scene.declared? number line with
  | .ok none => r
  | .ok (some e) => { r with scene := r.scene.push e }
  | .error err => { r with dropped := r.dropped ++ [(number, err)] }

/-- Read lines, the first of them with the given number. -/
def lines (r : Reading) (number : Nat) : List (List Char) → Reading
  | [] => r
  | line :: rest => (r.next number line).lines (number + 1) rest

end Reading

namespace Scene

/-- Read lines on top of a scene and stop at the first that does not declare anything. -/
def strictLines (s : Scene) (number : Nat) : List (List Char) → Except Refusal Scene
  | [] => .ok s
  | line :: rest =>
    match s.declared? number line with
    | .ok none => s.strictLines (number + 1) rest
    | .ok (some e) => (s.push e).strictLines (number + 1) rest
    | .error err => .error ⟨err, line⟩

/-- The lenient reading of a text. -/
def read (text : String) : Reading := Reading.start.lines 1 (Text.lines text.toList)

/-- The strict reading of a text. -/
def readStrict (text : String) : Except Refusal Scene :=
  Scene.empty.strictLines 1 (Text.lines text.toList)

/-- The scene of a text, read strictly or leniently. -/
def ofText (strict : Bool) (text : String) : Except Refusal Scene :=
  if strict then readStrict text else .ok (read text).scene

end Scene

end Straightedge
