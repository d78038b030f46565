import Straightedge.Scene.Basic
import Straightedge.Statement.Token

/-!
# Statements

A statement is one command: the keyword of a kind, the id it declares, and what
the kind needs: two integers in parentheses for a point, the ids of other
entities for every other kind. Whatever follows a complete command is ignored.
Ids are resolved only once the command is complete, from left to right, against
the scene declared so far. An integer may have at most 4300 digits.
-/

namespace Straightedge

/-- An id that a command refers to, and where it stands. -/
structure Reference where
  id : String
  span : Span
  deriving DecidableEq, Repr

/-- Why a line declares nothing. -/
inductive StatementError where
  /-- A token that cannot continue the command. -/
  | unexpected (found : Token) (wanted : List TokenKind)
  /-- The line ends inside the command. -/
  | endOfLine (wanted : List TokenKind)
  /-- The first word is no keyword. -/
  | unknownCommand (keyword : Token)
  /-- An integer with more digits than are allowed. -/
  | integerTooLong (found : Token)
  /-- An id that no earlier line declares. -/
  | unknownId (ref : Reference)
  /-- An id declared as something else where an angle is needed. -/
  | notAnAngle (ref : Reference) (kind : Kind)
  deriving DecidableEq, Repr

/-- A place as it stands at the start of a message. -/
def Span.tag (s : Span) : String := s!"[line {s.line}, col {s.col}]"

namespace StatementError

/-- The kinds that could stand at a place. -/
def alternatives (wanted : List TokenKind) : String :=
  String.intercalate "|" (wanted.map TokenKind.name)

/-- How an error is worded. -/
def message : StatementError → String
  | unexpected found wanted =>
    s!"{found.span.tag} expected {alternatives wanted}, got {found.kind.name}"
  | endOfLine wanted => s!"Unexpected end of line: expected {alternatives wanted}"
  | unknownCommand keyword => s!"{keyword.span.tag} unknown command \"{keyword.text}\""
  | integerTooLong found =>
    s!"{found.span.tag} invalid integer {String.ofList (found.text.toList.take 20)}..."
  | unknownId ref => s!"{ref.span.tag} unknown id {Text.quote ref.id}"
  | notAnAngle ref kind =>
    s!"{ref.span.tag} {Text.quote ref.id} is a {kind.name}, expected an angle"

/-- The place of the reference, if a complete command failed to resolve. -/
def reference? : StatementError → Option Reference
  | unknownId ref | notAnAngle ref _ => some ref
  | _ => none

end StatementError

/-- A complete command. -/
inductive Statement where
  /-- A point and its coordinates. -/
  | point (id : String) (x y : Nat) (span : Span)
  /-- An entity made from others. -/
  | made (kind : Kind) (id : String) (refs : List Reference) (span : Span)
  deriving DecidableEq, Repr

namespace Statement

/-- A computation that reads tokens from the left. -/
abbrev Reader := StateT (List Token) (Except StatementError)

/-- The next token, if it is of one of the kinds wanted. -/
def expect (wanted : List TokenKind) : Reader Token
  | [] => .error (.endOfLine wanted)
  | t :: rest => if t.kind ∈ wanted then .ok (t, rest) else .error (.unexpected t wanted)

/-- An id; a number will do. -/
def name : Reader Reference := do
  let t ← expect [.id, .number]
  return ⟨t.text, t.span⟩

/-- A number of ids. -/
def names : Nat → Reader (List Reference)
  | 0 => return []
  | n + 1 => return (← name) :: (← names n)

/-- The largest number of digits an integer may have. -/
def maxDigits : Nat := 4300

/-- A non-negative integer. -/
def integer : Reader Nat := do
  let t ← expect [.number]
  let digits := t.text.toList
  if digits.length ≤ maxDigits then return Text.decimalValue digits
  else throw (.integerTooLong t)

/-- The rest of a command whose keyword has been read. -/
def arguments (kind : Kind) (span : Span) : Reader Statement :=
  match kind with
  | .point => do
    let declared ← name
    let _ ← expect [.leftParen]
    let x ← integer
    let _ ← expect [.comma]
    let y ← integer
    let _ ← expect [.rightParen]
    return .point declared.id x y span
  | kind => do
    let declared ← name
    return .made kind declared.id (← names kind.arity) span

/-- A command. -/
def command : Reader Statement := do
  let keyword ← expect [.id]
  match Kind.ofKeyword? keyword.text with
  | some kind => arguments kind keyword.span
  | none => throw (.unknownCommand keyword)

/-- The command that tokens start with; none when there are no tokens. -/
def ofTokens? (tokens : List Token) : Except StatementError (Option Statement) :=
  match tokens with
  | [] => .ok none
  | tokens => do
    let (statement, _) ← command tokens
    return some statement

/-- The entity that a reference stands for. -/
def resolve (scene : Scene) (ref : Reference) : Except StatementError Entity :=
  match scene.find? ref.id with
  | some e => .ok e
  | none => .error (.unknownId ref)

/-- The coordinates that two entities have when a line, segment or ray is declared between
them; a coordinate that is not there is left out. -/
def snapshot (start stop : Values) : Values :=
  ⟨[("x1", start.get? "x"), ("y1", start.get? "y"), ("x2", stop.get? "x"),
    ("y2", stop.get? "y")].filterMap fun (key, entry) => entry.map (key, ·)⟩

/-- The values an entity is declared with. -/
def valuesOf (kind : Kind) (targets : List Entity) : Values :=
  match kind, targets with
  | .line, [a, b] | .segment, [a, b] | .ray, [a, b] => snapshot a.values b.values
  | _, _ => .empty

/-- Whether references resolve to what a kind is made from. -/
def check (kind : Kind) (refs : List Reference) (targets : List Entity) :
    Except StatementError Unit :=
  match kind, refs, targets with
  | .angleBisector, [ref], [target] =>
    if target.kind = .angle then .ok () else .error (.notAnAngle ref target.kind)
  | _, _, _ => .ok ()

/-- The entity that a command declares, its references resolved from left to right. -/
def toEntity (scene : Scene) : Statement → Except StatementError Entity
  | point id x y span =>
    .ok { id, shape := .point, values := .ofPoint (.int x) (.int y), span }
  | made kind id refs span => do
    let targets ← refs.mapM (resolve scene)
    check kind refs targets
    return { id, shape := .ofKind kind (targets.map (·.id)), values := valuesOf kind targets, span }

end Statement

/-- The entity that a line declares on top of a scene, if it declares any. -/
def Entity.ofTokens? (scene : Scene) (tokens : List Token) :
    Except StatementError (Option Entity) := do
  match ← Statement.ofTokens? tokens with
  | none => return none
  | some statement => return some (← statement.toEntity scene)

end Straightedge
