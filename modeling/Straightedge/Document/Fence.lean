import Straightedge.Text.Blank
import Straightedge.Text.Lines

/-!
# Fenced blocks

A fenced block of a document opens with a line of at most three spaces, a run of
three or more backticks or tildes, and a remainder without backticks whose first
word names the language. It closes with a line of at most three spaces, a run of
the same character at least as long, and blanks. Whatever stands between is its
body; a block that is never closed runs to the end of the document.
-/

namespace Straightedge.Fence

/-- The backtick. -/
def backtick : Char := '\x60'

/-- The line that opens a block: its fence and the language it names. -/
structure Opener where
  mark : Char
  length : Nat
  language : List Char
  deriving DecidableEq, Repr

/-- A block: its language and the lines of its body. -/
structure Block where
  language : List Char
  body : List (List Char)
  deriving DecidableEq, Repr

/-- A line without its indent; none when the indent is more than three spaces. -/
def unindent? (line : List Char) : Option (List Char) :=
  if (line.takeWhile (· == ' ')).length ≤ 3 then some (line.dropWhile (· == ' ')) else none

/-- The fence that a line opens a block with, if it does. -/
def opener? (line : List Char) : Option Opener := do
  let text ← unindent? line
  let mark ← text.head?
  let run := text.takeWhile (· == mark)
  let rest := text.dropWhile (· == mark)
  if (mark == backtick || mark == '~') && 3 ≤ run.length && !rest.contains backtick then
    return ⟨mark, run.length, (Text.trimStart rest).takeWhile fun c => !Text.isBlank c⟩
  else none

/-- Whether a line closes a block that a fence has opened. -/
def Opener.closedBy (o : Opener) (line : List Char) : Bool :=
  match unindent? line with
  | none => false
  | some text =>
    o.length ≤ (text.takeWhile (· == o.mark)).length &&
      (text.dropWhile (· == o.mark)).all Text.isBlank

/-- The blocks of a document. -/
def blocks : List (List Char) → List Block
  | [] => []
  | line :: rest =>
    match opener? line with
    | none => blocks rest
    | some o =>
      let isBody (l : List Char) : Bool := !o.closedBy l
      ⟨o.language, rest.takeWhile isBody⟩ :: blocks ((rest.dropWhile isBody).drop 1)
termination_by lines => lines.length
decreasing_by
  · simp
  · have := (List.dropWhile_sublist (fun l => !o.closedBy l) (l := rest)).length_le
    simp only [List.length_cons, List.length_drop]
    omega

/-- The bodies of the blocks in a language, in document order. -/
def bodiesOf (language document : String) : List String :=
  ((blocks (Text.lines document.toList)).filter (·.language == language.toList)).map
    fun b => String.ofList (Text.joinLines b.body)

/-- The language of embedded scenes. -/
def sceneLanguage : String := "geometry"

end Straightedge.Fence
