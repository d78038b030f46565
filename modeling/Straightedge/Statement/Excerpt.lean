import Straightedge.Text.Blank
import Straightedge.Text.Digit

/-!
# Excerpts with a caret

A message that names a place is followed by the line it is about and a caret
under the column. Only the first place named in a message counts, and a message
that already spans several lines is left as it is.
-/

namespace Straightedge.Excerpt

/-- The rest of a text after a given start. -/
def after? : (start cs : List Char) → Option (List Char)
  | [], cs => some cs
  | _ :: _, [] => none
  | s :: start, c :: cs => if s == c then after? start cs else none

/-- A non-empty run of digits and the rest. -/
def digits? (cs : List Char) : Option (List Char × List Char) :=
  match cs.takeWhile Text.isDigit with
  | [] => none
  | ds => some (ds, cs.dropWhile Text.isDigit)

/-- The column of the place that a text starts with. -/
def columnHere? (cs : List Char) : Option Nat := do
  let cs ← after? "[line ".toList cs
  let (_, cs) ← digits? cs
  let cs ← after? ", col ".toList cs
  let (ds, cs) ← digits? cs
  let _ ← after? "]".toList cs
  return Text.decimalValue ds

/-- The column of the first place that a text names. -/
def column? : List Char → Option Nat
  | [] => none
  | c :: cs => (columnHere? (c :: cs)).or (column? cs)

/-- The message followed by its line and a caret: none when the line is empty, the message
spans several lines, or no place is named. -/
def attach? (message line : List Char) : Option (List Char) :=
  if line.isEmpty || message.contains '\n' then none
  else do
    let col ← column? message
    let indent := [' ', ' ', ' ', ' ']
    return message ++ '\n' :: indent ++ Text.trimEnd line ++ '\n' :: indent ++
      List.replicate (max col 1 - 1) ' ' ++ ['^']

end Straightedge.Excerpt
