import Straightedge.Text.Blank
import Straightedge.Text.Digit

/-!
# Fonts

A font is given as a size in pixels, with or without a fraction, and a family,
as in `12px Arial`. The size is turned into points, of which there are three to
four pixels. Anything else stands for ten points of the plain sans-serif family.
-/

namespace Straightedge

/-- A size in points and a family. -/
structure Font where
  size : Float
  family : String
  deriving DecidableEq, Repr

namespace Font

/-- The font that a text without a readable font is written in. -/
def fallback : Font := ⟨10, "sans-serif"⟩

/-- A decimal number with or without a fraction, and the rest of the text. -/
def decimal? (cs : List Char) : Option (Float × List Char) :=
  let whole := cs.takeWhile Text.isDigit
  let rest := cs.dropWhile Text.isDigit
  if whole.isEmpty then none
  else
    match rest with
    | '.' :: more =>
      let fraction := more.takeWhile Text.isDigit
      if fraction.isEmpty then some (Float.ofScientific (Text.decimalValue whole) false 0, rest)
      else
        some (Float.ofScientific (Text.decimalValue (whole ++ fraction)) true fraction.length,
          more.dropWhile Text.isDigit)
    | _ => some (Float.ofScientific (Text.decimalValue whole) false 0, rest)

/-- The last of some blanks that is no line feed. -/
def lastBlank? (blanks : List Char) : Option Char := blanks.reverse.find? (· != '\n')

/-- The family after the unit: blanks, a name on one line, blanks. When there are only blanks,
the last of them that is no line feed and has a blank before it is the name. -/
def family? (cs : List Char) : Option (List Char) :=
  match cs.takeWhile Text.isBlank with
  | [] => none
  | _ :: blanks =>
    match Text.trimEnd (Text.trimStart cs) with
    | [] => (lastBlank? blanks).map fun c => [c]
    | name => if name.contains '\n' then none else some name

/-- Read a font. -/
def read? (cs : List Char) : Option Font := do
  match ← decimal? (Text.trimStart cs) with
  | (pixels, 'p' :: 'x' :: rest) => return ⟨pixels * 0.75, String.ofList (← family? rest)⟩
  | _ => none

/-- The font that a text describes. -/
def ofText (text : String) : Font := (read? text.toList).getD fallback

end Font

end Straightedge
