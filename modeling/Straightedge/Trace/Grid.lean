import Straightedge.Number.Shortest

/-!
# Grids of doubles

A grid is a double or a row of grids. Its text shows all doubles in one form,
padded to one width, and breaks lines that would be longer than a page. The
form is positional unless the doubles are very large or small or differ by more
than a factor of a thousand. Each double has its shortest digits, of which eight
places are kept.
-/

namespace Straightedge

/-- A double, or a row of grids. -/
inductive Grid where
  | cell (x : Float)
  | row (items : List Grid)
  deriving Inhabited

namespace Grid

mutual

/-- The doubles of a grid from the first to the last. -/
def cells : Grid → List Float
  | cell x => [x]
  | row items => cellsOf items

/-- The doubles of the items of a row. -/
def cellsOf : List Grid → List Float
  | [] => []
  | g :: rest => g.cells ++ cellsOf rest

end

/-- The lengths of nested rows along their first items. -/
def shape : Grid → List Nat
  | cell _ => []
  | row [] => [0]
  | row (g :: rest) => (rest.length + 1) :: g.shape

/-- How many doubles a grid of this shape has room for. -/
def size (g : Grid) : Nat := g.shape.foldl (· * ·) 1

/-- The most digits after the point. -/
def maxPlaces : Nat := 8

/-- The size of a line. -/
def pageWidth : Nat := 75

/-- The text of a double in pieces: before the point, after it, and an exponent, which is empty
in positional form. -/
structure Piece where
  whole : List Char
  fraction : List Char
  exponent : List Char
  deriving DecidableEq, Repr

/-- Digits in positional form. -/
def positional (d : Shortest.Digits) : Piece :=
  if d.place ≤ 0 then ⟨['0'], List.replicate (-d.place).toNat '0' ++ d.digits, []⟩
  else
    let n := d.place.toNat
    ⟨d.digits.take n ++ List.replicate (n - d.digits.length) '0', d.digits.drop n, []⟩

/-- The sign of an exponent and its digits, two at least. -/
def exponentText (e : Int) : List Char :=
  let ds := Nat.toDigits 10 e.natAbs
  (if e < 0 then '-' else '+') :: List.replicate (2 - ds.length) '0' ++ ds

/-- Digits with an exponent. -/
def scientific (d : Shortest.Digits) : Piece :=
  ⟨d.digits.take 1, d.digits.drop 1, exponentText (d.place - 1)⟩

/-- The shortest digits of a positive double, rounded where more than `maxPlaces` would stand
after the point. -/
def digitsOf (withExponent : Bool) (x : Float) (num den : Nat) : Shortest.Digits :=
  let d := (Shortest.search x num den 17 1).split
  let before : Int := if withExponent then 1 else d.place
  if (maxPlaces : Int) < d.digits.length - before then
    match Shortest.neighbours num den (d.place - before - maxPlaces) with
    | nearest :: _ => nearest.split
    | [] => d
  else d

/-- The pieces of a finite double. -/
def Piece.ofParts (withExponent : Bool) (x : Float) (p : Binary64.Parts) : Piece :=
  let num := p.num.natAbs
  let piece :=
    if num = 0 then ⟨['0'], [], if withExponent then exponentText 0 else []⟩
    else
      let d := digitsOf withExponent x.abs num p.den
      if withExponent then scientific d else positional d
  if Binary64.isNegative x then { piece with whole := '-' :: piece.whole } else piece

/-- Whether doubles are shown with exponents. -/
def needsExponent (xs : List Float) : Bool :=
  let sizes := (xs.filter fun x => x.isFinite && x != 0).map Float.abs
  sizes.any (1e8 ≤ ·) || sizes.any (· < 0.0001) ||
    sizes.any fun x => sizes.any fun y => x / y > 1000

/-- The form of all doubles of a grid: whether they have an exponent, and the widths of their
pieces. -/
structure Form where
  withExponent : Bool
  whole : Nat
  fraction : Nat
  exponent : Nat
  deriving DecidableEq, Repr

namespace Form

/-- The width of what follows the point. -/
def tail (f : Form) : Nat := if f.withExponent then f.fraction + 1 + f.exponent else f.fraction

/-- The form of some doubles: as wide as the widest of them. -/
def ofCells (xs : List Float) : Form :=
  let withExponent := needsExponent xs
  let pieces := xs.filterMap fun x => (Binary64.parts? x).map (Piece.ofParts withExponent x)
  let widest (f : Piece → List Char) : Nat := (pieces.map fun p => (f p).length).foldl max 0
  let form : Form :=
    ⟨withExponent, widest Piece.whole, widest Piece.fraction, widest Piece.exponent⟩
  let others := (xs.filter fun x => !x.isFinite).map fun x => if x < 0 then 4 else 3
  { form with whole := (others.map (· - (form.tail + 1))).foldl max form.whole }

/-- The text of a double in a form. -/
def text (f : Form) (x : Float) : List Char :=
  match Binary64.parts? x with
  | none =>
    let word := (if x.isNaN then "nan" else if x < 0 then "-inf" else "inf").toList
    List.replicate (f.whole + 1 + f.tail - word.length) ' ' ++ word
  | some p =>
    let piece := Piece.ofParts f.withExponent x p
    let missing := f.fraction - piece.fraction.length
    List.replicate (f.whole - piece.whole.length) ' ' ++ piece.whole ++ '.' :: piece.fraction ++
      if f.withExponent then
        List.replicate missing '0' ++ 'e' :: piece.exponent.take 1 ++
          List.replicate (f.exponent - piece.exponent.length) '0' ++ piece.exponent.drop 1
      else List.replicate missing ' '

end Form

/-- Text that is complete up to the last line, and the last line. -/
abbrev Page := List Char × List Char

/-- Add a word to the last line, or start a new line with it when it does not fit. -/
def Page.add (indent width : Nat) (page : Page) (word : List Char) : Page :=
  let (done, line) := page
  if width < line.length + word.length ∧ indent < line.length then
    let line := (line.reverse.dropWhile (· == ' ')).reverse
    (done ++ line ++ ['\n'], List.replicate indent ' ' ++ word)
  else (done, line ++ word)

/-- Words with commas between, on lines of a width. The first line starts behind the indent. -/
def wrap (indent width : Nat) (words : List (List Char)) : List Char :=
  let page : Page := ([], List.replicate indent ' ')
  let (done, line) := words.zipIdx.foldl
    (fun page (word, i) =>
      let (done, line) := page.add indent width word
      if i + 1 < words.length then (done, line ++ [',', ' ']) else (done, line))
    page
  (done ++ line).drop indent

mutual

/-- The text of a grid of some depth, its lines indented and of a width. -/
def lay (f : Form) (depth indent width : Nat) : Grid → List Char
  | cell x => f.text x
  | row items =>
    let texts := layAll f (depth - 1) (indent + 1) (width - 1) items
    let inner :=
      if depth ≤ 1 then wrap indent (width - 1) texts
      else
        let gap := ',' :: List.replicate (depth - 1) '\n' ++ List.replicate indent ' '
        List.intercalate gap texts
    '[' :: inner ++ [']']

/-- The texts of the items of a row. -/
def layAll (f : Form) (depth indent width : Nat) : List Grid → List (List Char)
  | [] => []
  | g :: rest => lay f depth indent width g :: layAll f depth indent width rest

end

/-- What a text of a grid starts with. -/
def opening : List Char := "array(".toList

/-- The text of a grid; one without doubles tells its shape and what it would hold. -/
def text (g : Grid) : String :=
  let shape := g.shape
  if g.size = 0 then
    let sizes := "(" ++ String.intercalate ", " (shape.map toString) ++ ")"
    let detail := if shape = [0] then "" else ", shape=" ++ sizes
    String.ofList opening ++ "[]" ++ detail ++ ", dtype=float64)"
  else
    let inner := lay (Form.ofCells g.cells) shape.length (opening.length + 1) (pageWidth - 1) g
    String.ofList (opening ++ inner ++ [')'])

end Grid

end Straightedge
