import Straightedge.Trace.Value

/-!
# Abbreviated values

A trace shows values in a bounded form. Texts, integers and descriptions that
are too long lose their middle; collections show their first items only, and
nothing beyond six levels. On top of this, lists and tuples are shown by their
first items, arrays by their shape unless they are small, scenes by how many
entities of each kind they hold, and entities by their id and values.
-/

namespace Straightedge.Abbreviation

/-- The most characters of a text in quotes. -/
def maxText : Nat := 80

/-- The most digits of an integer, its sign included. -/
def maxInteger : Nat := 40

/-- The most characters of anything else. -/
def maxOther : Nat := 160

/-- The most items of a list, and the most rows of a table. -/
def maxItems : Nat := 10

/-- The most items of a tuple. -/
def maxTuple : Nat := 6

/-- The most levels of nesting. -/
def maxLevel : Nat := 6

/-- What stands for what is left out. -/
def dots : List Char := ['.', '.', '.']

/-- The characters that stay in front of the dots when at most `limit` may stay in all. -/
def front (limit : Nat) : Nat := (limit - 3) / 2

/-- The characters that stay after the dots. -/
def back (limit : Nat) : Nat := limit - 3 - front limit

/-- A text without its middle. -/
def cut (limit : Nat) (cs : List Char) : List Char :=
  cs.take (front limit) ++ dots ++ cs.drop (cs.length - back limit)

/-- A text, without its middle if it is too long. -/
def shorten (limit : Nat) (cs : List Char) : List Char :=
  if limit < cs.length then cut limit cs else cs

/-- The last characters of a text. A text shorter than `n` counts the start of what is taken
from its own end again. -/
def lastPart (n : Nat) (cs : List Char) : List Char :=
  if n ≤ cs.length then cs.drop (cs.length - n) else cs.drop (2 * cs.length - n)

/-- A text in quotes. The middle is left out of the text and again of its quoted form. -/
def ofText (s : String) : String :=
  let cs := s.toList
  let whole := Text.quoteChars (cs.take maxText)
  String.ofList <|
    if whole.length ≤ maxText then whole
    else cut maxText (Text.quoteChars (cs.take (front maxText) ++ lastPart (back maxText) cs))

/-- Anything that is shown by its description. -/
def ofDescription (s : String) : String := String.ofList (shorten maxOther s.toList)

/-- A number. -/
def ofNum : Num → String
  | .int i => String.ofList (shorten maxInteger (toString i).toList)
  | .real x => ofDescription (Shortest.text x)

/-- The first texts of a collection, and dots for the others. -/
def firstOf (limit : Nat) (texts : List String) : List String :=
  if limit < texts.length then texts.take limit ++ ["..."] else texts

/-- The items of a collection in brackets; the items of the last level are not shown. -/
def bracket (left right : String) (limit level : Nat) (texts : List String) : String :=
  if texts.isEmpty then left ++ right
  else if level = 0 then left ++ "..." ++ right
  else left ++ Value.commas (firstOf limit texts) ++ right

/-- The items of a tuple in brackets; a single one that is shown is followed by a comma. -/
def tuple (level : Nat) (texts : List String) : String :=
  bracket "(" (if texts.length = 1 ∧ level ≠ 0 then ",)" else ")") maxTuple level texts

mutual

/-- A value in bounded form, with so many levels left. -/
def bounded (level : Nat) : Value → String
  | .text s => ofText s
  | .number n => ofNum n
  | .list items => bracket "[" "]" maxItems level (boundedAll (level - 1) items)
  | .tuple items => tuple level (boundedAll (level - 1) items)
  | .table rows =>
    let sorted := (boundedRows (level - 1) rows).mergeSort fun a b => decide (a.1 ≤ b.1)
    bracket "\x7b" "\x7d" maxItems level (sorted.map (·.2))
  | v => ofDescription v.fullText

/-- Values in bounded form. -/
def boundedAll (level : Nat) : List Value → List String
  | [] => []
  | v :: rest => bounded level v :: boundedAll level rest

/-- The rows of a table in bounded form, with their keys. -/
def boundedRows (level : Nat) : List (String × Value) → List (String × String)
  | [] => []
  | (key, v) :: rest =>
    (key, ofText key ++ ": " ++ bounded level v) :: boundedRows level rest

end

/-- A value in bounded form. -/
def short (v : Value) : String := bounded maxLevel v

/-- How many items and how many characters a trace shows; a negative limit counts from the
end. -/
structure Limits where
  items : Int := 5
  length : Int := 400
  deriving DecidableEq, Repr

/-- As many items as a limit allows. -/
def takeLimit {α : Type} (limit : Int) (l : List α) : List α :=
  if 0 ≤ limit then l.take limit.toNat else l.take (l.length - limit.natAbs)

/-- The kinds of a scene in the order of their first entities, with their numbers. -/
def kindCounts (s : Scene) : List (Kind × Nat) :=
  let kinds := s.entities.map (·.kind)
  kinds.eraseDups.map fun k => (k, kinds.count k)

/-- A scene by how many entities of each kind it holds. -/
def ofScene (s : Scene) : String :=
  let counts := (kindCounts s).map fun (k, n) => k.name ++ "=" ++ toString n
  let summary := if counts.isEmpty then "empty" else Value.commas counts
  s!"Scene({s.size} entities: {summary})"

/-- An entity by its id and values. -/
def ofEntity (e : Entity) : String :=
  Value.typeName e.kind ++ "(" ++ Text.quote e.id ++ ", values=" ++
    short (.ofValues e.values) ++ ")"

/-- An array by its items if there are few, otherwise by its shape. -/
def ofArray (limits : Limits) (grid : Grid) : String :=
  if grid.size ≤ limits.items then "ndarray(" ++ short (.ofGrid grid) ++ ")"
  else "ndarray(shape=" ++ Value.tupleText (grid.shape.map toString) ++ ", dtype=float64)"

/-- Shown items in brackets, and how many there are if not all are shown. -/
def ofItems (limits : Limits) (count : Nat) (shown : List String) : String :=
  let more := if limits.items < count then [s!"... ({count} items)"] else []
  "[" ++ Value.commas (shown ++ more) ++ "]"

/-- A text, cut off if it is too long. -/
def truncate (limits : Limits) (s : String) : String :=
  if limits.length < s.length then
    String.ofList (takeLimit limits.length s.toList) ++ "... (truncated)"
  else s

mutual

/-- What a trace shows of a value. -/
def ofValue (limits : Limits) : Value → String
  | .array grid => ofArray limits grid
  | .scene s => ofScene s
  | .entity e => ofEntity e
  | .list items => ofItems limits items.length (takeLimit limits.items (ofValues items))
  | .tuple items => ofItems limits items.length (takeLimit limits.items (ofValues items))
  | v => truncate limits (short v)

/-- What a trace shows of the items of a list: each within the usual limits. -/
def ofValues : List Value → List String
  | [] => []
  | v :: rest => ofValue {} v :: ofValues rest

end

end Straightedge.Abbreviation
