import Straightedge.Canvas.Call

/-!
# Recording surfaces

A recording surface keeps an entry for every drawing call instead of pixels.
Strokes, fills and texts are kept with the style and the path in effect, so two
frames are equal exactly when their entries are. Clearing a rectangle that
covers the surface forgets all earlier entries.
-/

namespace Straightedge

/-- What is kept of a drawing call. -/
inductive Entry where
  | clear (x y width height : Float)
  | stroke (color : String) (width : Float) (path : Path Float)
  | fill (color : String) (path : Path Float)
  | text (text : String) (x y : Float) (color font align baseline : String)
  deriving DecidableEq, Repr

/-- A surface that keeps a log of what was drawn on it. -/
structure Recording where
  width : Num := 500
  height : Num := 500
  pen : Pen := {}
  entries : List Entry := []
  deriving DecidableEq, Repr

namespace Recording

/-- Whether a rectangle covers the surface. -/
def covers (s : Recording) (x y width height : Num) : Except Fault Bool := do
  if x.le 0 && y.le 0 then
    if s.width.le (← x.add width) then return s.height.le (← y.add height) else return false
  else return false

/-- The entry of a cleared rectangle. -/
def clearEntry (x y width height : Num) : Except Fault Entry := do
  return .clear (← x.toFloat) (← y.toFloat) (← width.toFloat) (← height.toFloat)

/-- Add an entry, unless it cannot be made. -/
def push (s : Recording) : Except Fault Entry → Outcome Recording
  | .ok e => ⟨{ s with entries := s.entries ++ [e] }, none⟩
  | .error f => ⟨s, some f⟩

/-- Clear a rectangle. -/
def clear (s : Recording) (x y width height : Num) : Outcome Recording :=
  match s.covers x y width height with
  | .error f => ⟨s, some f⟩
  | .ok covered =>
    let s := if covered then { s with entries := [] } else s
    s.push (clearEntry x y width height)

/-- The entry of a stroke with a pen. -/
def strokeEntry (p : Pen) : Except Fault Entry := do
  return .stroke p.strokeColor (← p.lineWidth.toFloat) p.path

/-- The entry of a text written with a pen. -/
def textEntry (p : Pen) (text : String) (x y : Num) : Except Fault Entry := do
  return .text text (← x.toFloat) (← y.toFloat) p.fillColor p.font p.align p.baseline

/-- What a call makes of the surface. -/
def perform (s : Recording) : Call → Outcome Recording
  | .pen call => (s.pen.perform call).map fun p => { s with pen := p }
  | .clear x y width height => s.clear x y width height
  | .stroke => s.push (strokeEntry s.pen)
  | .fill => s.push (.ok (.fill s.pen.fillColor s.pen.path))
  | .text text x y => s.push (textEntry s.pen text x y)

instance : Surface Recording where
  width := width
  height := height
  perform := perform

/-- The strokes, of one colour or of all. -/
def strokes (s : Recording) (color : Option String) : List Entry :=
  s.entries.filter fun
    | .stroke c .. => color.all (· == c)
    | _ => false

/-- The fills, of one colour or of all. -/
def fills (s : Recording) (color : Option String) : List Entry :=
  s.entries.filter fun
    | .fill c .. => color.all (· == c)
    | _ => false

/-- The texts written. -/
def texts (s : Recording) : List String :=
  s.entries.filterMap fun
    | .text t .. => some t
    | _ => none

end Recording

end Straightedge
