import Straightedge.Number.Basic

/-!
# Styles

The lengths, widths, fonts and colours of a frame, and how near a press must
come to a point. A colour that the table does not name is that of lines, which
therefore must be there.
-/

namespace Straightedge

/-- How a scene is drawn and handled. -/
structure Style where
  surfaceSize : Num := 500
  rayLength : Num := .real 300
  bisectorHalfLength : Num := .real 100
  angleRadius : Num := .real 40
  angleLabelOffset : Num := .real 15
  angleBisectorLength : Num := .real 100
  arrowOffset : Num := .real 10
  arrowSize : Num := .real 8
  pointRadius : Num := .real 5
  labelShift : Num := .real 8
  hitRadius : Num := .real 12
  lineWidth : Num := .real 2
  outlineWidth : Num := .real 1
  font : String := "12px Arial"
  background : String := "#1e1e1e"
  colors : List (String × String) :=
    [("line", "white"), ("bisector", "cyan"), ("angle", "purple"), ("angleBisector", "orange"),
      ("circle", "lime"), ("point", "yellow"), ("midpoint", "orange"), ("outline", "black"),
      ("label", "white")]
  deriving DecidableEq, Repr

namespace Style

/-- The style used unless another one is given. -/
def default : Style := {}

instance : Inhabited Style := ⟨default⟩

/-- The colour of a part of the frame: that of lines if the table does not name the part. -/
def color (style : Style) (part : String) : Except Fault String :=
  match List.lookup "line" style.colors with
  | none => .error (.missing "line")
  | some line => .ok ((List.lookup part style.colors).getD line)

/-- A style that may be made the common one: its surface must have a size. -/
def checked (style : Style) : Except Fault Style :=
  if style.surfaceSize.le 0 then .error .surfaceSize else .ok style

/-- With a colour for lines every part has a colour. -/
theorem exists_color {style : Style} {line : String}
    (h : List.lookup "line" style.colors = some line) (part : String) :
    ∃ c, style.color part = .ok c := by
  simp [color, h]

end Style

/-- Switches of a single frame. -/
structure Options where
  /-- Derive midpoints before anything is drawn, so that shapes built on them are drawn too. -/
  resolve : Bool := false
  deriving DecidableEq, Repr, Inhabited

end Straightedge
