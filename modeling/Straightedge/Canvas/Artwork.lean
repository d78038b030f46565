import Straightedge.Canvas.Call
import Straightedge.Canvas.Font
import Straightedge.Canvas.Outline
import Straightedge.Number.Shortest
import Straightedge.Style

/-!
# Artwork surfaces

An artwork surface turns drawing calls into pieces that a plotting canvas can
show: outlines, filled patches and labels. Paths without an outline and texts at
a place that is not finite leave no piece. The surface is cleared only as a
whole, which takes all pieces away. No label is smaller than one point.
-/

namespace Straightedge

/-- A piece of a drawing. -/
inductive Piece where
  | outline (color : String) (width : Float) (outline : Outline)
  | patch (color : String) (outline : Outline)
  | label (text : String) (x y : Float) (color : String) (font : Font) (align baseline : String)
  deriving DecidableEq, Repr

/-- A surface that keeps the pieces drawn on it. -/
structure Artwork where
  width : Num := 500
  height : Num := 500
  background : String := "#1e1e1e"
  pen : Pen := {}
  pieces : List Piece := []
  deriving DecidableEq, Repr

namespace Artwork

/-- The horizontal alignment that a text alignment stands for. -/
def alignment : String → String
  | "center" => "center"
  | "right" | "end" => "right"
  | _ => "left"

/-- The vertical alignment that a text baseline stands for. -/
def verticalAlignment : String → String
  | "top" | "hanging" => "top"
  | "middle" => "center"
  | "bottom" => "bottom"
  | _ => "baseline"

/-- Whether a rectangle leaves out a part of the surface. -/
def misses (s : Artwork) (x y width height : Num) : Except Fault Bool := do
  if Num.lt 0 x || Num.lt 0 y then return true
  else if (← x.add width).lt s.width then return true
  else return (← y.add height).lt s.height

/-- Clear a rectangle, which must be the whole surface. -/
def clear (s : Artwork) (x y width height : Num) : Outcome Artwork :=
  match s.misses x y width height with
  | .ok false => ⟨{ s with pieces := [] }, none⟩
  | .ok true => ⟨s, some .partialClear⟩
  | .error f => ⟨s, some f⟩

/-- The piece of a stroke with a pen. -/
def strokePiece (p : Pen) : Except Fault (Option Piece) := do
  match ← Outline.ofPath? p.path.toNums with
  | none => return none
  | some outline => return some (.outline p.strokeColor (← p.lineWidth.toFloat) outline)

/-- The piece of a filled path. -/
def fillPiece (p : Pen) : Except Fault (Option Piece) := do
  return (← Outline.ofPath? p.path.toNums).map (.patch p.fillColor)

/-- The font of a label: one point at least. -/
def labelFont (text : String) : Font :=
  let font := Font.ofText text
  if font.size < 1 then { font with size := 1 } else font

/-- The piece of a text. -/
def textPiece (p : Pen) (text : String) (x y : Num) : Except Fault (Option Piece) := do
  if !(← x.isFinite) then return none
  else if !(← y.isFinite) then return none
  else
    return some (.label text (← x.toFloat) (← y.toFloat) p.fillColor (labelFont p.font)
      (alignment p.align) (verticalAlignment p.baseline))

/-- Add a piece, if there is one. -/
def push (s : Artwork) : Except Fault (Option Piece) → Outcome Artwork
  | .ok (some piece) => ⟨{ s with pieces := s.pieces ++ [piece] }, none⟩
  | .ok none => ⟨s, none⟩
  | .error f => ⟨s, some f⟩

/-- What a call makes of the surface. -/
def perform (s : Artwork) : Call → Outcome Artwork
  | .pen call => (s.pen.perform call).map fun p => { s with pen := p }
  | .clear x y width height => s.clear x y width height
  | .stroke => s.push (strokePiece s.pen)
  | .fill => s.push (fillPiece s.pen)
  | .text text x y => s.push (textPiece s.pen text x y)

instance : Surface Artwork where
  width := width
  height := height
  perform := perform

/-- The resolution of pictures, in pixels per inch. -/
def resolution : Float := 100

/-- A square surface with the background of a style: of the given size, or of the style's if
none or zero is given. The size must not be negative and must be finite. -/
def square (size : Option Num) (style : Style) : Except Fault Artwork := do
  let side := match size with
    | some n => if n.isZero then style.surfaceSize else n
    | none => style.surfaceSize
  let inches := (← side.toFloat) / resolution
  if inches.isFinite && !(inches < 0) then
    return { width := side, height := side, background := style.background }
  else throw (.pictureSize (Shortest.text inches))

end Artwork

end Straightedge
