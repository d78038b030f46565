import Straightedge.Canvas.Path

/-!
# Calls on a drawing surface

A surface has a pen: the current path and the current colours, line width, font
and text alignment. Some calls only move the pen or change how it draws; the
others clear, stroke, fill or write with the pen as it is. What a surface keeps
of the latter is its own matter.
-/

namespace Straightedge

/-- A call that changes nothing but the pen. -/
inductive PenCall where
  /-- Start a new path. -/
  | beginPath
  /-- Add a step to the path. -/
  | step (s : PathStep Num)
  | strokeColor (color : String)
  | fillColor (color : String)
  /-- Fill in the colour that strokes have at the moment. -/
  | fillAsStroke
  | lineWidth (width : Num)
  | font (font : String)
  | align (align : String)
  | baseline (baseline : String)
  deriving DecidableEq, Repr

/-- A call on a surface. -/
inductive Call where
  | pen (call : PenCall)
  | clear (x y width height : Num)
  | stroke
  | fill
  | text (text : String) (x y : Num)
  deriving DecidableEq, Repr

/-- The state of a pen. -/
structure Pen where
  strokeColor : String := "black"
  fillColor : String := "black"
  lineWidth : Num := .real 1
  font : String := "10px sans-serif"
  align : String := "start"
  baseline : String := "alphabetic"
  path : Path Float := []
  deriving DecidableEq, Repr, Inhabited

namespace Pen

/-- What a call makes of a pen. A step whose numbers no double can hold is not taken. -/
def perform (p : Pen) : PenCall → Outcome Pen
  | .beginPath => ⟨{ p with path := [] }, none⟩
  | .step s =>
    match s.toFloats with
    | .ok s => ⟨{ p with path := p.path ++ [s] }, none⟩
    | .error f => ⟨p, some f⟩
  | .strokeColor color => ⟨{ p with strokeColor := color }, none⟩
  | .fillColor color => ⟨{ p with fillColor := color }, none⟩
  | .fillAsStroke => ⟨{ p with fillColor := p.strokeColor }, none⟩
  | .lineWidth width => ⟨{ p with lineWidth := width }, none⟩
  | .font font => ⟨{ p with font := font }, none⟩
  | .align align => ⟨{ p with align := align }, none⟩
  | .baseline baseline => ⟨{ p with baseline := baseline }, none⟩

end Pen

/-- Drawing surfaces: they have a size and respond to calls. -/
class Surface (σ : Type) where
  width : σ → Num
  height : σ → Num
  perform : σ → Call → Outcome σ

namespace Surface

variable {σ : Type} [Surface σ]

/-- Calls made one after the other until one of them fails. -/
def performAll (s : σ) (calls : List Call) : Outcome σ := Outcome.fold perform s calls

/-- Clear the whole surface. -/
def clearAll (s : σ) : Outcome σ := perform s (.clear 0 0 (width s) (height s))

end Surface

end Straightedge
