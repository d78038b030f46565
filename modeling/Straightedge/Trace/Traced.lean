import Straightedge.Canvas.Recording
import Straightedge.Frame.Render
import Straightedge.Scene.Read
import Straightedge.Trace.Log

/-!
# Traced readings and frames

Reading a scene and drawing a frame are traced. A lenient reading moreover
writes a message for every line it drops, with the number of the line and the
error that a strict reading would have reported for it.
-/

namespace Straightedge.Trace

/-- The part that reads scenes. -/
def readerLogger : String := "geoscene.parser"

/-- The part that draws frames. -/
def frameLogger : String := "geoscene.renderer"

/-- The message of a dropped line. -/
def skipping (number : Nat) (err : StatementError) : LogEntry :=
  Log.debug readerLogger s!"Skipping line {number}: {err.message}"

/-- The arguments of a reading. -/
def readArguments (strict : Bool) (text : String) : Arguments :=
  ⟨[.text text], [("strict", .truth strict)]⟩

/-- A reading with its log. -/
def read (strict : Bool) (text : String) : Except Refusal Scene × Log :=
  let result := Scene.ofText strict text
  let dropped := if strict then [] else (Scene.read text).dropped
  let outcome := match result with
    | .ok s => some (some (Value.scene s))
    | .error _ => none
  (result, call readerLogger "parse_scene" (readArguments strict text)
    (dropped.map fun (number, err) => skipping number err) outcome)

/-- How a surface of a class is described; where it lies in memory is left open. -/
def surfaceText (className : String) : String :=
  "<geoscene.surface." ++ className ++ " object at 0x?>"

/-- How the switches of a frame are described. -/
def optionsText (o : Options) : String :=
  "RenderOptions(resolve_dependencies=" ++ Value.truthText o.resolve ++ ")"

/-- The numbers of a style with their names. -/
def styleNumbers (s : Style) : List (String × Num) :=
  [("surface_size", s.surfaceSize), ("ray_length", s.rayLength),
    ("bisector_half_length", s.bisectorHalfLength), ("angle_radius", s.angleRadius),
    ("angle_label_offset", s.angleLabelOffset),
    ("angle_bisector_length", s.angleBisectorLength), ("arrow_offset", s.arrowOffset),
    ("arrow_size", s.arrowSize), ("point_radius", s.pointRadius), ("label_dx", s.labelShift),
    ("hit_radius", s.hitRadius), ("line_width", s.lineWidth), ("outline_width", s.outlineWidth)]

/-- How a style is described. -/
def styleText (s : Style) : String :=
  let colors := Value.table (s.colors.map fun (part, color) => (part, .text color))
  "RenderConfig(" ++ Value.commas
    (((styleNumbers s).map fun (name, n) => name ++ "=" ++ n.text) ++
      ["font=" ++ Text.quote s.font, "background=" ++ Text.quote s.background,
        "colors=" ++ colors.fullText]) ++ ")"

/-- What a frame draws with, as arguments; a part that is not given is left to its default. -/
def frameArguments (className : String) (s : Scene) (options : Option Options)
    (style : Option Style) : Arguments :=
  ⟨[.other (surfaceText className), .scene s, options.elim .nothing (.other ∘ optionsText)] ++
    (style.map (.other ∘ styleText)).toList, []⟩

/-- The log of a frame. -/
def frame (a : Arguments) (fault : Option Fault) : Log :=
  call frameLogger "render" a [] (if fault.isNone then some none else none)

/-- Draw a scene on a recording surface, with the log of the frame. The scene is the one left
by the frame. -/
def draw (s : Scene) (options : Option Options) : Outcome Scene × Log :=
  let stage : Stage Recording := ⟨{}, s⟩
  let drawn := stage.render .default (options.getD {})
  (drawn.map Stage.scene,
    frame (frameArguments "RecordingSurface" s options none) drawn.fault)

end Straightedge.Trace
