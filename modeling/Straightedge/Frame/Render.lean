import Straightedge.Dependency.Midpoints
import Straightedge.Frame.Blocks

/-!
# Frames

A frame is drawn from the independent state of a scene alone: the surface is
cleared, derived coordinates are forgotten, and every entity contributes its
block, layer by layer and within a layer in declaration order. Midpoints are
derived just before the markers, so shapes built on them are skipped; on request
they are derived first, in dependency order, and such shapes are drawn as well.

A fault stops the frame where it occurs. What was drawn and derived up to there
stays.
-/

namespace Straightedge

/-- A surface and the scene drawn on it. -/
structure Stage (σ : Type) where
  surface : σ
  scene : Scene

namespace Stage

variable {σ : Type}

/-- Do something with the surface. -/
def onSurface (st : Stage σ) (act : σ → Outcome σ) : Outcome (Stage σ) :=
  (act st.surface).map fun surface => { st with surface }

/-- Do something with the scene. -/
def onScene (st : Stage σ) (act : Scene → Outcome Scene) : Outcome (Stage σ) :=
  (act st.scene).map fun scene => { st with scene }

@[simp] theorem onSurface_scene (st : Stage σ) (act : σ → Outcome σ) :
    (st.onSurface act).state.scene = st.scene := rfl

@[simp] theorem onScene_surface (st : Stage σ) (act : Scene → Outcome Scene) :
    (st.onScene act).state.surface = st.surface := rfl

variable [Surface σ]

/-- The kinds that share a layer, for the layers drawn before the markers. -/
def shapeLayers : List (List Kind) :=
  [[.line, .segment, .ray, .bisector], [.angle], [.angleBisector], [.circle]]

/-- The kinds that share a layer, for the layers of markers. -/
def markerLayers : List (List Kind) := [[.point], [.midpoint]]

/-- The entities of some layers in the order in which they are drawn. -/
def inLayers (s : Scene) (layers : List (List Kind)) : List Entity :=
  layers.flatMap fun kinds => s.entities.filter fun e => kinds.contains e.kind

/-- The blocks of the entities of some layers. -/
def drawing (style : Style) (s : Scene) (layers : List (List Kind)) : Drawing Unit :=
  Drawing.sequence ((inLayers s layers).map (Block.of style s))

/-- Draw some layers. -/
def draw (style : Style) (layers : List (List Kind)) (st : Stage σ) : Outcome (Stage σ) :=
  st.onSurface (drawing style st.scene layers).on

/-- Clear the surface and forget what was derived. -/
def clear (st : Stage σ) : Outcome (Stage σ) :=
  (st.onSurface Surface.clearAll).andThen fun st =>
    st.onScene fun s => ⟨s.clearDerived, none⟩

/-- Draw one frame. -/
def render (style : Style) (options : Options) (st : Stage σ) : Outcome (Stage σ) :=
  if options.resolve then
    st.clear.andThen fun st =>
    (st.onScene Scene.deriveOrdered).andThen fun st =>
    (st.draw style shapeLayers).andThen fun st =>
    st.draw style markerLayers
  else
    st.clear.andThen fun st =>
    (st.draw style shapeLayers).andThen fun st =>
    (st.onScene Scene.deriveDeclared).andThen fun st =>
    st.draw style markerLayers

@[simp] theorem draw_scene (style : Style) (layers : List (List Kind)) (st : Stage σ) :
    (st.draw style layers).state.scene = st.scene := rfl

end Stage

end Straightedge
