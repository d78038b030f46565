import Straightedge.Drag.Lock
import Straightedge.Frame.Render

/-!
# Dragging points

A controller owns a scene and the surface it is drawn on. Pressing near a point
takes hold of it; moving a held point gives it the coordinates of the pointer
and draws the frame again; letting go, or leaving the surface, ends the hold. A
lock keeps presses and moves from doing anything but does not end a hold.
-/

namespace Straightedge

/-- Whether a position is strictly closer than a radius to a place. -/
def isNear (p : Num × Num) (x y radius : Num) : Except Fault Bool := do
  let dx ← p.1.sub x
  let dy ← p.2.sub y
  return Num.lt (.real (Binary64.hypot (← dx.toFloat) (← dy.toFloat))) radius

/-- The position in a list of its first point that is closer than a radius to a place; the
first entity of the list has the number `i`. -/
def hitFrom (i : Nat) (x y radius : Num) : List Entity → Except Fault (Option Nat)
  | [] => .ok none
  | e :: rest =>
    match e.kind, e.values.point? with
    | .point, some p => do
      if ← isNear p x y radius then return some i else hitFrom (i + 1) x y radius rest
    | _, _ => hitFrom (i + 1) x y radius rest

/-- The position of the first point of a scene that is closer than a radius to a place. -/
def Scene.hit (s : Scene) (x y radius : Num) : Except Fault (Option Nat) :=
  hitFrom 0 x y radius s.entities

/-- What a controller holds: an entity of its scene by position, or one that has been taken
out of the scene meanwhile. -/
inductive Held where
  | member (i : Nat)
  | detached (e : Entity)
  deriving DecidableEq, Repr

/-- A scene, its surface, and what is held of it. -/
structure Controller (σ : Type) where
  stage : Stage σ
  lock : Lock
  style : Style
  options : Options := {}
  /-- Whether somebody is told about changes. -/
  notifies : Bool := false
  held : Option Held := none

/-- What the pointer does over a surface. -/
inductive PointerEvent where
  | down (x y : Num)
  | move (x y : Num)
  | up
  | leave
  /-- Draw the scene again without moving anything. -/
  | draw
  deriving DecidableEq, Repr

/-- What an event reports. -/
inductive Reply where
  | done
  /-- The position of the point taken hold of, if any. -/
  | hit (i : Option Nat)
  /-- Whether a point was moved. -/
  | moved (b : Bool)
  deriving DecidableEq, Repr

/-- What an event leaves: the controller, the report or fault, and the ids of changed points. -/
structure Response (σ : Type) where
  controller : Controller σ
  reply : Except Fault Reply
  changed : List String := []

/-- The fault that cut an event short, if any. -/
def Response.fault? {σ : Type} (r : Response σ) : Option Fault :=
  match r.reply with
  | .ok _ => none
  | .error f => some f

namespace Controller

variable {σ : Type}

/-- The scene of a controller. -/
def scene (c : Controller σ) : Scene := c.stage.scene

/-- The surface of a controller. -/
def surface (c : Controller σ) : σ := c.stage.surface

/-- The position of the held entity, if it is still in the scene. -/
def heldIndex? (c : Controller σ) : Option Nat :=
  match c.held with
  | some (.member i) => some i
  | _ => none

/-- The id of what is held. -/
def heldId? (c : Controller σ) : Option String :=
  match c.held with
  | some (.member i) => (c.scene.entities[i]?).map (·.id)
  | some (.detached e) => some e.id
  | none => none

/-- Change the scene without drawing it. -/
def modifyScene (c : Controller σ) (f : Scene → Scene) : Controller σ :=
  { c with stage := { c.stage with scene := f c.stage.scene } }

/-- Take an entity out of the scene. Its hold goes on, over an entity that is nowhere drawn. -/
def erase (c : Controller σ) (i : Nat) : Controller σ :=
  let held := match c.held, c.scene.entities[i]? with
    | some (.member j), some e =>
      if j = i then some (.detached e) else some (.member (if i < j then j - 1 else j))
    | held, _ => held
  { c.modifyScene (·.eraseIdx i) with held }

/-- Give what is held the coordinates of the pointer. -/
def moveHeld (c : Controller σ) (x y : Num) : Controller σ :=
  match c.held with
  | some (.member i) => c.modifyScene fun s => s.modifyValues i fun v => v.setPoint x y
  | some (.detached e) =>
    { c with held := some (.detached { e with values := e.values.setPoint x y }) }
  | none => c

/-- Try to take hold of a point. -/
def press (c : Controller σ) (locked : Bool) (x y : Num) : Response σ :=
  if locked then ⟨c, .ok (.hit none), []⟩
  else
    match c.scene.hit x y c.style.hitRadius with
    | .ok i => ⟨{ c with held := i.map .member }, .ok (.hit i), []⟩
    | .error f => ⟨c, .error f, []⟩

/-- End the hold. -/
def letGo (c : Controller σ) : Controller σ := { c with held := none }

variable [Surface σ]

/-- Draw the scene. -/
def render (c : Controller σ) : Outcome (Controller σ) :=
  (c.stage.render c.style c.options).map fun stage => { c with stage }

/-- Move what is held, draw, and tell about it. -/
def drag (c : Controller σ) (locked : Bool) (x y : Num) : Response σ :=
  match c.heldId? with
  | none => ⟨c, .ok (.moved false), []⟩
  | some id =>
    if locked then ⟨c, .ok (.moved false), []⟩
    else
      let drawn := (c.moveHeld x y).render
      match drawn.fault with
      | some f => ⟨drawn.state, .error f, []⟩
      | none => ⟨drawn.state, .ok (.moved true), if c.notifies then [id] else []⟩

/-- Respond to the pointer, with the lock as it is now. -/
def handle (c : Controller σ) (locked : Bool) : PointerEvent → Response σ
  | .down x y => c.press locked x y
  | .move x y => c.drag locked x y
  | .up => ⟨c.letGo, .ok .done, []⟩
  | .leave => ⟨c.letGo, .ok .done, []⟩
  | .draw =>
    let drawn := c.render
    ⟨drawn.state, drawn.fault.elim (.ok .done) .error, []⟩

end Controller

end Straightedge
