import Straightedge.Document.Fence
import Straightedge.Drag.Desk
import Straightedge.Scene.Read

/-!
# Views

A view shows one scene of a document on an artwork surface and lets its points
be dragged. Bindings connect a view to the mouse and the keyboard; there may be
several, and each passes on what happens for itself. The pointer is over one
view at most: moving into another view, or off a view, ends what is held there.
-/

namespace Straightedge

/-- A connection of a view to mouse and keyboard. -/
structure Binding where
  /-- The key that flips the lock of the view. -/
  toggleKey : Option String := some "l"
  connected : Bool := true
  deriving DecidableEq, Repr

namespace Binding

/-- How many kinds of events a connected binding listens to. -/
def listeners (b : Binding) : Nat := if b.connected then 6 else 0

/-- Whether a key flips the lock. No key does when none is set, or an empty one. -/
def toggledBy (b : Binding) (key : String) : Bool :=
  match b.toggleKey with
  | some k => !k.isEmpty && k == key
  | none => false

end Binding

/-- A scene on a surface of its own, with its bindings. -/
structure View where
  controller : Controller Artwork
  /-- Bindings made earlier that have been replaced since; they stay connected. -/
  earlier : List Binding := []
  binding : Option Binding := none

/-- Why a view could not be opened. -/
inductive ViewError where
  | refused (r : Refusal)
  | faulted (f : Fault)

namespace View

/-- Open a view on the text of a scene and draw it. -/
def open? (source : String) (strict : Bool) (lock : Lock) (options : Options) (style : Style) :
    Except ViewError View := do
  let scene ← (Scene.ofText strict source).mapError .refused
  let surface ← (Artwork.square none style).mapError .faulted
  let c : Controller Artwork := { stage := ⟨surface, scene⟩, lock, style, options }
  let drawn := c.render
  match drawn.fault with
  | some f => throw (.faulted f)
  | none => return { controller := drawn.state }

/-- All bindings that pass on events, oldest first. -/
def connections (v : View) : List Binding :=
  (v.earlier ++ v.binding.toList).filter (·.connected)

/-- Make a further binding. -/
def bind (v : View) (key : Option String) : View :=
  { v with earlier := v.earlier ++ v.binding.toList, binding := some { toggleKey := key } }

/-- Make a binding unless there is one. -/
def enable (v : View) : View := if v.binding.isSome then v else v.bind (some "l")

/-- Disconnect the current binding. -/
def disconnect (v : View) : View :=
  { v with binding := v.binding.map fun b => { b with connected := false } }

/-- Disconnect the current binding and forget it. -/
def close (v : View) : View := { v with binding := none }

/-- Whether a place lies on the surface of a view. -/
def inside (v : View) (x y : Num) : Bool :=
  let s := v.controller.surface
  Num.le 0 x && x.le s.width && Num.le 0 y && y.le s.height

/-- Pass an event on to the controller, once for every binding. -/
def pass (v : View) (locked : Bool) (event : PointerEvent) : Outcome View :=
  Outcome.fold
    (fun v _ =>
      let r := v.controller.handle locked event
      ⟨{ v with controller := r.controller }, r.fault?⟩)
    v v.connections

end View

/-- Views that share their locks, and the one that the pointer was last moved over. -/
structure Gallery where
  locks : Locks := {}
  views : List View := []
  pointed : Option Nat := none

/-- What the mouse does. -/
inductive MouseAction where
  | press
  | motion
  | release
  deriving DecidableEq, Repr

namespace Gallery

/-- Pass an event on to one view. -/
def pass (g : Gallery) (i : Nat) (event : PointerEvent) : Outcome Gallery :=
  match g.views[i]? with
  | none => ⟨g, none⟩
  | some v =>
    (v.pass (g.locks.engaged v.controller.lock) event).map fun v =>
      { g with views := g.views.set i v }

/-- Note which view the pointer is over; the view it was over before loses its hold. -/
def moveOver (g : Gallery) (target : Option Nat) : Outcome Gallery :=
  let left := if g.pointed = target then none else g.pointed
  (left.elim ⟨g, none⟩ fun j => g.pass j .leave).map fun g => { g with pointed := target }

/-- A mouse event at a place of a view. Only a release counts outside the surface. -/
def mouse (g : Gallery) (i : Nat) (action : MouseAction) (x y : Num) : Outcome Gallery :=
  let inside := (g.views[i]?).any (·.inside x y)
  match action with
  | .press => if inside then g.pass i (.down x y) else ⟨g, none⟩
  | .motion =>
    (g.moveOver (if inside then some i else none)).andThen fun g =>
      if inside then g.pass i (.move x y) else ⟨g, none⟩
  | .release => g.pass i .up

/-- A key pressed over a view flips its lock, if the lock is a switch, once for every binding
with that key. -/
def key (g : Gallery) (i : Nat) (key : String) : Gallery :=
  match g.views[i]? with
  | none => g
  | some v =>
    match v.controller.lock with
    | .gate _ => g
    | .switch s =>
      let times := (v.connections.filter (·.toggledBy key)).length
      { g with locks := Nat.repeat (fun ls : Locks => ls.toggle s) times g.locks }

/-- Change one view. -/
def modifyView (g : Gallery) (i : Nat) (f : View → View) : Gallery :=
  { g with views := g.views.modify i f }

/-- Open a view on each text: with the given lock, or each with a switch of its own. -/
def openEach (g : Gallery) (strict : Bool) (lock : Option Lock) (options : Options)
    (style : Style) : List String → Except ViewError Gallery
  | [] => return g
  | source :: rest => do
    let (locks, own) := match lock with
      | some lock => (g.locks, lock)
      | none => g.locks.addSwitch false
    let v ← View.open? source strict own options style
    openEach { g with locks, views := g.views ++ [v] } strict lock options style rest

/-- Open a view on each scene of a document. All of them share one lock, a new switch unless
a lock is given. -/
def openDocument (g : Gallery) (document : String) (strict : Bool) (lock : Option Lock)
    (options : Options) (style : Style) : Except ViewError Gallery :=
  let (locks, lock) := match lock with
    | some lock => (g.locks, lock)
    | none => g.locks.addSwitch false
  openEach { g with locks } strict (some lock) options style
    (Fence.bodiesOf Fence.sceneLanguage document)

end Gallery

end Straightedge
