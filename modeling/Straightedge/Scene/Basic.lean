import Straightedge.Entity.Basic

/-!
# Scenes

A scene is a list of entities in declaration order. An id stands for the first
entity declared under it; a later declaration of the same id keeps its place in
the scene but is never referred to.
-/

namespace Straightedge

/-- Entities in declaration order. -/
structure Scene where
  entities : List Entity
  deriving DecidableEq, Repr

namespace Scene

/-- The scene without entities. -/
def empty : Scene := ⟨[]⟩

instance : Inhabited Scene := ⟨empty⟩

/-- The number of entities. -/
def size (s : Scene) : Nat := s.entities.length

/-- The first entity declared under an id. -/
def find? (s : Scene) (id : String) : Option Entity := s.entities.find? (·.id == id)

/-- The position of the first entity declared under an id. -/
def index? (s : Scene) (id : String) : Option Nat := s.entities.findIdx? (·.id == id)

/-- The shape of the entity at a position. -/
def shapeAt? (s : Scene) (i : Nat) : Option Shape := (s.entities[i]?).map Entity.shape

/-- The entities of a kind, in declaration order. -/
def ofKind (s : Scene) (k : Kind) : List Entity := s.entities.filter (·.kind == k)

/-- The positions of the entities of a kind. -/
def indicesOf (s : Scene) (k : Kind) : List Nat :=
  (List.range s.size).filter fun i => (s.entities[i]?).any (·.kind == k)

/-- All ids in declaration order, repeated ones included. -/
def ids (s : Scene) : List String := s.entities.map (·.id)

/-- Add an entity at the end. -/
def push (s : Scene) (e : Entity) : Scene := ⟨s.entities ++ [e]⟩

/-- Take out the entity at a position. -/
def eraseIdx (s : Scene) (i : Nat) : Scene := ⟨s.entities.eraseIdx i⟩

/-- Change the values of the entity at a position. -/
def modifyValues (s : Scene) (i : Nat) (f : Values → Values) : Scene :=
  ⟨s.entities.modify i fun e => { e with values := f e.values }⟩

/-- The scene with every id and reference under another name. -/
def rename (f : String → String) (s : Scene) : Scene := ⟨s.entities.map (Entity.rename f)⟩

@[simp] theorem entities_push (s : Scene) (e : Entity) :
    (s.push e).entities = s.entities ++ [e] := rfl

@[simp] theorem ids_push (s : Scene) (e : Entity) : (s.push e).ids = s.ids ++ [e.id] := by
  simp [ids, push]

/-- An entity added at the end is found only under an id that was free. -/
theorem find?_push (s : Scene) (e : Entity) (id : String) :
    (s.push e).find? id = (s.find? id).or (if e.id = id then some e else none) := by
  simp only [find?, entities_push, List.find?_append, List.find?_singleton, beq_iff_eq]

/-- What is found under an id has it. -/
theorem id_of_find? {s : Scene} {id : String} {e : Entity} (h : s.find? id = some e) :
    e.id = id := by
  simpa using List.find?_some h

@[simp] theorem entities_modifyValues (s : Scene) (i : Nat) (f : Values → Values) :
    (s.modifyValues i f).entities =
      s.entities.modify i fun e => { e with values := f e.values } := rfl

@[simp] theorem size_modifyValues (s : Scene) (i : Nat) (f : Values → Values) :
    (s.modifyValues i f).size = s.size := by
  simp [size]

end Scene

end Straightedge
