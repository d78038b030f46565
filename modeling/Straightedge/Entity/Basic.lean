import Straightedge.Entity.Values

/-!
# Entities

An entity has an id, a shape, values, and the place in the text where its
declaration starts. The shape tells what the entity is made from: it names other
entities by their ids, in the order in which a declaration lists them. Points
carry their own coordinates in `x` and `y`; those of a midpoint are derived.
-/

namespace Straightedge

/-- A place in a text, lines and columns counted from one. -/
structure Span where
  line : Nat
  col : Nat
  deriving DecidableEq, Repr, Inhabited

/-- What an entity is made from. -/
inductive Shape where
  | point
  | plane
  | line (start stop : String)
  | segment (start stop : String)
  | ray (start through : String)
  | midpoint (start stop : String)
  | bisector (start stop : String)
  | circle (center through : String)
  | angle (vertex first second : String)
  | angleBisector (angle : String)
  deriving DecidableEq, Repr

/-- How many other entities a kind refers to. -/
def Kind.arity : Kind → Nat
  | point | plane => 0
  | line | segment | ray | midpoint | bisector | circle => 2
  | angle => 3
  | angleBisector => 1

namespace Shape

/-- The kind of a shape. -/
def kind : Shape → Kind
  | point => .point
  | plane => .plane
  | line .. => .line
  | segment .. => .segment
  | ray .. => .ray
  | midpoint .. => .midpoint
  | bisector .. => .bisector
  | circle .. => .circle
  | angle .. => .angle
  | angleBisector .. => .angleBisector

/-- The ids a shape refers to, in declaration order. -/
def references : Shape → List String
  | point | plane => []
  | line a b | segment a b | ray a b | midpoint a b | bisector a b | circle a b => [a, b]
  | angle v a b => [v, a, b]
  | angleBisector a => [a]

/-- The shape of a kind over the given references; one that is not given is empty. -/
def ofKind (k : Kind) (refs : List String) : Shape :=
  let a := refs.getD 0 ""
  let b := refs.getD 1 ""
  let c := refs.getD 2 ""
  match k with
  | .point => point
  | .plane => plane
  | .line => line a b
  | .segment => segment a b
  | .ray => ray a b
  | .midpoint => midpoint a b
  | .bisector => bisector a b
  | .circle => circle a b
  | .angle => angle a b c
  | .angleBisector => angleBisector a

/-- Every reference under another name. -/
def rename (f : String → String) : Shape → Shape
  | point => point
  | plane => plane
  | line a b => line (f a) (f b)
  | segment a b => segment (f a) (f b)
  | ray a b => ray (f a) (f b)
  | midpoint a b => midpoint (f a) (f b)
  | bisector a b => bisector (f a) (f b)
  | circle a b => circle (f a) (f b)
  | angle v a b => angle (f v) (f a) (f b)
  | angleBisector a => angleBisector (f a)

@[simp] theorem kind_ofKind (k : Kind) (refs : List String) : (ofKind k refs).kind = k := by
  cases k <;> rfl

theorem length_references (s : Shape) : s.references.length = s.kind.arity := by
  cases s <;> rfl

/-- A kind with as many references as it takes keeps them all. -/
theorem references_ofKind {k : Kind} {refs : List String} (h : refs.length = k.arity) :
    (ofKind k refs).references = refs := by
  match refs with
  | [] => cases k <;> first | rfl | simp [Kind.arity] at h
  | [a] => cases k <;> first | rfl | simp [Kind.arity] at h
  | [a, b] => cases k <;> first | rfl | simp [Kind.arity] at h
  | [a, b, c] => cases k <;> first | rfl | simp [Kind.arity] at h
  | a :: b :: c :: d :: rest => cases k <;> simp [Kind.arity] at h

@[simp] theorem ofKind_references (s : Shape) : ofKind s.kind s.references = s := by
  cases s <;> rfl

@[simp] theorem kind_rename (f : String → String) (s : Shape) : (s.rename f).kind = s.kind := by
  cases s <;> rfl

@[simp] theorem references_rename (f : String → String) (s : Shape) :
    (s.rename f).references = s.references.map f := by
  cases s <;> rfl

end Shape

/-- A named part of a scene. -/
structure Entity where
  id : String
  shape : Shape
  values : Values := .empty
  span : Span := ⟨0, 0⟩
  deriving DecidableEq, Repr

namespace Entity

/-- The kind of an entity. -/
def kind (e : Entity) : Kind := e.shape.kind

/-- The ids an entity refers to, in declaration order. -/
def references (e : Entity) : List String := e.shape.references

/-- The entity with its id and its references under other names. -/
def rename (f : String → String) (e : Entity) : Entity :=
  { e with id := f e.id, shape := e.shape.rename f }

@[simp] theorem kind_rename (f : String → String) (e : Entity) : (e.rename f).kind = e.kind :=
  Shape.kind_rename f e.shape

@[simp] theorem references_rename (f : String → String) (e : Entity) :
    (e.rename f).references = e.references.map f :=
  Shape.references_rename f e.shape

end Entity

end Straightedge
