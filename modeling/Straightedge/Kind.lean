/-!
# Kinds of entities

A scene is made of ten kinds of entities. The kind decides what an entity
refers to, what it contributes to a frame and which command declares it.
-/

namespace Straightedge

/-- The kinds of entities a scene may hold. -/
inductive Kind where
  | point
  | line
  | segment
  | ray
  | midpoint
  | bisector
  | angle
  | plane
  | circle
  | angleBisector
  deriving DecidableEq, Repr

namespace Kind

/-- The name a kind has in messages and in the colour table of a style. -/
def name : Kind → String
  | point => "point"
  | line => "line"
  | segment => "segment"
  | ray => "ray"
  | midpoint => "midpoint"
  | bisector => "bisector"
  | angle => "angle"
  | plane => "plane"
  | circle => "circle"
  | angleBisector => "angleBisector"

/-- All kinds, in the order of their declaration. -/
def all : List Kind :=
  [point, line, segment, ray, midpoint, bisector, angle, plane, circle, angleBisector]

theorem mem_all (k : Kind) : k ∈ all := by cases k <;> decide

theorem name_injective {j k : Kind} (h : j.name = k.name) : j = k := by
  revert h
  cases j <;> cases k <;> decide

/-- The kind of a given name. -/
def ofName? (s : String) : Option Kind := all.find? (·.name == s)

/-- The word that opens the command declaring an entity of a kind; a plane has no command. -/
def keyword? : Kind → Option String
  | point => some "Point"
  | line => some "Line"
  | segment => some "Segment"
  | ray => some "Ray"
  | midpoint => some "Midpoint"
  | bisector => some "Bisector"
  | angle => some "Angle"
  | plane => none
  | circle => some "Circle"
  | angleBisector => some "AngleBisector"

/-- The kind that a command's opening word declares. -/
def ofKeyword? (s : String) : Option Kind := all.find? (·.keyword? == some s)

/-- Reading a keyword back gives the kind it was written for. -/
theorem ofKeyword?_eq_some_iff {s : String} {k : Kind} :
    ofKeyword? s = some k ↔ k.keyword? = some s := by
  constructor
  · intro h
    simpa using List.find?_some h
  · intro h
    cases k <;> simp [keyword?] at h <;> subst h <;> decide

end Kind

end Straightedge
