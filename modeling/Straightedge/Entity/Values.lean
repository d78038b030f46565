import Straightedge.Number.Basic

/-!
# Values of an entity

The numeric state of an entity: named numbers in the order in which their names
were first given. A name may be present without a number.
-/

namespace Straightedge

/-- Named numbers in insertion order; a name may be there without a number. -/
structure Values where
  entries : List (String × Option Num)
  deriving DecidableEq, Repr

namespace Values

/-- No values at all. -/
def empty : Values := ⟨[]⟩

instance : Inhabited Values := ⟨empty⟩

/-- The entry under a name, if there is one. -/
def get? (v : Values) (key : String) : Option (Option Num) :=
  (v.entries.find? (·.1 == key)).map (·.2)

/-- The number under a name: none when the name is missing and none when it is unset. -/
def number? (v : Values) (key : String) : Option Num := (v.get? key).join

/-- Replace the entry of a name that is there. -/
def replaceEntry (key : String) (n : Option Num) :
    List (String × Option Num) → List (String × Option Num)
  | [] => []
  | e :: rest => if e.1 == key then (key, n) :: rest else e :: replaceEntry key n rest

/-- Give a name a value; a new name goes to the end. -/
def set (v : Values) (key : String) (n : Option Num) : Values :=
  if (v.get? key).isSome then ⟨replaceEntry key n v.entries⟩ else ⟨v.entries ++ [(key, n)]⟩

/-- Take a name out. -/
def erase (v : Values) (key : String) : Values := ⟨v.entries.filter (·.1 != key)⟩

/-- Values given one after the other. -/
def ofList (entries : List (String × Option Num)) : Values :=
  entries.foldl (fun v e => v.set e.1 e.2) empty

/-- The coordinates of a point. -/
def ofPoint (x y : Num) : Values := ⟨[("x", some x), ("y", some y)]⟩

/-- Give both coordinates. -/
def setPoint (v : Values) (x y : Num) : Values := (v.set "x" (some x)).set "y" (some y)

@[simp] theorem get?_empty (key : String) : empty.get? key = none := rfl

@[simp] theorem number?_empty (key : String) : empty.number? key = none := rfl

theorem find?_replaceEntry (key other : String) (n : Option Num) (es : List (String × Option Num)) :
    ((replaceEntry key n es).find? (·.1 == other)).map (·.2) =
      if other = key then ((es.find? (·.1 == key)).map fun _ => n)
      else (es.find? (·.1 == other)).map (·.2) := by
  induction es with
  | nil => simp [replaceEntry]
  | cons e es ih =>
    simp only [replaceEntry, List.find?_cons]
    by_cases h : e.1 = key
    · subst h
      by_cases ho : other = e.1
      · subst ho; simp
      · have : (e.1 == other) = false := by simpa using fun h => ho h.symm
        simp [this, ho]
    · by_cases ho : e.1 = other
      · have : ¬ other = key := fun h' => h (ho.trans h')
        simp [ho, this]
      · have h1 : (e.1 == key) = false := by simpa using h
        have h2 : (e.1 == other) = false := by simpa using ho
        simp only [h1, Bool.false_eq_true, if_false, List.find?_cons, h2]
        exact ih

/-- A name that was given a value has it, and every other name keeps its own. -/
theorem get?_set (v : Values) (key other : String) (n : Option Num) :
    (v.set key n).get? other = if other = key then some n else v.get? other := by
  unfold set
  split
  · rename_i h
    have := find?_replaceEntry key other n v.entries
    simp only [get?] at *
    rw [this]
    split
    · obtain ⟨e, he⟩ := Option.isSome_iff_exists.1 h
      obtain ⟨e', he', -⟩ := Option.map_eq_some_iff.1 he
      simp [he']
    · rfl
  · rename_i h
    have hn : v.entries.find? (·.1 == key) = none := by
      cases hf : v.entries.find? (·.1 == key) with
      | none => rfl
      | some e => exact absurd (by simp [get?, hf]) h
    simp only [get?, List.find?_append]
    by_cases ho : other = key
    · subst ho; simp [hn]
    · have hk : (key == other) = false := by simpa using fun h => ho h.symm
      simp [ho, hk]

@[simp] theorem number?_set (v : Values) (key other : String) (n : Option Num) :
    (v.set key n).number? other = if other = key then n else v.number? other := by
  unfold number?
  rw [get?_set]
  split <;> rfl

@[simp] theorem number?_setPoint_x (v : Values) (x y : Num) :
    (v.setPoint x y).number? "x" = some x := by simp [setPoint]

@[simp] theorem number?_setPoint_y (v : Values) (x y : Num) :
    (v.setPoint x y).number? "y" = some y := by simp [setPoint]

end Values

end Straightedge
