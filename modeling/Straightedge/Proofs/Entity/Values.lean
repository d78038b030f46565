import Straightedge.Entity.Basic

/-!
# Values given more than once

A name keeps its place however often it is given a value, and of several values
the latest counts. So a point that is placed twice is where it was placed last.
-/

namespace Straightedge

namespace Values

variable {key other : String}

theorem replaceEntry_replaceEntry (n m : Option Num) (es : List (String × Option Num)) :
    replaceEntry key m (replaceEntry key n es) = replaceEntry key m es := by
  induction es with
  | nil => rfl
  | cons e es ih =>
      by_cases here : e.1 = key
      · simp [replaceEntry, here]
      · simp [replaceEntry, here, ih]

theorem replaceEntry_comm (different : key ≠ other) (n m : Option Num)
    (es : List (String × Option Num)) :
    replaceEntry key n (replaceEntry other m es) =
      replaceEntry other m (replaceEntry key n es) := by
  induction es with
  | nil => rfl
  | cons e es ih =>
      by_cases here : e.1 = key
      · simp [replaceEntry, here, different]
      · by_cases there : e.1 = other
        · simp [replaceEntry, there, different.symm]
        · simp [replaceEntry, here, there, ih]

/-- A name that is there is found before the end. -/
theorem replaceEntry_append {es : List (String × Option Num)}
    (present : (get? ⟨es⟩ key).isSome) (n : Option Num) (last : String × Option Num) :
    replaceEntry key n (es ++ [last]) = replaceEntry key n es ++ [last] := by
  induction es with
  | nil => cases present
  | cons e es ih =>
      by_cases here : e.1 = key
      · simp [replaceEntry, here]
      · have later : (get? ⟨es⟩ key).isSome := by simpa [get?, here] using present
        simp [replaceEntry, here, ih later]

/-- A name that is not there is given a place at the end. -/
theorem replaceEntry_append_self {es : List (String × Option Num)}
    (absent : get? ⟨es⟩ key = none) (n m : Option Num) :
    replaceEntry key m (es ++ [(key, n)]) = es ++ [(key, m)] := by
  induction es with
  | nil => simp [replaceEntry]
  | cons e es ih =>
      by_cases here : e.1 = key
      · simp [get?, here] at absent
      · have later : get? ⟨es⟩ key = none := by simpa [get?, here] using absent
        simp [replaceEntry, here, ih later]

theorem set_of_present {v : Values} (present : (v.get? key).isSome) (n : Option Num) :
    v.set key n = ⟨replaceEntry key n v.entries⟩ :=
  if_pos present

theorem set_of_absent {v : Values} (absent : v.get? key = none) (n : Option Num) :
    v.set key n = ⟨v.entries ++ [(key, n)]⟩ := by
  simp [set, absent]

theorem get?_set_self_isSome (v : Values) (key : String) (n : Option Num) :
    ((v.set key n).get? key).isSome := by
  simp [get?_set]

/-- Of two values for one name the later one counts. -/
theorem set_set (v : Values) (key : String) (n m : Option Num) :
    (v.set key n).set key m = v.set key m := by
  rw [set_of_present (get?_set_self_isSome v key n)]
  cases there : v.get? key with
  | none => simp only [set_of_absent there, replaceEntry_append_self there]
  | some old =>
      have present : (v.get? key).isSome := by rw [there]; rfl
      simp only [set_of_present present, replaceEntry_replaceEntry]

/-- A name that is there can be given its value before or after another. -/
theorem set_comm {v : Values} (present : (v.get? key).isSome) (different : key ≠ other)
    (n m : Option Num) : (v.set other m).set key n = (v.set key n).set other m := by
  have kept : ((v.set other m).get? key).isSome := by simpa [get?_set, different] using present
  have unchanged : (v.set key n).get? other = v.get? other := by simp [get?_set, different.symm]
  rw [set_of_present kept]
  cases there : v.get? other with
  | none =>
      rw [set_of_absent there, set_of_absent (unchanged.trans there), set_of_present present,
        replaceEntry_append present]
  | some old =>
      have present' : (v.get? other).isSome := by rw [there]; rfl
      rw [set_of_present present', set_of_present (unchanged ▸ present'), set_of_present present,
        replaceEntry_comm different]

/-- Of two placements the later one counts. -/
theorem setPoint_setPoint (v : Values) (a b x y : Num) :
    (v.setPoint a b).setPoint x y = v.setPoint x y := by
  have present : ((v.set "x" (some a)).get? "x").isSome := get?_set_self_isSome v "x" (some a)
  calc
    (v.setPoint a b).setPoint x y
      = (((v.set "x" (some a)).set "y" (some b)).set "x" (some x)).set "y" (some y) := rfl
    _ = (((v.set "x" (some a)).set "x" (some x)).set "y" (some b)).set "y" (some y) := by
        rw [set_comm present (by decide)]
    _ = v.setPoint x y := by rw [set_set, set_set, setPoint]

end Values

namespace Entity

/-- The entity with other coordinates. -/
def placed (x y : Num) (e : Entity) : Entity := { e with values := e.values.setPoint x y }

@[simp] theorem kind_placed (x y : Num) (e : Entity) : (e.placed x y).kind = e.kind := rfl

theorem placed_placed (a b x y : Num) (e : Entity) :
    (e.placed a b).placed x y = e.placed x y := by
  simp only [placed, Values.setPoint_setPoint]

end Entity

end Straightedge
