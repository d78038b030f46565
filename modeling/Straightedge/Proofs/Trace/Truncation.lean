import Straightedge.Proofs.Trace.BoundedForm
import Straightedge.Proofs.Trace.Dropped

/-!
# How long a trace can be

What a trace shows of a text, a number, a constant or a table is cut off at a
fixed length. Lists and tuples, arrays, entities and scenes are not: each list
puts its brackets around the texts of its first items however deep it stands, and
an id is written in full. So traces of some values have a common bound exactly if
there is one for how deep lists are shown and for the parts that nothing cuts.
-/

namespace Straightedge

namespace Value

/-- The items of a list or a tuple. -/
def items? : Value → Option (List Value)
  | list items | tuple items => some items
  | _ => none

theorem eq_of_items? {v : Value} {items : List Value} (h : items? v = some items) :
    v = list items ∨ v = tuple items := by
  cases v with
  | list => exact .inl (congrArg list (Option.some.inj h))
  | tuple => exact .inr (congrArg tuple (Option.some.inj h))
  | text | number | truth | nothing | table | array | entity | scene | other => cases h

/-- Whether a value is neither a list or a tuple nor an array, an entity or a scene. -/
def isPlain : Value → Bool
  | text _ | number _ | truth _ | nothing | table _ | other _ => true
  | list _ | tuple _ | array _ | entity _ | scene _ => false

end Value

namespace Abbreviation

open Value (items? isPlain)

variable {v : Value} {items : List Value}

/-- A trace of the first value shows the second one; the depth tells in how many lists and tuples it
stands. Of these only the first items are shown. -/
inductive ShownAt : Nat → Value → Value → Prop where
  | self (v : Value) : ShownAt 0 v v
  | item {depth : Nat} {v w u : Value} {items : List Value} (collection : items? v = some items)
      (first : w ∈ items.take 5) (shown : ShownAt depth w u) : ShownAt (depth + 1) v u

/-- What a trace shows of a value in full, its items apart: the id of an entity, the shape of an
array that is not small, the size of a scene, and the number of items if not all are shown. -/
def uncut : Value → String
  | .entity e => Text.quote e.id
  | .array grid => if grid.size ≤ 5 then "" else Value.tupleText (grid.shape.map toString)
  | .scene s => toString s.size
  | .list items | .tuple items => if 5 < items.length then toString items.length else ""
  | _ => ""

/-! ## Texts of values -/

theorem ofValue_of_isPlain (plain : isPlain v = true) :
    ofValue {} v = truncate {} (short v) := by
  cases v with
  | text | number | truth | nothing | table | other => rfl
  | list | tuple | array | entity | scene => cases plain

theorem length_truncate_le (s : String) : (truncate {} s).length ≤ 415 := by
  rw [truncate]
  split
  · have kept : (takeLimit ({} : Limits).length s.toList).length ≤ 400 := by
      rw [takeLimit, if_pos (by decide), List.length_take]
      exact Nat.min_le_left _ _
    have mark : "... (truncated)".length = 15 := rfl
    rw [String.length_append, String.length_ofList]
    omega
  · rename_i fits
    have : (s.length : Int) ≤ 400 := Int.not_lt.mp fits
    omega

theorem ofArray_eq (grid : Grid) :
    ofArray {} grid =
      if grid.size ≤ 5 then "ndarray(" ++ short (.ofGrid grid) ++ ")"
      else "ndarray(shape=" ++ Value.tupleText (grid.shape.map toString) ++ ", dtype=float64)" := by
  have limit : (grid.size : Int) ≤ ({} : Limits).items ↔ grid.size ≤ 5 := by
    change (grid.size : Int) ≤ 5 ↔ grid.size ≤ 5
    omega
  simp only [ofArray, limit]

/-- What tells how many items there are, if not all are shown. -/
def notShown (count : Nat) : List String :=
  if 5 < count then ["... (" ++ toString count ++ " items)"] else []

theorem ofItems_eq (count : Nat) (shown : List String) :
    ofItems {} count shown = "[" ++ Value.commas (shown ++ notShown count) ++ "]" := by
  have limit : ({} : Limits).items < (count : Int) ↔ 5 < count := by
    change (5 : Int) < count ↔ 5 < count
    omega
  simp only [ofItems, notShown, limit]
  rfl

theorem ofValues_eq (items : List Value) : ofValues items = items.map (ofValue {}) := by
  induction items with
  | nil => rfl
  | cons v items ih => rw [ofValues, ih, List.map_cons]

/-- A list or a tuple is shown by the texts of its first items. -/
theorem ofValue_of_items (collection : items? v = some items) :
    ofValue {} v =
      "[" ++ Value.commas ((items.take 5).map (ofValue {}) ++ notShown items.length) ++ "]" := by
  have taken : takeLimit ({} : Limits).items (ofValues items) =
      (items.take 5).map (ofValue {}) := by
    rw [ofValues_eq, List.map_take]
    rfl
  rw [← ofItems_eq]
  obtain rfl | rfl := Value.eq_of_items? collection
  · rw [ofValue, taken]
  · rw [ofValue, taken]

theorem uncut_of_items (collection : items? v = some items) :
    uncut v = if 5 < items.length then toString items.length else "" := by
  obtain rfl | rfl := Value.eq_of_items? collection
  · rfl
  · rfl

/-! ## Every part counts -/

theorem length_of_items (collection : items? v = some items) :
    (ofValue {} v).length =
      (Value.commas ((items.take 5).map (ofValue {}) ++ notShown items.length)).length + 2 := by
  have left : "[".length = 1 := rfl
  have right : "]".length = 1 := rfl
  rw [ofValue_of_items collection, String.length_append, String.length_append]
  omega

/-- The text of a value holds all that is shown in full. -/
theorem length_uncut_le (v : Value) : (uncut v).length ≤ (ofValue {} v).length := by
  cases collection : items? v with
  | some items =>
      rw [uncut_of_items collection, length_of_items collection]
      split
      · rename_i many
        have counted : "... (" ++ toString items.length ++ " items)" ∈
            (items.take 5).map (ofValue {}) ++ notShown items.length := by
          rw [notShown, if_pos many]
          exact List.mem_append_right _ (List.mem_singleton_self _)
        have inside := Value.length_le_length_commas counted
        simp only [String.length_append] at inside
        omega
      · exact Nat.zero_le _
  | none =>
      cases v with
      | list | tuple => cases collection
      | entity e =>
          rw [uncut, ofValue, ofEntity]
          simp only [String.length_append]
          omega
      | array grid =>
          rw [uncut, ofValue, ofArray_eq]
          split
          · exact Nat.zero_le _
          · simp only [String.length_append]
            omega
      | scene s =>
          obtain ⟨summary, -, described⟩ := exists_summary s
          rw [uncut, ofValue, described]
          simp only [String.length_append]
          omega
      | text | number | truth | nothing | table | other => exact Nat.zero_le _

/-- What stands deeper in a value stands in more brackets. -/
theorem ShownAt.length_le {depth : Nat} {u : Value} (shown : ShownAt depth v u) :
    depth + (ofValue {} u).length ≤ (ofValue {} v).length := by
  induction shown with
  | self v => omega
  | @item depth v w u items collection first shown ih =>
      have among : ofValue {} w ∈ (items.take 5).map (ofValue {}) ++ notShown items.length :=
        List.mem_append_left _ (List.mem_map_of_mem first)
      have inside := Value.length_le_length_commas among
      rw [length_of_items collection]
      omega

/-! ## Nothing else counts -/

theorem length_toString_mono {m n : Nat} (h : m ≤ n) :
    (toString m).length ≤ (toString n).length := by
  have digits : ∀ k : Nat, (toString k).length = (Nat.toDigits 10 k).length := by
    intro k
    rw [Nat.toString_eq_ofList_toDigits, String.length_ofList]
  have positive : 0 < (Nat.toDigits 10 n).length := Nat.length_toDigits_pos
  rw [digits, digits, Nat.length_toDigits_le_iff (by decide) positive]
  exact Nat.lt_of_le_of_lt h
    ((Nat.length_toDigits_le_iff (by decide) positive).mp (Nat.le_refl _))

/-- A summary names every kind once at most, with a number that is no longer than that of all
entities. -/
theorem length_ofScene_le (s : Scene) :
    (ofScene s).length ≤ 200 + 11 * (toString s.size).length := by
  obtain ⟨summary, ⟨kinds, nodup, -, rfl⟩, described⟩ := exists_summary s
  have few : kinds.length ≤ 10 :=
    (List.subperm_of_subset nodup fun k _ => k.mem_all).length_le
  have each : ∀ t ∈ kinds.map fun k => k.name ++ "=" ++ toString (s.ofKind k).length,
      t.length ≤ 14 + (toString s.size).length := by
    intro t member
    obtain ⟨k, -, rfl⟩ := List.mem_map.mp member
    have name : k.name.length ≤ 13 := by cases k <;> decide
    have equals : "=".length = 1 := rfl
    have number : (toString (s.ofKind k).length).length ≤ (toString s.size).length :=
      length_toString_mono (List.length_filter_le _ _)
    simp only [String.length_append]
    omega
  have counts := Value.length_commas_le each
  have scaled := Nat.mul_le_mul_right (14 + (toString s.size).length + 2) few
  have opening : "Scene(".length = 6 := rfl
  have middle : " entities: ".length = 11 := rfl
  have closing : ")".length = 1 := rfl
  have empty : "empty".length = 5 := rfl
  rw [List.length_map] at counts
  rw [described]
  simp only [String.length_append]
  split
  all_goals omega

/-- The most characters of a value without items, besides what is shown in full. -/
def longestLeaf : Nat := longest maxLevel + 500

theorem length_leaf_le (leaf : items? v = none) :
    (ofValue {} v).length ≤ longestLeaf + 11 * (uncut v).length := by
  have room : longestLeaf = longest maxLevel + 500 := rfl
  have closing : ")".length = 1 := rfl
  cases v with
  | list | tuple => cases leaf
  | scene s =>
      have summary := length_ofScene_le s
      rw [uncut, ofValue]
      omega
  | entity e =>
      have values := length_bounded_le maxLevel (.ofValues e.values)
      have name : (Value.typeName e.kind).length ≤ 13 := by cases e.kind <;> decide
      have opening : "(".length = 1 := rfl
      have middle : ", values=".length = 9 := rfl
      rw [uncut, ofValue, ofEntity, short]
      simp only [String.length_append]
      omega
  | array grid =>
      have cells := length_bounded_le maxLevel (.ofGrid grid)
      have opening : "ndarray(".length = 8 := rfl
      have openingShape : "ndarray(shape=".length = 14 := rfl
      have closingShape : ", dtype=float64)".length = 16 := rfl
      rw [uncut, ofValue, ofArray_eq, short]
      split
      all_goals
        simp only [String.length_append]
        omega
  | text | number | truth | nothing | table | other =>
      rw [ofValue_of_isPlain rfl]
      exact Nat.le_trans (length_truncate_le _) (by omega)

/-- A list shows five items at most, and how many there are. -/
theorem length_collection_le {bound : Nat} (collection : items? v = some items)
    (each : ∀ w ∈ items.take 5, (ofValue {} w).length ≤ bound)
    (counted : (uncut v).length + 12 ≤ bound) : (ofValue {} v).length ≤ 6 * bound + 14 := by
  have all : ∀ t ∈ (items.take 5).map (ofValue {}) ++ notShown items.length,
      t.length ≤ bound := by
    intro t member
    obtain shown | last := List.mem_append.mp member
    · obtain ⟨w, first, rfl⟩ := List.mem_map.mp shown
      exact each w first
    · rw [notShown] at last
      split at last
      · rename_i many
        obtain rfl := List.mem_singleton.mp last
        have opening : "... (".length = 5 := rfl
        have closing : " items)".length = 7 := rfl
        rw [uncut_of_items collection, if_pos many] at counted
        simp only [String.length_append]
        omega
      · cases last
  have one : (notShown items.length).length ≤ 1 := by
    rw [notShown]
    split
    · exact Nat.le_refl _
    · exact Nat.zero_le _
  have six : ((items.take 5).map (ofValue {}) ++ notShown items.length).length ≤ 6 := by
    rw [List.length_append, List.length_map, List.length_take]
    omega
  have inner := Nat.le_trans (Value.length_commas_le all) (Nat.mul_le_mul_right (bound + 2) six)
  rw [length_of_items collection]
  omega

/-- The text of a value is bounded by how deep lists are shown in it and by how long the parts are
that are shown in full. The induction is on the depth, which is one less for the items of a list. -/
theorem length_ofValue_le {depth width : Nat}
    (within : ∀ d u, ShownAt d v u → d ≤ depth ∧ (uncut u).length ≤ width) :
    (ofValue {} v).length ≤ 8 ^ depth * (longestLeaf + 11 * width) := by
  have base : 500 ≤ longestLeaf := Nat.le_add_left _ _
  have room : ∀ depth, longestLeaf + 11 * width ≤ 8 ^ depth * (longestLeaf + 11 * width) :=
    fun depth => Nat.le_mul_of_pos_left _ (Nat.pow_pos (by decide))
  have leaf : ∀ v depth, items? v = none → (uncut v).length ≤ width →
      (ofValue {} v).length ≤ 8 ^ depth * (longestLeaf + 11 * width) := by
    intro v depth leaf part
    calc (ofValue {} v).length ≤ longestLeaf + 11 * (uncut v).length := length_leaf_le leaf
      _ ≤ longestLeaf + 11 * width := Nat.add_le_add_left (Nat.mul_le_mul_left 11 part) _
      _ ≤ 8 ^ depth * (longestLeaf + 11 * width) := room depth
  induction depth generalizing v with
  | zero =>
      cases collection : items? v with
      | none => exact leaf v 0 collection (within 0 v (.self v)).2
      | some items =>
          cases items with
          | nil =>
              have empty : ofValue {} v = "[]" := ofValue_of_items collection
              have two : "[]".length = 2 := rfl
              rw [empty]
              omega
          | cons w items =>
              have deeper := within 1 w (.item collection List.mem_cons_self (.self w))
              exact absurd deeper.1 (Nat.not_succ_le_zero 0)
  | succ depth ih =>
      have part := (within 0 v (.self v)).2
      cases collection : items? v with
      | none => exact leaf v (depth + 1) collection part
      | some items =>
          have each : ∀ w ∈ items.take 5,
              (ofValue {} w).length ≤ 8 ^ depth * (longestLeaf + 11 * width) := by
            intro w first
            apply ih
            intro d u shown
            obtain ⟨deep, part⟩ := within (d + 1) u (.item collection first shown)
            exact ⟨Nat.le_of_succ_le_succ deep, part⟩
          have enough := room depth
          have whole := length_collection_le collection each (by omega)
          rw [Nat.pow_succ, Nat.mul_right_comm]
          omega

/-- The traces of some values have a common bound exactly if there is one for the depth at which
anything is shown in them and for the length of the parts that are shown in full. Of texts, numbers,
constants, tables and what describes itself all have one: traces of these have at most 415
characters. -/
theorem length_ofValue_bounded_iff (family : Value → Prop) :
    ((∃ bound, ∀ v, family v → (ofValue {} v).length ≤ bound) ↔
      ∃ bound, ∀ v, family v → ∀ depth u, ShownAt depth v u →
        depth ≤ bound ∧ (uncut u).length ≤ bound) ∧
    ((∀ v, family v → isPlain v = true) → ∀ v, family v → (ofValue {} v).length ≤ 415) := by
  refine ⟨⟨?_, ?_⟩, ?_⟩
  · rintro ⟨bound, bounded⟩
    refine ⟨bound, ?_⟩
    intro v member depth u shown
    have whole := bounded v member
    have inside := shown.length_le
    have part := length_uncut_le u
    omega
  · rintro ⟨bound, within⟩
    refine ⟨8 ^ bound * (longestLeaf + 11 * bound), ?_⟩
    intro v member
    exact length_ofValue_le (within v member)
  · intro plain v member
    rw [ofValue_of_isPlain (plain v member)]
    exact length_truncate_le (short v)

/-- An empty list in as many lists. -/
def nested : Nat → Value
  | 0 => .list []
  | depth + 1 => .list [nested depth]

theorem shownAt_nested (depth : Nat) : ShownAt depth (nested depth) (nested 0) := by
  induction depth with
  | zero => exact .self _
  | succ depth ih => exact .item rfl List.mem_cons_self ih

/-- A point under an id of so many letters. -/
def longNamed (length : Nat) : Entity where
  id := String.ofList (List.replicate length 'a')
  shape := .point

/-- Traces of all values have no common bound: an entity is shown by an id of any length, and lists
are shown at any depth. -/
theorem length_ofValue_unbounded :
    (¬∃ bound, ∀ v, (ofValue {} v).length ≤ bound) ∧
      (∀ bound, bound < (ofValue {} (.entity (longNamed bound))).length) ∧
      ∀ bound, bound < (ofValue {} (nested bound)).length := by
  have entities : ∀ bound, bound < (ofValue {} (.entity (longNamed bound))).length := by
    intro bound
    have part := length_uncut_le (.entity (longNamed bound))
    have quoted := Text.length_le_length_quoteChars (longNamed bound).id.toList
    have letters : (longNamed bound).id.toList.length = bound := by simp [longNamed]
    rw [uncut, Text.quote, String.length_ofList] at part
    omega
  refine ⟨?_, entities, ?_⟩
  · rintro ⟨bound, bounded⟩
    exact absurd (bounded _) (Nat.not_le_of_lt (entities bound))
  · intro bound
    have inside := (shownAt_nested bound).length_le
    have brackets : (ofValue {} (nested 0)).length = 2 := rfl
    omega

end Abbreviation

end Straightedge
