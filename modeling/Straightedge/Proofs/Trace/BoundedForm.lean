import Mathlib.Data.List.Basic
import Straightedge.Trace.Abbreviation

/-!
# Lengths of bounded forms

Texts, numbers and descriptions lose their middle beyond a fixed length, and a
collection shows few items on few levels. So the bounded form of a value has a
length that depends on the levels left only, however large the value is.
-/

namespace Straightedge

namespace Value

variable {texts : List String}

/-- Texts with commas between are at most as long as all of them with two characters after each. -/
theorem length_commas_le {bound : Nat} (each : ∀ t ∈ texts, t.length ≤ bound) :
    (commas texts).length ≤ texts.length * (bound + 2) := by
  induction texts with
  | nil => exact Nat.zero_le _
  | cons t texts ih =>
      obtain ⟨here, others⟩ := List.forall_mem_cons.mp each
      cases texts with
      | nil =>
          rw [commas, String.intercalate_singleton, List.length_singleton]
          omega
      | cons next texts =>
          have rest := ih others
          have comma : ", ".length = 2 := rfl
          rw [commas] at rest ⊢
          rw [String.intercalate_cons_cons, String.length_append, String.length_append,
            List.length_cons, Nat.succ_mul]
          omega

theorem length_le_length_commas {t : String} (member : t ∈ texts) :
    t.length ≤ (commas texts).length := by
  induction texts with
  | nil => cases member
  | cons first texts ih =>
      cases texts with
      | nil =>
          obtain rfl := List.mem_singleton.mp member
          exact Nat.le_of_eq (by rw [commas, String.intercalate_singleton])
      | cons next texts =>
          rw [commas, String.intercalate_cons_cons, String.length_append, String.length_append]
          obtain rfl | later := List.mem_cons.mp member
          · omega
          · have := ih later
            rw [commas] at this
            omega

end Value

namespace Abbreviation

theorem length_cut_le {limit : Nat} (room : 3 ≤ limit) (cs : List Char) :
    (cut limit cs).length ≤ limit := by
  have half : front limit ≤ limit - 3 := Nat.div_le_self _ _
  have middle : dots.length = 3 := rfl
  simp only [cut, back, List.length_append, List.length_take, List.length_drop, middle]
  omega

theorem length_shorten_le {limit : Nat} (room : 3 ≤ limit) (cs : List Char) :
    (shorten limit cs).length ≤ limit := by
  rw [shorten]
  split
  · exact length_cut_le room cs
  · rename_i fits
    exact Nat.not_lt.mp fits

theorem length_ofText_le (s : String) : (ofText s).length ≤ maxText := by
  rw [ofText, String.length_ofList]
  split
  · assumption
  · exact length_cut_le (by decide) _

theorem length_ofDescription_le (s : String) : (ofDescription s).length ≤ maxOther := by
  rw [ofDescription, String.length_ofList]
  exact length_shorten_le (by decide) _

theorem length_ofNum_le (n : Num) : (ofNum n).length ≤ maxOther := by
  cases n with
  | int i =>
      have short : maxInteger ≤ maxOther := by decide
      rw [ofNum, String.length_ofList]
      exact Nat.le_trans (length_shorten_le (by decide) _) short
  | real x => exact length_ofDescription_le _

/-! ## Collections -/

theorem boundedAll_eq (level : Nat) (items : List Value) :
    boundedAll level items = items.map (bounded level) := by
  induction items with
  | nil => rfl
  | cons v items ih => rw [boundedAll, ih, List.map_cons]

theorem boundedRows_eq (level : Nat) (rows : List (String × Value)) :
    boundedRows level rows =
      rows.map fun (key, v) => (key, ofText key ++ ": " ++ bounded level v) := by
  induction rows with
  | nil => rfl
  | cons row rows ih => rw [boundedRows, ih, List.map_cons]

/-- A collection shows `limit` items at most, and dots; on the last level it shows none of them. -/
theorem length_bracket_le {left right : String} {limit level bound : Nat} {texts : List String}
    (room : 3 ≤ bound) (each : level ≠ 0 → ∀ t ∈ texts, t.length ≤ bound) :
    (bracket left right limit level texts).length ≤
      left.length + right.length + (limit + 1) * (bound + 2) := by
  have one : bound + 2 ≤ (limit + 1) * (bound + 2) := Nat.le_mul_of_pos_left _ (Nat.succ_pos limit)
  have three : "...".length = 3 := rfl
  rw [bracket]
  split
  · rw [String.length_append]
    omega
  split
  · rw [String.length_append, String.length_append, three]
    omega
  · rename_i deep
    have all : ∀ t ∈ firstOf limit texts, t.length ≤ bound := by
      intro t member
      rw [firstOf] at member
      split at member
      · obtain shown | dots := List.mem_append.mp member
        · exact each deep t (List.mem_of_mem_take shown)
        · obtain rfl := List.mem_singleton.mp dots
          exact room
      · exact each deep t member
    have few : (firstOf limit texts).length ≤ limit + 1 := by
      rw [firstOf]
      split
      · rw [List.length_append, List.length_take, List.length_singleton]
        omega
      · omega
    have inner := Nat.le_trans (Value.length_commas_le all) (Nat.mul_le_mul_right (bound + 2) few)
    rw [String.length_append, String.length_append]
    omega

/-- No bounded form with so many levels left is longer. -/
def longest : Nat → Nat
  | 0 => 200
  | level + 1 => 16 * longest level

theorem le_longest (level : Nat) : 200 ≤ longest level := by
  induction level with
  | zero => exact Nat.le_refl _
  | succ level ih =>
      rw [longest]
      omega

/-- A collection is short enough for its level if its items are for theirs; a row of a table may be
longer by its key. -/
theorem length_bracket_le_longest {left right : String} {limit level : Nat} {texts : List String}
    (ends : left.length + right.length ≤ 3) (few : limit ≤ maxItems)
    (each : level ≠ 0 → ∀ t ∈ texts, t.length ≤ longest (level - 1) + (maxText + 2)) :
    (bracket left right limit level texts).length ≤ longest level := by
  have scaled : ∀ bound, (limit + 1) * (bound + 2) ≤ (maxItems + 1) * (bound + 2) :=
    fun bound => Nat.mul_le_mul_right (bound + 2) (Nat.succ_le_succ few)
  cases level with
  | zero =>
      have base := le_longest 0
      have items := scaled 3
      have whole : (bracket left right limit 0 texts).length ≤ _ :=
        length_bracket_le (Nat.le_refl 3) fun deep => absurd rfl deep
      simp only [maxItems] at items
      omega
  | succ level =>
      rw [Nat.add_sub_cancel] at each
      have base := le_longest level
      have items := scaled (longest level + (maxText + 2))
      have whole : (bracket left right limit (level + 1) texts).length ≤ _ :=
        length_bracket_le (by omega) each
      rw [longest]
      simp only [maxItems, maxText] at items whole
      omega

/-- The length of a bounded form depends on the levels left only. The induction is on these; the
items of a collection have one level less. -/
theorem length_bounded_le (level : Nat) (v : Value) : (bounded level v).length ≤ longest level := by
  induction level using Nat.strongRecOn generalizing v with
  | ind level ih =>
  have base := le_longest level
  have text : maxText ≤ 200 := by decide
  have other : maxOther ≤ 200 := by decide
  have item : level ≠ 0 → ∀ w, (bounded (level - 1) w).length ≤ longest (level - 1) :=
    fun deep w => ih (level - 1) (by omega) w
  have items : level ≠ 0 → ∀ ws, ∀ t ∈ boundedAll (level - 1) ws,
      t.length ≤ longest (level - 1) + (maxText + 2) := by
    intro deep ws t member
    rw [boundedAll_eq] at member
    obtain ⟨w, -, rfl⟩ := List.mem_map.mp member
    exact Nat.le_trans (item deep w) (Nat.le_add_right _ _)
  cases v with
  | text s => exact Nat.le_trans (length_ofText_le s) (by omega)
  | number n => exact Nat.le_trans (length_ofNum_le n) (by omega)
  | list ws => exact length_bracket_le_longest (by decide) (by decide) fun deep => items deep ws
  | tuple ws =>
      refine length_bracket_le_longest ?_ (by decide) fun deep => items deep ws
      split <;> decide
  | table rows =>
      refine length_bracket_le_longest (by decide) (by decide) ?_
      intro deep t member
      obtain ⟨row, inside, rfl⟩ := List.mem_map.mp member
      rw [List.mem_mergeSort, boundedRows_eq] at inside
      obtain ⟨⟨key, w⟩, -, rfl⟩ := List.mem_map.mp inside
      have keyed := length_ofText_le key
      have shown := item deep w
      have colon : ": ".length = 2 := rfl
      simp only [String.length_append]
      omega
  | truth | nothing | array | entity | scene | other =>
      exact Nat.le_trans (length_ofDescription_le _) (by omega)

end Abbreviation

end Straightedge
