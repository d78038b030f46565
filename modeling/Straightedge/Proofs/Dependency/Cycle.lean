import Straightedge.Proofs.Dependency.Order

/-!
# What a reported cycle names

A schedule that cannot be carried on leaves some vertices waiting: those that are
never placed, and so those from which a cycle can be reached. A vertex on a cycle
is among them, and so is everything that depends on it directly or over others.
The report of a scene without an order lists their ids, one for each entity, in
ascending order.
-/

namespace Straightedge

namespace Graph

variable {g : Graph} {i : Nat}

/-- A vertex is settled exactly when it has been placed: no more can become ready. -/
theorem unplaced_schedule_eq_zero_iff (inside : i < g.size) :
    g.unplaced g.schedule.placed i = 0 ↔ i ∈ g.schedule.placed := by
  have sound := sound_schedule g
  rw [unplaced_eq_zero_iff]
  constructor
  · intro settled
    by_contra unplaced
    have isReady := (sound.ready i).mpr ⟨inside, unplaced, settled⟩
    rw [ready_schedule] at isReady
    exact List.not_mem_nil isReady
  · intro placed
    exact sound.first.subset placed

/-- The vertices left waiting are those from which a cycle can be reached. -/
theorem mem_stuck_iff (closed : g.Closed) : i ∈ g.stuck ↔ i < g.size ∧ g.ReachesCycle i := by
  rw [stuck, List.mem_filter, List.mem_range]
  apply and_congr_right
  intro inside
  calc (g.schedule.waiting.getD i 0 != 0) = true
      ↔ ¬g.unplaced g.schedule.placed i = 0 := by rw [bne_iff_ne, (sound_schedule g).waiting]
    _ ↔ i ∉ g.schedule.placed := not_congr (unplaced_schedule_eq_zero_iff inside)
    _ ↔ g.ReachesCycle i := by simp [mem_placed_schedule_iff closed, inside]

theorem pairwise_stuck (g : Graph) : g.stuck.Pairwise (· < ·) := List.pairwise_lt_range.filter _

end Graph

namespace Scene

variable {s : Scene} {f : Fault}

/-- The id of the entity at a position. -/
def idAt? (s : Scene) (i : Nat) : Option String := s.entities[i]?.map Entity.id

theorem pairwise_mergeSort_ids (ids : List String) :
    (ids.mergeSort fun a b => decide (a ≤ b)).Pairwise (· ≤ ·) := by
  have transitive : ∀ a b c : String, decide (a ≤ b) = true → decide (b ≤ c) = true →
      decide (a ≤ c) = true := by
    simp only [decide_eq_true_eq]
    exact fun a b c => String.le_trans
  have total : ∀ a b : String, (decide (a ≤ b) || decide (b ≤ a)) = true := by
    simp only [Bool.or_eq_true, decide_eq_true_eq]
    exact String.le_total
  simpa using List.pairwise_mergeSort transitive total ids

theorem dependencyOrder_eq_error_iff :
    s.dependencyOrder = .error f ↔ s.dependencyGraph.order? = none ∧
      f = .cycle ((s.dependencyGraph.stuck.filterMap s.idAt?).mergeSort
        fun a b => decide (a ≤ b)) := by
  simp only [dependencyOrder]
  split
  · rename_i sorted
    simp [sorted]
  · rename_i stuck
    simp only [stuck, true_and, Except.error.injEq, eq_comm]
    rfl

/-- Ids in ascending order, one for each entity from which a cycle can be reached along
dependencies, and for no other. -/
structure ListsCyclic (s : Scene) (ids : List String) : Prop where
  ascending : ids.Pairwise (· ≤ ·)
  each : ∃ positions : List Nat, positions.Pairwise (· < ·) ∧
    (∀ i, i ∈ positions ↔ i < s.size ∧ s.dependencyGraph.ReachesCycle i) ∧
    ids.Perm (positions.filterMap s.idAt?)

/-- When a scene has no order, the message names the entities from which a cycle can be reached,
each of them and no other: those on a cycle and all that depend on them, directly or over others.
An id that several of them share is named as often. -/
theorem dependencyOrder_cycle_message (failed : s.dependencyOrder = .error f) :
    ∃ ids, f.message = "reference cycle between " ++ ", ".intercalate ids ∧
      s.ListsCyclic ids := by
  obtain ⟨-, rfl⟩ := dependencyOrder_eq_error_iff.mp failed
  refine ⟨_, rfl, pairwise_mergeSort_ids _, s.dependencyGraph.stuck, Graph.pairwise_stuck _, ?_,
    List.mergeSort_perm _ _⟩
  intro i
  rw [Graph.mem_stuck_iff (closed_dependencyGraph s), size_dependencyGraph]

/-- Two midpoints that refer to each other, a segment on one of them, and a point apart. -/
theorem dependencyOrder_cycle_message_midpoints :
    let s : Scene := ⟨[{ id := "S", shape := .segment "A" "N" },
      { id := "N", shape := .midpoint "M" "A" }, { id := "M", shape := .midpoint "N" "A" },
      { id := "A", shape := .point }]⟩
    s.dependencyOrder = .error (.cycle ["M", "N", "S"]) ∧
    ∃ ids, (Fault.cycle ["M", "N", "S"]).message =
      "reference cycle between " ++ ", ".intercalate ids ∧ s.ListsCyclic ids := by
  intro s
  have failed : s.dependencyOrder = .error (.cycle ["M", "N", "S"]) := by
    have stuck : s.dependencyGraph.stuck.filterMap s.idAt? = ["S", "N", "M"] := by decide +kernel
    rw [dependencyOrder_eq_error_iff, stuck]
    exact ⟨by decide +kernel, by simp [List.mergeSort]⟩
  exact ⟨failed, dependencyOrder_cycle_message failed⟩

end Scene

end Straightedge
