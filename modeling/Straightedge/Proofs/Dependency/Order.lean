import Mathlib.Data.Fintype.EquivFin
import Mathlib.Logic.Relation
import Straightedge.Proofs.Dependency.References

/-!
# Orders and cycles

Vertices that are never placed are kept back by one another, so a cycle can be
reached from each of them along dependencies, and from no vertex that is placed.
A graph therefore has an order exactly when it has no cycle. As the least ready
vertex is always placed next, the order is the first in the lexicographic sense of
all orders that put dependencies first.
-/

namespace Straightedge

namespace Graph

variable {g : Graph} {order : List Nat}

/-- One vertex depends on another. -/
def DependsOn (g : Graph) (i j : Nat) : Prop := j ∈ g.dependenciesOf i

theorem DependsOn.lt_size {i j : Nat} (depends : g.DependsOn i j) : i < g.size :=
  (mem_dependents_iff.mp (mem_dependents.mpr depends)).1

/-- No vertex depends on itself, directly or over others. -/
def Acyclic (g : Graph) : Prop := ∀ i, ¬Relation.TransGen g.DependsOn i i

/-- From a vertex a cycle can be reached along dependencies. -/
def ReachesCycle (g : Graph) (i : Nat) : Prop :=
  ∃ j, Relation.ReflTransGen g.DependsOn i j ∧ Relation.TransGen g.DependsOn j j

/-- Vertices depend on vertices only. -/
def Closed (g : Graph) : Prop := ∀ i, ∀ j ∈ g.dependenciesOf i, j < g.size

theorem ReachesCycle.of_dependsOn {i j : Nat} (depends : g.DependsOn i j)
    (reaches : g.ReachesCycle j) : g.ReachesCycle i := by
  obtain ⟨k, path, cycle⟩ := reaches
  exact ⟨k, .head depends path, cycle⟩

/-- A vertex from which a cycle can be reached is on one, or depends on such a vertex. -/
theorem ReachesCycle.exists_dependsOn {i : Nat} (reaches : g.ReachesCycle i) :
    ∃ j, g.DependsOn i j ∧ g.ReachesCycle j := by
  obtain ⟨k, path, cycle⟩ := reaches
  obtain rfl | ⟨j, depends, rest⟩ := Relation.ReflTransGen.cases_head path
  · obtain ⟨j, depends, back⟩ := Relation.TransGen.head'_iff.mp cycle
    exact ⟨j, depends, i, back, cycle⟩
  · exact ⟨j, depends, k, rest, cycle⟩

theorem acyclic_iff : g.Acyclic ↔ ∀ i < g.size, ¬g.ReachesCycle i := by
  constructor
  · intro acyclic i _ ⟨j, _, cycle⟩
    exact acyclic j cycle
  · intro free i cycle
    obtain ⟨j, depends, -⟩ := Relation.TransGen.head'_iff.mp cycle
    exact free i depends.lt_size ⟨i, .refl, cycle⟩

/-- What holds of a vertex once it holds of all that the vertex depends on holds of all that is
placed with dependencies first. -/
theorem DependenciesFirst.induction {P : Nat → Prop} (first : g.DependenciesFirst order)
    (step : ∀ i ∈ order, (∀ j ∈ g.dependenciesOf i, P j) → P i) : ∀ i ∈ order, P i := by
  have whole : ∀ earlier later, order = earlier ++ later → ∀ i ∈ earlier, P i := by
    intro earlier
    induction earlier using List.reverseRecOn with
    | nil => exact fun _ _ _ member => absurd member List.not_mem_nil
    | append_singleton earlier i ih =>
        intro later split
        have split' : order = earlier ++ i :: later := by simpa using split
        have before := ih (i :: later) split'
        refine List.forall_mem_append.mpr ⟨before, List.forall_mem_singleton.mpr ?_⟩
        apply step i (by simp [split'])
        intro j depends
        exact before j (first earlier i later split' depends)
  exact whole order [] (List.append_nil order).symm

/-- No cycle can be reached from what is placed with dependencies first. -/
theorem DependenciesFirst.not_reachesCycle (first : g.DependenciesFirst order) :
    ∀ i ∈ order, ¬g.ReachesCycle i := by
  apply first.induction (P := fun i => ¬g.ReachesCycle i)
  intro i _ before reaches
  obtain ⟨j, depends, reaches⟩ := reaches.exists_dependsOn
  exact before j depends reaches

/-- Dependencies without those that run back to where they started lead down, so a finite graph
has no endless chain of them. -/
theorem wellFounded_dependsOn (g : Graph) : WellFounded fun j i : Fin g.size =>
    Relation.TransGen g.DependsOn i j ∧ ¬Relation.TransGen g.DependsOn j i := by
  have transitive : IsTrans (Fin g.size) fun j i =>
      Relation.TransGen g.DependsOn i j ∧ ¬Relation.TransGen g.DependsOn j i := by
    constructor
    intro k j i ⟨first, noWay⟩ ⟨rest, _⟩
    exact ⟨rest.trans first, fun back => noWay (back.trans rest)⟩
  have irreflexive : Std.Irrefl fun j i : Fin g.size =>
      Relation.TransGen g.DependsOn i j ∧ ¬Relation.TransGen g.DependsOn j i :=
    ⟨fun _ both => both.2 both.1⟩
  exact Finite.wellFounded_of_trans_of_irrefl _

/-- A vertex that is never placed has a dependency that is never placed. -/
theorem exists_dependsOn_of_notMem_placed {i : Nat} (inside : i < g.size)
    (unplaced : i ∉ g.schedule.placed) : ∃ j, g.DependsOn i j ∧ j ∉ g.schedule.placed := by
  have notReady : i ∉ g.schedule.ready := by simp [ready_schedule]
  rw [(sound_schedule g).ready i] at notReady
  have kept : ¬g.dependenciesOf i ⊆ g.schedule.placed :=
    fun settled => notReady ⟨inside, unplaced, settled⟩
  simpa [DependsOn, List.subset_def] using kept

/-- The induction descends to dependencies that are not placed either, until one of them leads
back. -/
theorem reachesCycle_of_notMem_placed (closed : g.Closed) (i : Fin g.size)
    (unplaced : i.val ∉ g.schedule.placed) : g.ReachesCycle i := by
  induction i using (wellFounded_dependsOn g).induction with
  | _ i ih =>
      obtain ⟨j, depends, unplaced⟩ := exists_dependsOn_of_notMem_placed i.isLt unplaced
      by_cases back : Relation.TransGen g.DependsOn j i
      · exact ⟨i, .refl, .head depends back⟩
      · have reaches := ih ⟨j, closed i j depends⟩ ⟨.single depends, back⟩ unplaced
        exact .of_dependsOn depends reaches

/-- A vertex is placed exactly when no cycle can be reached from it. -/
theorem mem_placed_schedule_iff (closed : g.Closed) {i : Nat} :
    i ∈ g.schedule.placed ↔ i < g.size ∧ ¬g.ReachesCycle i := by
  have sound := sound_schedule g
  constructor
  · intro placed
    exact ⟨sound.inside i placed, sound.first.not_reachesCycle i placed⟩
  · intro ⟨inside, free⟩
    by_contra unplaced
    exact free (reachesCycle_of_notMem_placed closed ⟨i, inside⟩ unplaced)

theorem order?_eq_some_iff :
    g.order? = some order ↔ g.schedule.placed = order ∧ order.length = g.size := by
  simp only [order?]
  split
  · rename_i all
    constructor
    · intro same
      obtain rfl := Option.some.inj same
      exact ⟨rfl, all⟩
    · rintro ⟨rfl, -⟩
      rfl
  · rename_i some
    constructor
    · intro same
      cases same
    · rintro ⟨rfl, all⟩
      exact absurd all some

/-- There is an order exactly when there is no cycle. -/
theorem exists_order?_iff (closed : g.Closed) : (∃ order, g.order? = some order) ↔ g.Acyclic := by
  have sound := sound_schedule g
  rw [acyclic_iff]
  constructor
  · intro ⟨order, sorted⟩ i inside
    obtain ⟨perm, first⟩ := perm_and_first_of_order? sorted
    exact first.not_reachesCycle i (perm.mem_iff.mpr (List.mem_range.mpr inside))
  · intro free
    have all : g.schedule.placed.Perm (List.range g.size) := by
      rw [List.perm_ext_iff_of_nodup sound.nodup List.nodup_range]
      intro i
      rw [mem_placed_schedule_iff closed, List.mem_range, and_iff_left_iff_imp]
      exact free i
    exact ⟨_, order?_eq_some_iff.mpr ⟨rfl, all.length_eq.trans List.length_range⟩⟩

/-- Of the vertices that may come next, an order always takes the least. -/
def LeastFirst (g : Graph) (order : List Nat) : Prop :=
  ∀ earlier i later, order = earlier ++ i :: later →
    ∀ j < g.size, j ∉ earlier → g.dependenciesOf j ⊆ earlier → i ≤ j

theorem LeastFirst.append {i : Nat} (least : g.LeastFirst order)
    (next : ∀ j < g.size, j ∉ order → g.dependenciesOf j ⊆ order → i ≤ j) :
    g.LeastFirst (order ++ [i]) :=
  forall_split_append least next

namespace Schedule

variable {s : Schedule}

theorem Sound.leastFirst_place (sound : s.Sound g) (least : g.LeastFirst s.placed) :
    g.LeastFirst (s.place g).placed := by
  cases split : s.ready with
  | nil => rwa [place_of_idle split]
  | cons i rest =>
      rw [placed_place split]
      apply least.append
      intro j inside fresh settled
      have isReady : j ∈ i :: rest := split ▸ (sound.ready j).mpr ⟨inside, fresh, settled⟩
      obtain rfl | later := List.mem_cons.mp isReady
      · exact Nat.le_refl j
      · exact Nat.le_of_lt ((List.pairwise_cons.mp (split ▸ sound.ascending)).1 j later)

theorem Sound.leastFirst_run (sound : s.Sound g) (least : g.LeastFirst s.placed) (n : Nat) :
    g.LeastFirst (s.run g n).placed := by
  induction n generalizing s with
  | zero => exact least
  | succ n ih => exact ih sound.place (sound.leastFirst_place least)

end Schedule

theorem leastFirst_of_order? (sorted : g.order? = some order) : g.LeastFirst order := by
  rw [← (order?_eq_some_iff.mp sorted).1]
  apply (Schedule.sound_start g).leastFirst_run
  intro earlier i later split
  exact absurd split (by simp [Schedule.start])

/-- An order that always takes the least vertex comes before all others that put dependencies
first. Both are followed as long as they agree; where they part for the first time, what the
other takes could have been taken as well. -/
theorem LeastFirst.eq_or_lex (least : g.LeastFirst order) {other : List Nat}
    (perm : order.Perm (List.range g.size)) (perm' : other.Perm (List.range g.size))
    (first : g.DependenciesFirst other) : order = other ∨ List.Lex (· < ·) order other := by
  have fresh : other.Nodup := perm'.nodup_iff.mpr List.nodup_range
  have length : order.length = other.length := (perm.trans perm'.symm).length_eq
  have rests : ∀ rest earlier rest', order = earlier ++ rest → other = earlier ++ rest' →
      rest = rest' ∨ List.Lex (· < ·) rest rest' := by
    intro rest
    induction rest with
    | nil =>
        intro earlier rest' split split'
        cases rest' with
        | nil => exact .inl rfl
        | cons j rest' => exact .inr .nil
    | cons i rest ih =>
        intro earlier rest' split split'
        cases rest' with
        | nil => simp [split, split'] at length
        | cons j rest' =>
            have inside : j < g.size := List.mem_range.mp (perm'.mem_iff.mp (by simp [split']))
            have new : j ∉ earlier := by
              intro old
              rw [split'] at fresh
              exact (List.nodup_append.mp fresh).2.2 j old j List.mem_cons_self rfl
            have le := least earlier i rest split j inside new (first earlier j rest' split')
            obtain below | rfl := Nat.lt_or_eq_of_le le
            · exact .inr (.rel below)
            · obtain same | before :=
                ih (earlier ++ [i]) rest' (by simp [split]) (by simp [split'])
              · exact .inl (congrArg (i :: ·) same)
              · exact .inr (.cons before)
  exact rests order [] other rfl rfl

end Graph

namespace Scene

variable {s : Scene} {order : List Nat}

theorem closed_dependencyGraph (s : Scene) : s.dependencyGraph.Closed := by
  intro i j depends
  rw [size_dependencyGraph]
  cases position : s.entities[i]? with
  | none =>
      rw [Graph.dependenciesOf_eq_nil (by simpa [size] using position)] at depends
      cases depends
  | some e =>
      rw [dependenciesOf_dependencyGraph position] at depends
      obtain ⟨id, -, index⟩ := List.mem_filterMap.mp depends
      exact (List.findIdx?_eq_some_iff_getElem.mp index).1

theorem dependencyOrder_eq_ok_iff :
    s.dependencyOrder = .ok order ↔ s.dependencyGraph.order? = some order := by
  simp only [dependencyOrder]
  split
  · rename_i sorted
    simp [sorted]
  · rename_i stuck
    simp [stuck]

/-- What keeps a scene from having an order is a cycle. -/
theorem exists_dependencyOrder_iff :
    (∃ order, s.dependencyOrder = .ok order) ↔ s.dependencyGraph.Acyclic := by
  simp only [dependencyOrder_eq_ok_iff]
  exact Graph.exists_order?_iff (closed_dependencyGraph s)

theorem dependencyOrder_of_cyclic (cyclic : ¬s.dependencyGraph.Acyclic) :
    ∃ ids, s.dependencyOrder = .error (.cycle ids) := by
  rw [← exists_dependencyOrder_iff] at cyclic
  simp only [dependencyOrder] at cyclic ⊢
  split
  · rename_i order sorted
    rw [sorted] at cyclic
    exact absurd ⟨order, rfl⟩ cyclic
  · exact ⟨_, rfl⟩

/-- The order of a scene is the stable one. It is there exactly when the dependencies have no
cycle, and a cycle is reported otherwise. It lists every position once, with all that an entity
depends on before it, and of all such lists it is the first in lexicographic order. -/
theorem dependencyOrder_stable (s : Scene) :
    ((∃ order, s.dependencyOrder = .ok order) ↔ s.dependencyGraph.Acyclic) ∧
    (¬s.dependencyGraph.Acyclic → ∃ ids, s.dependencyOrder = .error (.cycle ids)) ∧
    ∀ order, s.dependencyOrder = .ok order →
      order.Perm (List.range s.size) ∧ s.dependencyGraph.DependenciesFirst order ∧
      ∀ other : List Nat, other.Perm (List.range s.size) →
        s.dependencyGraph.DependenciesFirst other →
          order = other ∨ List.Lex (· < ·) order other := by
  refine ⟨exists_dependencyOrder_iff, dependencyOrder_of_cyclic, ?_⟩
  intro order sorted
  obtain ⟨perm, first⟩ := dependencyOrder_eq_ok sorted
  refine ⟨perm, first, ?_⟩
  intro other perm' first'
  rw [← size_dependencyGraph] at perm perm'
  have least := Graph.leastFirst_of_order? (dependencyOrder_eq_ok_iff.mp sorted)
  exact least.eq_or_lex perm perm' first'

/-- A midpoint of a midpoint that is declared before everything it is made from. -/
example :
    let s : Scene := ⟨[{ id := "N", shape := .midpoint "M" "B" },
      { id := "M", shape := .midpoint "A" "B" }, { id := "A", shape := .point },
      { id := "B", shape := .point }]⟩
    s.dependencyOrder = .ok [2, 3, 1, 0] := by
  decide +kernel

end Scene

end Straightedge
