import Mathlib.Data.Finset.Card
import Mathlib.Data.List.Basic
import Mathlib.Data.List.Induction
import Mathlib.Data.List.Perm.Subperm
import Straightedge.Dependency.Graph

/-!
# Soundness of schedules

A schedule keeps count of the dependencies that are still to be placed, so it
always knows which vertices may come next. `Schedule.Sound` says that the counts
and the ready list are what the placed vertices alone determine. Placing a vertex
keeps this, and a schedule carried on for as many steps as there are vertices
ends with nothing left to place.
-/

namespace Straightedge

theorem nodup_eraseDups {α : Type} [BEq α] [LawfulBEq α] (l : List α) : l.eraseDups.Nodup := by
  induction l using List.reverseRecOn with
  | nil => exact List.nodup_nil
  | append_singleton l j ih =>
      rw [List.eraseDups_append]
      by_cases member : j ∈ l
      · simpa [List.removeAll, member] using ih
      · have apart : ∀ i ∈ l, i ≠ j := fun i inside same => member (same ▸ inside)
        simpa [List.removeAll, member, List.eraseDups_cons, List.nodup_append] using
          And.intro ih apart

namespace Graph

theorem mem_insertAscending {i k : Nat} {l : List Nat} :
    k ∈ insertAscending i l ↔ k = i ∨ k ∈ l := by
  induction l with
  | nil => simp [insertAscending]
  | cons j l ih =>
      unfold insertAscending
      split
      · exact List.mem_cons
      · rw [List.mem_cons, ih, List.mem_cons, or_left_comm]

theorem pairwise_insertAscending {i : Nat} {l : List Nat} (ascending : l.Pairwise (· < ·))
    (fresh : i ∉ l) : (insertAscending i l).Pairwise (· < ·) := by
  induction l with
  | nil => exact List.pairwise_singleton _ _
  | cons j l ih =>
      obtain ⟨below, rest⟩ := List.pairwise_cons.mp ascending
      obtain ⟨different, freshRest⟩ := not_or.mp (fun member => fresh (List.mem_cons.mpr member))
      unfold insertAscending
      split
      · rename_i le
        have first : i < j := Nat.lt_of_le_of_ne le different
        refine List.pairwise_cons.mpr ⟨?_, ascending⟩
        intro k member
        rcases List.mem_cons.mp member with rfl | inRest
        · exact first
        · exact Nat.lt_trans first (below k inRest)
      · rename_i notLe
        refine List.pairwise_cons.mpr ⟨?_, ih rest freshRest⟩
        intro k member
        rcases mem_insertAscending.mp member with rfl | inRest
        · exact Nat.lt_of_not_le notLe
        · exact below k inRest

/-- The number of distinct dependencies of a vertex that are not among those placed. -/
def unplaced (g : Graph) (placed : List Nat) (j : Nat) : Nat :=
  ((g.dependenciesOf j).eraseDups.filter fun i => decide (i ∉ placed)).length

theorem unplaced_eq_zero_iff {g : Graph} {placed : List Nat} {j : Nat} :
    g.unplaced placed j = 0 ↔ g.dependenciesOf j ⊆ placed := by
  simp [unplaced, List.subset_def]

/-- Placing one more vertex settles one dependency of each of its dependents. -/
theorem unplaced_append {g : Graph} {placed : List Nat} {i : Nat} (fresh : i ∉ placed) (j : Nat) :
    g.unplaced (placed ++ [i]) j =
      g.unplaced placed j - if i ∈ g.dependenciesOf j then 1 else 0 := by
  have distinct : ((g.dependenciesOf j).eraseDups.filter fun k => decide (k ∉ placed)).Nodup :=
    (nodup_eraseDups _).filter _
  have erased : (g.dependenciesOf j).eraseDups.filter (fun k => decide (k ∉ placed ++ [i])) =
      ((g.dependenciesOf j).eraseDups.filter fun k => decide (k ∉ placed)).erase i := by
    rw [List.Nodup.erase_eq_filter distinct, List.filter_filter]
    apply List.filter_congr
    intro k _
    by_cases same : k = i <;> simp [same]
  rw [unplaced, erased, List.length_erase]
  by_cases depends : i ∈ g.dependenciesOf j <;> simp [unplaced, depends, fresh]

/-- Every vertex of an order comes after all vertices it depends on. -/
def DependenciesFirst (g : Graph) (order : List Nat) : Prop :=
  ∀ earlier i later, order = earlier ++ i :: later → g.dependenciesOf i ⊆ earlier

theorem dependenciesOf_eq_nil {g : Graph} {j : Nat} (h : g.size ≤ j) : g.dependenciesOf j = [] := by
  rw [dependenciesOf, List.getD_eq_getElem?_getD, List.getElem?_eq_none h, Option.getD_none]

/-- Whatever depends on a vertex is a vertex itself. -/
theorem mem_dependents {g : Graph} {i j : Nat} :
    j ∈ g.dependents i ↔ i ∈ g.dependenciesOf j := by
  rw [mem_dependents_iff, and_iff_right_iff_imp]
  intro depends
  apply Nat.lt_of_not_le
  intro outside
  rw [dependenciesOf_eq_nil outside] at depends
  exact List.not_mem_nil depends

/-- What holds at every place of an order holds at every place of the order with one more vertex, if
it holds of that vertex after all others. -/
theorem forall_split_append {P : List Nat → Nat → Prop} {order : List Nat} {i : Nat}
    (each : ∀ earlier k later, order = earlier ++ k :: later → P earlier k) (last : P order i) :
    ∀ earlier k later, order ++ [i] = earlier ++ k :: later → P earlier k := by
  intro earlier k later split
  cases later using List.reverseRecOn with
  | nil =>
      obtain ⟨rfl, same⟩ := List.append_inj' split rfl
      obtain rfl := List.head_eq_of_cons_eq same
      exact last
  | append_singleton later final =>
      have split' : order ++ [i] = (earlier ++ k :: later) ++ [final] := by simpa using split
      exact each earlier k later (List.append_inj' split' rfl).1

theorem DependenciesFirst.append {g : Graph} {order : List Nat} {i : Nat}
    (first : g.DependenciesFirst order) (placed : g.dependenciesOf i ⊆ order) :
    g.DependenciesFirst (order ++ [i]) :=
  forall_split_append first placed

theorem DependenciesFirst.subset {g : Graph} {order : List Nat} (first : g.DependenciesFirst order)
    {i : Nat} (member : i ∈ order) : g.dependenciesOf i ⊆ order := by
  obtain ⟨earlier, later, rfl⟩ := List.append_of_mem member
  exact fun _ inside => List.mem_append_left _ (first earlier i later rfl inside)

namespace Schedule

variable {g : Graph} {s : Schedule}

/-- A schedule as the vertices it has placed determine it. -/
structure Sound (g : Graph) (s : Schedule) : Prop where
  waiting : ∀ j, s.waiting.getD j 0 = g.unplaced s.placed j
  ascending : s.ready.Pairwise (· < ·)
  ready : ∀ j, j ∈ s.ready ↔ j < g.size ∧ j ∉ s.placed ∧ g.dependenciesOf j ⊆ s.placed
  nodup : s.placed.Nodup
  inside : ∀ j ∈ s.placed, j < g.size
  first : g.DependenciesFirst s.placed

theorem getD_inDegrees (g : Graph) (j : Nat) : g.inDegrees.getD j 0 = g.unplaced [] j := by
  have all : ∀ l : List Nat, l.filter (fun i => decide (i ∉ [])) = l := by simp
  rw [unplaced, all, inDegrees, dependenciesOf, List.getD_eq_getElem?_getD,
    List.getD_eq_getElem?_getD, List.getElem?_map]
  cases g.dependencies[j]? <;> rfl

theorem sound_start (g : Graph) : (start g).Sound g where
  waiting := getD_inDegrees g
  ascending := List.pairwise_lt_range.filter _
  ready j := by
    simp only [start, List.mem_filter, List.mem_range, getD_inDegrees, beq_iff_eq,
      unplaced_eq_zero_iff, List.not_mem_nil, not_false_eq_true, true_and]
  nodup := List.nodup_nil
  inside _ member := absurd member List.not_mem_nil
  first earlier i later split := by simp [start] at split

theorem getD_waiting_release (s : Schedule) (j k : Nat) :
    (s.release j).waiting.getD k 0 =
      if k = j then s.waiting.getD k 0 - 1 else s.waiting.getD k 0 := by
  by_cases same : k = j
  · subst same
    by_cases inside : k < s.waiting.length
    · simp [release, inside]
    · simp [release, List.set_eq_of_length_le (Nat.not_lt.mp inside),
        List.getElem?_eq_none (Nat.not_lt.mp inside)]
  · simp [release, same, List.getElem?_set_ne (Ne.symm same)]

theorem mem_ready_release {j k : Nat} :
    k ∈ (s.release j).ready ↔ k ∈ s.ready ∨ k = j ∧ s.waiting.getD j 0 - 1 = 0 := by
  by_cases last : s.waiting.getD j 0 - 1 = 0
  · simp only [release, last, if_true, mem_insertAscending, and_true]
    exact or_comm
  · simp only [release, last, if_false, and_false, or_false]

/-- Releasing distinct vertices settles one dependency of each of them. -/
theorem getD_waiting_foldl_release {js : List Nat} (distinct : js.Nodup) (s : Schedule) (k : Nat) :
    (js.foldl release s).waiting.getD k 0 =
      if k ∈ js then s.waiting.getD k 0 - 1 else s.waiting.getD k 0 := by
  induction js generalizing s with
  | nil => simp
  | cons j js ih =>
      obtain ⟨fresh, rest⟩ := List.nodup_cons.mp distinct
      rw [List.foldl_cons, ih rest, getD_waiting_release]
      by_cases same : k = j
      · subst same
        simp [fresh]
      · simp [same]

theorem mem_ready_foldl_release {js : List Nat} (distinct : js.Nodup) (s : Schedule) (k : Nat) :
    k ∈ (js.foldl release s).ready ↔ k ∈ s.ready ∨ k ∈ js ∧ s.waiting.getD k 0 - 1 = 0 := by
  induction js generalizing s with
  | nil => simp
  | cons j js ih =>
      obtain ⟨fresh, rest⟩ := List.nodup_cons.mp distinct
      rw [List.foldl_cons, ih rest, mem_ready_release, getD_waiting_release]
      by_cases same : k = j
      · subst same
        simp [fresh]
      · simp [same]

theorem ascending_foldl_release {js : List Nat} (distinct : js.Nodup) {s : Schedule}
    (ascending : s.ready.Pairwise (· < ·)) (fresh : ∀ j ∈ js, j ∉ s.ready) :
    (js.foldl release s).ready.Pairwise (· < ·) := by
  induction js generalizing s with
  | nil => exact ascending
  | cons j js ih =>
      obtain ⟨different, rest⟩ := List.nodup_cons.mp distinct
      obtain ⟨freshHead, freshRest⟩ := List.forall_mem_cons.mp fresh
      rw [List.foldl_cons]
      apply ih rest
      · simp only [release]
        split
        · exact pairwise_insertAscending ascending freshHead
        · exact ascending
      · intro k member
        rw [mem_ready_release]
        rintro (old | ⟨rfl, -⟩)
        · exact freshRest k member old
        · exact different member

theorem placed_foldl_release (js : List Nat) (s : Schedule) :
    (js.foldl release s).placed = s.placed := by
  induction js generalizing s with
  | nil => rfl
  | cons j js ih => rw [List.foldl_cons, ih]; rfl

theorem place_of_idle (idle : s.ready = []) : s.place g = s := by
  simp only [place, idle]

theorem placed_place {i : Nat} {rest : List Nat} (h : s.ready = i :: rest) :
    (s.place g).placed = s.placed ++ [i] := by
  simp only [place, h, placed_foldl_release]

/-- What depends on a ready vertex can neither be placed nor be ready yet. -/
theorem Sound.later (sound : s.Sound g) {i j : Nat} (isReady : i ∈ s.ready)
    (depends : i ∈ g.dependenciesOf j) : j ∉ s.placed ∧ j ∉ s.ready := by
  have fresh : i ∉ s.placed := ((sound.ready i).mp isReady).2.1
  constructor
  · intro old
    exact fresh (sound.first.subset old depends)
  · intro early
    exact fresh (((sound.ready j).mp early).2.2 depends)

theorem Sound.mem_rest (sound : s.Sound g) {i j : Nat} {rest : List Nat}
    (split : s.ready = i :: rest) : j ∈ rest ↔ j ∈ s.ready ∧ j ≠ i := by
  have below := (List.pairwise_cons.mp (split ▸ sound.ascending)).1
  rw [split, List.mem_cons]
  constructor
  · intro member
    exact ⟨.inr member, Nat.ne_of_gt (below j member)⟩
  · intro ⟨member, different⟩
    exact member.resolve_left different

/-- Placing the next ready vertex keeps a schedule sound. -/
theorem Sound.place_of_ready (sound : s.Sound g) {i : Nat} {rest : List Nat}
    (split : s.ready = i :: rest) : (s.place g).Sound g := by
  have isReady : i ∈ s.ready := split ▸ List.mem_cons_self
  obtain ⟨inside, fresh, settled⟩ := (sound.ready i).mp isReady
  have placed : (s.place g).placed = s.placed ++ [i] := placed_place split
  have distinct : (g.dependents i).Nodup := List.nodup_range.filter _
  have released : s.place g =
      (g.dependents i).foldl release { s with ready := rest, placed := s.placed ++ [i] } := by
    simp only [Schedule.place, split]
  refine ⟨?_, ?_, ?_, ?_, ?_, ?_⟩
  · intro j
    rw [placed, unplaced_append fresh, released, getD_waiting_foldl_release distinct]
    simp only [mem_dependents, sound.waiting]
    split <;> rfl
  · rw [released]
    apply ascending_foldl_release distinct (List.pairwise_cons.mp (split ▸ sound.ascending)).2
    intro j member old
    exact (sound.later isReady (mem_dependents.mp member)).2 ((sound.mem_rest split).mp old).1
  · intro j
    rw [released, mem_ready_foldl_release distinct, ← released, placed, ← unplaced_eq_zero_iff,
      unplaced_append fresh]
    simp only [mem_dependents, sound.waiting, sound.mem_rest split, sound.ready, List.mem_append,
      List.mem_singleton, ← unplaced_eq_zero_iff (g := g)]
    by_cases depends : i ∈ g.dependenciesOf j
    · have waits : g.unplaced s.placed j ≠ 0 :=
        fun settled => fresh (unplaced_eq_zero_iff.mp settled depends)
      have isVertex : j < g.size := (mem_dependents_iff.mp (mem_dependents.mpr depends)).1
      have different : j ≠ i := fun same => fresh (settled (same ▸ depends))
      simp only [waits, depends, (sound.later isReady depends).1, isVertex, different, if_true,
        false_and, and_false, false_or, or_false, not_false_eq_true, true_and]
    · simp only [depends, if_false, Nat.sub_zero, false_and, or_false, not_or]
      tauto
  · rw [placed]
    exact List.nodup_append.mpr ⟨sound.nodup, List.pairwise_singleton _ _,
      fun j old k member same => fresh (List.mem_singleton.mp member ▸ same ▸ old)⟩
  · rw [placed]
    exact List.forall_mem_append.mpr ⟨sound.inside, List.forall_mem_singleton.mpr inside⟩
  · rw [placed]
    exact sound.first.append settled

/-- A step keeps a schedule sound; it is idle when no vertex is ready. -/
theorem Sound.place (sound : s.Sound g) : (s.place g).Sound g := by
  cases split : s.ready with
  | nil => rwa [place_of_idle split]
  | cons i rest => exact sound.place_of_ready split

/-- A schedule stays sound however long it is carried on. -/
theorem Sound.run (sound : s.Sound g) (n : Nat) : (s.run g n).Sound g := by
  induction n generalizing s with
  | zero => exact sound
  | succ n ih => exact ih sound.place

theorem run_of_idle (idle : s.ready = []) (n : Nat) : s.run g n = s := by
  induction n with
  | zero => rfl
  | succ n ih => rw [run, place_of_idle idle, ih]

/-- Each step places a vertex, as long as some vertex is ready. -/
theorem length_placed_run (g : Graph) (n : Nat) (s : Schedule) :
    (s.run g n).placed.length = s.placed.length + n ∨ (s.run g n).ready = [] := by
  induction n generalizing s with
  | zero => exact .inl rfl
  | succ n ih =>
      cases split : s.ready with
      | nil =>
          rw [run_of_idle split]
          exact .inr split
      | cons i rest =>
          apply (ih (s.place g)).imp_left
          intro placed
          rw [Schedule.run, placed, placed_place split, List.length_append, List.length_singleton]
          omega

theorem Sound.perm_range (sound : s.Sound g) (all : s.placed.length = g.size) :
    s.placed.Perm (List.range g.size) := by
  have subset : s.placed ⊆ List.range g.size := by
    intro j member
    exact List.mem_range.mpr (sound.inside j member)
  exact (List.subperm_of_subset sound.nodup subset).perm_of_length_le (by simp [all])

end Schedule

theorem sound_schedule (g : Graph) : g.schedule.Sound g := (Schedule.sound_start g).run g.size

/-- The schedule of a graph is carried on until no vertex is ready. -/
theorem ready_schedule (g : Graph) : g.schedule.ready = [] := by
  rcases Schedule.length_placed_run g g.size (.start g) with all | idle
  · have sound := sound_schedule g
    have every := sound.perm_range (all.trans (Nat.zero_add _))
    apply List.eq_nil_iff_forall_not_mem.mpr
    intro j isReady
    obtain ⟨inside, fresh, -⟩ := (sound.ready j).mp isReady
    exact fresh (every.mem_iff.mpr (List.mem_range.mpr inside))
  · exact idle

/-- An order lists every vertex once, after all vertices that it depends on. -/
theorem perm_and_first_of_order? {g : Graph} {order : List Nat} (h : g.order? = some order) :
    order.Perm (List.range g.size) ∧ g.DependenciesFirst order := by
  simp only [order?] at h
  split at h
  · rename_i all
    obtain rfl := Option.some.inj h
    exact ⟨(sound_schedule g).perm_range all, (sound_schedule g).first⟩
  · cases h

/-- Every vertex depends on smaller ones only. -/
def Backward (g : Graph) : Prop := ∀ i, ∀ j ∈ g.dependenciesOf i, j < i

theorem Schedule.placed_place_of_backward {g : Graph} {s : Schedule} (backward : g.Backward)
    (sound : s.Sound g) {n : Nat} (placed : s.placed = List.range n) (h : n < g.size) :
    (s.place g).placed = List.range (n + 1) := by
  have isReady : n ∈ s.ready := by
    refine (sound.ready n).mpr ⟨h, by simp [placed], ?_⟩
    intro j depends
    simpa [placed] using backward n j depends
  have least : ∀ j ∈ s.ready, n ≤ j := by
    intro j early
    simpa [placed] using ((sound.ready j).mp early).2.1
  cases split : s.ready with
  | nil => exact absurd (split ▸ isReady) List.not_mem_nil
  | cons i rest =>
      have below := (List.pairwise_cons.mp (split ▸ sound.ascending)).1
      have same : i = n := by
        rcases List.mem_cons.mp (split ▸ isReady) with same | inRest
        · exact same.symm
        · have above := least i (split ▸ List.mem_cons_self)
          have under := below n inRest
          omega
      rw [Schedule.placed_place split, placed, same, List.range_succ]

theorem Schedule.placed_run_of_backward {g : Graph} {s : Schedule} (backward : g.Backward)
    (sound : s.Sound g) {m : Nat} (placed : s.placed = List.range m) {n : Nat}
    (h : m + n ≤ g.size) : (s.run g n).placed = List.range (m + n) := by
  induction n generalizing s m with
  | zero => exact placed
  | succ n ih =>
      have next := placed_place_of_backward backward sound placed (by omega)
      rw [Schedule.run, ih sound.place next (by omega)]
      congr 1
      omega

/-- With dependencies on smaller vertices only, the order is that of the vertices. -/
theorem order?_of_backward {g : Graph} (backward : g.Backward) :
    g.order? = some (List.range g.size) := by
  have placed : g.schedule.placed = List.range (0 + g.size) :=
    Schedule.placed_run_of_backward backward (Schedule.sound_start g) rfl (by omega)
  simp only [order?, placed, Nat.zero_add, List.length_range, if_true]

end Graph

end Straightedge
