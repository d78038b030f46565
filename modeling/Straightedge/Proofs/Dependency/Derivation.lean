import Mathlib.Data.List.Basic
import Straightedge.Dependency.Midpoints
import Straightedge.Proofs.Dependency.References
import Straightedge.Proofs.Dependency.Schedule
import Straightedge.Proofs.Outcome

/-!
# What derivation leaves behind

Deriving coordinates gives values to midpoints and touches nothing else. In
dependency order every midpoint is derived after its sources, so the scene that
is left is solved: each midpoint lies in the middle of where its sources are now.
A pass in another order reaches a part of that solution and never anything else.
-/

namespace Straightedge

namespace Values

@[simp] theorem setPoint_empty (x y : Num) : empty.setPoint x y = ofPoint x y := rfl

@[simp] theorem setPoint_ofPoint (a b x y : Num) : (ofPoint a b).setPoint x y = ofPoint x y := rfl

end Values

namespace Entity

variable {e e' : Entity}

/-- The entity without values if these are derived. -/
def cleared (e : Entity) : Entity := if e.kind = .midpoint then { e with values := .empty } else e

theorem cleared_of_midpoint (derived : e.kind = .midpoint) :
    e.cleared = { e with values := .empty } :=
  if_pos derived

theorem cleared_of_ne (independent : e.kind ≠ .midpoint) : e.cleared = e := if_neg independent

@[simp] theorem id_cleared (e : Entity) : e.cleared.id = e.id := by
  unfold cleared
  split <;> rfl

@[simp] theorem shape_cleared (e : Entity) : e.cleared.shape = e.shape := by
  unfold cleared
  split <;> rfl

theorem shape_of_cleared_eq (same : e'.cleared = e.cleared) : e'.shape = e.shape := by
  rw [← shape_cleared, same, shape_cleared]

theorem kind_of_cleared_eq (same : e'.cleared = e.cleared) : e'.kind = e.kind :=
  congrArg Shape.kind (shape_of_cleared_eq same)

theorem eq_of_cleared_eq (same : e'.cleared = e.cleared) (independent : e.kind ≠ .midpoint) :
    e' = e := by
  have independent' : e'.kind ≠ .midpoint := kind_of_cleared_eq same ▸ independent
  rwa [cleared_of_ne independent, cleared_of_ne independent'] at same

/-- With the same values given to them, entities that are the same when cleared are the same. -/
theorem withValues_eq_of_cleared_eq (same : e'.cleared = e.cleared) (v : Values) :
    { e' with values := v } = { e with values := v } := by
  have values : ∀ e : Entity, { e.cleared with values := v } = { e with values := v } := by
    intro e
    unfold cleared
    split <;> rfl
  rw [← values e', same, values e]

end Entity

namespace Scene

variable {s t f : Scene}

/-- The position of what the scene finds under an id. -/
def place (s : Scene) (id : String) : Except Fault (Option Vec) :=
  Entity.positionOf (s.find? id)

/-- A middle is a matter of where the two ids are. -/
theorem middle_eq_of_places {start stop start' stop' : String}
    (first : s.place start = t.place start') (second : s.place stop = t.place stop') :
    s.middle start stop = t.middle start' stop' := by
  unfold place at first second
  simp only [middle, first, second]

theorem middle_congr {start stop : String}
    (places : ∀ id ∈ [start, stop], s.place id = t.place id) :
    s.middle start stop = t.middle start stop :=
  middle_eq_of_places (places start (by simp)) (places stop (by simp))

/-- The scene with the given middle as the coordinates of the entity at a position. -/
def setMiddle (s : Scene) (i : Nat) (m : Vec) : Scene :=
  s.modifyValues i fun v => v.setPoint (.real m.x) (.real m.y)

/-- What deriving at one position may do: nothing, or set the middle of a midpoint. -/
theorem deriveAt_cases (s : Scene) (i : Nat) :
    ((s.deriveAt i).state = s ∧ ((s.deriveAt i).fault = none →
      ∀ start stop, s.shapeAt? i = some (.midpoint start stop) →
        s.middle start stop = .ok none)) ∨
    ∃ start stop m, s.shapeAt? i = some (.midpoint start stop) ∧
      s.middle start stop = .ok (some m) ∧ s.deriveAt i = ⟨s.setMiddle i m, none⟩ := by
  unfold deriveAt
  split
  · rename_i start stop isMidpoint
    split
    · rename_i m placed
      exact .inr ⟨start, stop, m, isMidpoint, placed, rfl⟩
    · rename_i unplaced
      refine .inl ⟨rfl, ?_⟩
      intro _ start' stop' same
      obtain ⟨rfl, rfl⟩ := Shape.midpoint.inj (Option.some.inj (isMidpoint.symm.trans same))
      exact unplaced
    · rename_i f failed
      exact .inl ⟨rfl, fun succeeds => absurd succeeds (Option.some_ne_none f)⟩
  · rename_i other
    exact .inl ⟨rfl, fun _ start stop isMidpoint => absurd isMidpoint (other start stop)⟩

/-- What holds of a scene and stays true as middles are set holds of all that is derived. -/
theorem deriveAll_induction (P : Scene → Prop) (positions : List Nat) (base : P s)
    (step : ∀ t, ∀ i ∈ positions, ∀ start stop m, P t →
      t.shapeAt? i = some (.midpoint start stop) → t.middle start stop = .ok (some m) →
        P (t.setMiddle i m)) :
    P (s.deriveAll positions).state := by
  induction positions generalizing s with
  | nil => exact base
  | cons i positions ih =>
      have rest := fun t i member => step t i (List.mem_cons_of_mem _ member)
      rw [deriveAll, Outcome.fold_cons]
      rcases deriveAt_cases s i with ⟨unchanged, -⟩ | ⟨start, stop, m, isMidpoint, placed, derived⟩
      · by_cases succeeds : (s.deriveAt i).fault = none
        · rw [Outcome.andThen_of_none succeeds, unchanged]
          exact ih base rest
        · rw [Outcome.andThen_of_ne_none succeeds, unchanged]
          exact base
      · rw [derived, Outcome.andThen_none]
        exact ih (step s i List.mem_cons_self start stop m base isMidpoint placed) rest

theorem getElem?_setMiddle (s : Scene) (i j : Nat) (m : Vec) :
    (s.setMiddle i m).entities[j]? =
      if i = j then
        s.entities[j]?.map fun e => { e with values := e.values.setPoint (.real m.x) (.real m.y) }
      else s.entities[j]? := by
  simp only [setMiddle, entities_modifyValues, List.getElem?_modify]
  split <;> simp

@[simp] theorem outline_setMiddle (s : Scene) (i : Nat) (m : Vec) :
    (s.setMiddle i m).outline = s.outline := by
  apply List.ext_getElem?
  intro j
  simp only [outline, List.getElem?_map, getElem?_setMiddle]
  split
  · rw [Option.map_map]
    rfl
  · rfl

theorem outline_deriveAt (s : Scene) (i : Nat) : (s.deriveAt i).state.outline = s.outline := by
  obtain ⟨unchanged, -⟩ | ⟨_, _, m, -, -, derived⟩ := deriveAt_cases s i
  · rw [unchanged]
  · rw [derived]
    exact outline_setMiddle s i m

/-- Scenes with the same entities at all positions are the same. -/
theorem eq_of_getElem? {s t : Scene} (same : ∀ i : Nat, s.entities[i]? = t.entities[i]?) : s = t :=
  congrArg Scene.mk (List.ext_getElem? same)

theorem exists_of_shapeAt? {i : Nat} {shape : Shape} (h : s.shapeAt? i = some shape) :
    ∃ e, s.entities[i]? = some e ∧ e.shape = shape :=
  Option.map_eq_some_iff.mp h

theorem clearDerived_setMiddle {i : Nat} {start stop : String}
    (isMidpoint : s.shapeAt? i = some (.midpoint start stop)) (m : Vec) :
    (s.setMiddle i m).clearDerived = s.clearDerived := by
  obtain ⟨e, position, shape⟩ := exists_of_shapeAt? isMidpoint
  apply eq_of_getElem?
  intro j
  simp only [clearDerived, List.getElem?_map]
  rw [getElem?_setMiddle]
  by_cases same : i = j
  · subst same
    simp [position, Entity.kind, shape, Shape.kind]
  · simp only [same, if_false]

@[simp] theorem outline_deriveAll (s : Scene) (positions : List Nat) :
    (s.deriveAll positions).state.outline = s.outline := by
  apply deriveAll_induction (·.outline = s.outline) positions rfl
  intro t i _ start stop m same _ _
  rw [outline_setMiddle, same]

/-- Derivation changes nothing but what is forgotten with all that is derived. -/
theorem clearDerived_deriveAll (s : Scene) (positions : List Nat) :
    (s.deriveAll positions).state.clearDerived = s.clearDerived := by
  apply deriveAll_induction (·.clearDerived = s.clearDerived) positions rfl
  intro t i _ start stop m same isMidpoint _
  rw [clearDerived_setMiddle isMidpoint, same]

theorem clearDerived_deriveOrdered (s : Scene) :
    s.deriveOrdered.state.clearDerived = s.clearDerived := by
  unfold deriveOrdered
  split
  · exact clearDerived_deriveAll s _
  · rfl

theorem clearDerived_deriveDeclared (s : Scene) :
    s.deriveDeclared.state.clearDerived = s.clearDerived :=
  clearDerived_deriveAll s _

@[simp] theorem clearDerived_clearDerived (s : Scene) :
    s.clearDerived.clearDerived = s.clearDerived := by
  apply congrArg Scene.mk
  simp only [clearDerived, List.map_map]
  apply List.map_congr_left
  intro e _
  by_cases derived : e.kind = .midpoint
  · simp only [Function.comp, derived, if_true]
    exact if_pos derived
  · simp only [Function.comp, derived, if_false]

theorem outline_clearDerived (s : Scene) : s.clearDerived.outline = s.outline := by
  simp only [outline, clearDerived, List.map_map]
  apply List.map_congr_left
  intro e _
  simp only [Function.comp]
  split <;> rfl

/-- Deriving elsewhere leaves an entity as it is. -/
theorem getElem?_deriveAll_of_notMem {j : Nat} {positions : List Nat} (other : j ∉ positions) :
    (s.deriveAll positions).state.entities[j]? = s.entities[j]? := by
  apply deriveAll_induction (·.entities[j]? = s.entities[j]?) positions rfl
  intro t i member start stop m same _ _
  have different : i ≠ j := fun same => other (same ▸ member)
  rw [getElem?_setMiddle, if_neg different, same]

theorem place_congr {id : String} (outline : s.outline = t.outline)
    (entity : ∀ j, s.index? id = some j → s.entities[j]? = t.entities[j]?) :
    s.place id = t.place id := by
  have sameIndex : s.index? id = t.index? id := index?_eq_of_outline outline id
  have found : s.find? id = t.find? id := by
    cases position : s.index? id with
    | none =>
        have position' : t.index? id = none := sameIndex ▸ position
        rw [index?_eq_none_iff.mp position, index?_eq_none_iff.mp position']
    | some j =>
        have position' : t.index? id = some j := sameIndex ▸ position
        rw [← getElem?_of_index? position, ← getElem?_of_index? position', entity j position]
  rw [place, place, found]

/-- Derivation that leaves the sources of a middle alone leaves the middle alone. -/
theorem middle_deriveAll_of_notMem {start stop : String} {positions : List Nat}
    (apart : ∀ id ∈ [start, stop], ∀ j, s.index? id = some j → j ∉ positions) :
    (s.deriveAll positions).state.middle start stop = s.middle start stop := by
  have outline : s.outline = (s.deriveAll positions).state.outline :=
    (outline_deriveAll s positions).symm
  refine (middle_congr ?_).symm
  intro id source
  apply place_congr outline
  intro j index
  rw [getElem?_deriveAll_of_notMem (apart id source j index)]

theorem middle_setMiddle_of_ne {start stop : String} {i : Nat}
    (apart : ∀ id ∈ [start, stop], s.index? id ≠ some i) (m : Vec) :
    (s.setMiddle i m).middle start stop = s.middle start stop := by
  have outline : s.outline = (s.setMiddle i m).outline := (outline_setMiddle s i m).symm
  refine (middle_congr ?_).symm
  intro id source
  apply place_congr outline
  intro j index
  have different : i ≠ j := by
    rintro rfl
    exact apart id source index
  rw [getElem?_setMiddle, if_neg different]

/-- Every midpoint has as coordinates the middle of where its sources are, or none when one of
them has no position. -/
def Solved (s : Scene) : Prop :=
  ∀ (i : Nat) (e : Entity) (start stop : String), s.entities[i]? = some e →
    e.shape = .midpoint start stop →
    (∃ m, s.middle start stop = .ok (some m) ∧ e.values = .ofPoint (.real m.x) (.real m.y)) ∨
    s.middle start stop = .ok none ∧ e.values = .empty

theorem deriveAll_split {earlier later : List Nat} {i : Nat}
    (derived : s.deriveAll (earlier ++ i :: later) = ⟨f, none⟩) :
    ∃ t u, s.deriveAll earlier = ⟨t, none⟩ ∧ t.deriveAt i = ⟨u, none⟩ ∧
      u.deriveAll later = ⟨f, none⟩ := by
  rw [deriveAll, Outcome.fold_append] at derived
  obtain ⟨t, before, rest⟩ := Outcome.andThen_eq_done_iff.mp derived
  rw [Outcome.fold_cons] at rest
  obtain ⟨u, here, after⟩ := Outcome.andThen_eq_done_iff.mp rest
  exact ⟨t, u, before, here, after⟩

/-- In an order that puts dependencies first, a midpoint is derived from where its sources are in
the end. -/
theorem deriveAll_solves {order : List Nat} (nodup : order.Nodup)
    (first : s.dependencyGraph.DependenciesFirst order) (derived : s.deriveAll order = ⟨f, none⟩)
    {i : Nat} (member : i ∈ order) {e : Entity} {start stop : String}
    (position : s.entities[i]? = some e) (isMidpoint : e.shape = .midpoint start stop) :
    (∃ m, f.middle start stop = .ok (some m) ∧ f.entities[i]? =
      some { e with values := e.values.setPoint (.real m.x) (.real m.y) }) ∨
    f.middle start stop = .ok none ∧ f.entities[i]? = some e := by
  obtain ⟨earlier, later, rfl⟩ := List.append_of_mem member
  obtain ⟨-, ⟨notLater, -⟩, apart⟩ : earlier.Nodup ∧ (i ∉ later ∧ later.Nodup) ∧
      ∀ j ∈ earlier, ∀ k ∈ i :: later, j ≠ k := by
    simpa only [List.nodup_cons] using List.nodup_append.mp nodup
  obtain ⟨t, u, before, here, after⟩ := deriveAll_split derived
  have before' : t = (s.deriveAll earlier).state := by rw [before]
  have after' : f = (u.deriveAll later).state := by rw [after]
  have positionBefore : t.entities[i]? = some e := by
    have notEarlier : i ∉ earlier := fun old => apart i old i List.mem_cons_self rfl
    rw [before', getElem?_deriveAll_of_notMem notEarlier, position]
  have positionAfter : f.entities[i]? = u.entities[i]? := by
    rw [after', getElem?_deriveAll_of_notMem notLater]
  have shape : t.shapeAt? i = some (.midpoint start stop) := by
    rw [shapeAt?, positionBefore, Option.map_some, isMidpoint]
  have outlineBefore : t.outline = s.outline := by rw [before', outline_deriveAll]
  -- Both sources come earlier in the order, so they stay where they are from `t` on.
  have sources : ∀ id ∈ [start, stop], ∀ j, t.index? id = some j → j ∈ earlier := by
    intro id source j index
    rw [index?_eq_of_outline outlineBefore] at index
    apply first earlier i later rfl
    rw [dependenciesOf_dependencyGraph position]
    exact List.mem_filterMap.mpr ⟨id, by rwa [Entity.references, isMidpoint], index⟩
  have settled (outline : u.outline = t.outline) : f.middle start stop = u.middle start stop := by
    rw [after']
    apply middle_deriveAll_of_notMem
    intro id source j index new
    rw [index?_eq_of_outline outline] at index
    exact apart j (sources id source j index) j (List.mem_cons_of_mem _ new) rfl
  rcases deriveAt_cases t i with ⟨same, unplaced⟩ | ⟨start', stop', m, shape', placed, set⟩
  · rw [here] at same unplaced
    obtain rfl : u = t := same
    refine .inr ⟨?_, positionAfter.trans positionBefore⟩
    rw [settled rfl]
    exact unplaced rfl start stop shape
  · obtain rfl : u = t.setMiddle i m := congrArg Outcome.state (here.symm.trans set)
    obtain ⟨rfl, rfl⟩ := Shape.midpoint.inj (Option.some.inj (shape.symm.trans shape'))
    refine .inl ⟨m, ?_, ?_⟩
    · have notSource : ∀ id ∈ [start, stop], t.index? id ≠ some i := by
        intro id source index
        exact apart i (sources id source i index) i List.mem_cons_self rfl
      rw [settled (outline_setMiddle t i m), middle_setMiddle_of_ne notSource, placed]
    · rw [positionAfter, getElem?_setMiddle, if_pos rfl, positionBefore, Option.map_some]

/-- In a scene without derived coordinates the values of midpoints are empty. -/
theorem getElem?_clearDerived (s : Scene) (i : Nat) :
    s.clearDerived.entities[i]? = s.entities[i]?.map Entity.cleared :=
  List.getElem?_map

theorem find?_clearDerived (s : Scene) (id : String) :
    s.clearDerived.find? id = (s.find? id).map Entity.cleared := by
  have ids : ((fun e : Entity => e.id == id) ∘ Entity.cleared) = fun e => e.id == id := by
    funext e
    rw [Function.comp, Entity.id_cleared]
  have search : s.clearDerived.find? id = (s.entities.map Entity.cleared).find? (·.id == id) := rfl
  rw [search, List.find?_map, ids]
  rfl

/-- Without derived coordinates nothing is where a midpoint is. -/
theorem place_clearDerived (s : Scene) (id : String) :
    s.clearDerived.place id =
      if (s.find? id).any (·.kind == .midpoint) then .ok none else s.place id := by
  rw [place, place, find?_clearDerived]
  cases s.find? id with
  | none => rfl
  | some e =>
      by_cases derived : e.kind = .midpoint
      · rw [Option.map_some, Entity.cleared_of_midpoint derived]
        simp only [Option.any_some, derived, beq_self_eq_true, if_true]
        rfl
      · simp [Entity.cleared_of_ne derived, derived]

theorem exists_of_clearDerived_eq (same : s.clearDerived = t.clearDerived) {i : Nat} {e : Entity}
    (position : s.entities[i]? = some e) :
    ∃ e', t.entities[i]? = some e' ∧ e'.cleared = e.cleared := by
  have here := getElem?_clearDerived s i
  rw [same, position, getElem?_clearDerived] at here
  exact Option.map_eq_some_iff.mp here

/-- Scenes that are the same without what is derived have the same entity at a position, but for
the values of a midpoint. -/
theorem getElem?_of_clearDerived_eq (same : t.clearDerived = s.clearDerived) {k : Nat} {e : Entity}
    (position : s.entities[k]? = some e) :
    ∃ v, t.entities[k]? = some { e with values := v } ∧ (e.kind ≠ .midpoint → v = e.values) := by
  obtain ⟨e', position', cleared⟩ := exists_of_clearDerived_eq same.symm position
  refine ⟨e'.values, ?_, ?_⟩
  · rw [position', ← Entity.withValues_eq_of_cleared_eq cleared]
  · intro independent
    rw [Entity.eq_of_cleared_eq cleared independent]

theorem size_of_clearDerived_eq (same : t.clearDerived = s.clearDerived) : t.size = s.size := by
  rw [← size_clearDerived t, same, size_clearDerived]

/-- Derivation in dependency order, from a scene without derived coordinates, solves it. -/
theorem solved_deriveOrdered (derived : s.clearDerived.deriveOrdered = ⟨f, none⟩) : f.Solved := by
  intro i e start stop position isMidpoint
  have cleared : f.clearDerived = s.clearDerived := by
    have := clearDerived_deriveOrdered s.clearDerived
    rwa [derived, clearDerived_clearDerived] at this
  obtain ⟨e₁, position₁, alike⟩ := exists_of_clearDerived_eq cleared position
  have midpoint : e₁.shape = .midpoint start stop := by
    rw [Entity.shape_of_cleared_eq alike, isMidpoint]
  have atStart : s.clearDerived.entities[i]? = some { e₁ with values := .empty } := by
    rw [getElem?_clearDerived, position₁, Option.map_some, Entity.cleared_of_midpoint]
    rw [Entity.kind, midpoint, Shape.kind]
  unfold deriveOrdered at derived
  split at derived
  · rename_i order sorted
    obtain ⟨perm, first⟩ := dependencyOrder_eq_ok sorted
    have member : i ∈ order := by
      rw [perm.mem_iff, List.mem_range]
      exact lt_size_of_getElem? atStart
    have nodup : order.Nodup := perm.nodup_iff.mpr List.nodup_range
    rcases deriveAll_solves nodup first derived member atStart midpoint with
      ⟨m, placed, set⟩ | ⟨unplaced, unset⟩
    · obtain rfl := Option.some.inj (position.symm.trans set)
      exact .inl ⟨m, placed, rfl⟩
    · obtain rfl := Option.some.inj (position.symm.trans unset)
      exact .inr ⟨unplaced, rfl⟩
  · cases derived

/-- A scene that has reached a part of another: some midpoints are without values still. -/
structure Below (t f : Scene) : Prop where
  cleared : t.clearDerived = f.clearDerived
  entity : ∀ (i : Nat) (e : Entity), t.entities[i]? = some e →
    f.entities[i]? = some e ∨ e.kind = .midpoint ∧ e.values = .empty

theorem outline_eq_of_clearDerived_eq (same : s.clearDerived = t.clearDerived) :
    s.outline = t.outline := by
  rw [← outline_clearDerived, same, outline_clearDerived]

theorem below_clearDerived (same : s.clearDerived = f.clearDerived) : s.clearDerived.Below f where
  cleared := by rw [clearDerived_clearDerived, same]
  entity i e position := by
    rw [same, getElem?_clearDerived] at position
    obtain ⟨e', position', rfl⟩ := Option.map_eq_some_iff.mp position
    by_cases derived : e'.kind = .midpoint
    · rw [Entity.cleared_of_midpoint derived]
      exact .inr ⟨derived, rfl⟩
    · rw [Entity.cleared_of_ne derived]
      exact .inl position'

/-- Where a part of a scene has placed something, the whole has placed it as well. -/
theorem Below.place (below : t.Below f) (id : String) :
    t.place id = f.place id ∨ t.place id = .ok none := by
  cases found : t.find? id with
  | none =>
      rw [Scene.place, found]
      exact .inr rfl
  | some e =>
      obtain ⟨j, index, position⟩ := exists_index?_of_find? found
      rcases below.entity j e position with same | ⟨-, empty⟩
      · refine .inl (place_congr (outline_eq_of_clearDerived_eq below.cleared) ?_)
        intro k index'
        obtain rfl := Option.some.inj (index.symm.trans index')
        rw [position, same]
      · rw [Scene.place, found, Entity.positionOf, empty]
        exact .inr rfl

theorem middle_eq_some_iff {start stop : String} {m : Vec} :
    s.middle start stop = .ok (some m) ↔
      ∃ a b, s.place start = .ok (some a) ∧ s.place stop = .ok (some b) ∧ Vec.midpoint a b = m := by
  unfold middle Scene.place
  rcases Entity.positionOf (s.find? start) with f | _ | a <;>
    rcases Entity.positionOf (s.find? stop) with f | _ | b <;>
    simp [bind, Except.bind, pure, Except.pure]

theorem Below.place_eq_some (below : t.Below f) {id : String} {p : Vec}
    (placed : t.place id = .ok (some p)) : f.place id = .ok (some p) := by
  rcases below.place id with same | unplaced
  · rw [← same, placed]
  · cases placed.symm.trans unplaced

theorem Below.middle_eq_some (below : t.Below f) {start stop : String} {m : Vec}
    (placed : t.middle start stop = .ok (some m)) : f.middle start stop = .ok (some m) := by
  obtain ⟨a, b, first, second, middle⟩ := middle_eq_some_iff.mp placed
  exact middle_eq_some_iff.mpr ⟨a, b, below.place_eq_some first, below.place_eq_some second, middle⟩

/-- A pass through a part of a solved scene stays within it, whatever its order. -/
theorem Below.deriveAll (below : t.Below f) (solved : f.Solved) (positions : List Nat) :
    (t.deriveAll positions).state.Below f := by
  apply deriveAll_induction (·.Below f) positions below
  intro u i _ start stop m below isMidpoint placed
  refine ⟨(clearDerived_setMiddle isMidpoint m).trans below.cleared, ?_⟩
  intro j e position
  rw [getElem?_setMiddle] at position
  split at position
  · rename_i same
    subst same
    obtain ⟨e₀, here, rfl⟩ := Option.map_eq_some_iff.mp position
    obtain ⟨e₁, there, alike⟩ := exists_of_clearDerived_eq below.cleared here
    have shape : e₁.shape = .midpoint start stop := by
      rw [shapeAt?, here, Option.map_some, Option.some.injEq] at isMidpoint
      rw [Entity.shape_of_cleared_eq alike, isMidpoint]
    have values : e₁.values = .ofPoint (.real m.x) (.real m.y) := by
      have inMiddle := below.middle_eq_some placed
      rcases solved i e₁ start stop there shape with ⟨m', placed', values⟩ | ⟨unplaced, -⟩
      · obtain rfl := Option.some.inj (Except.ok.inj (inMiddle.symm.trans placed'))
        exact values
      · cases inMiddle.symm.trans unplaced
    have set : e₀.values.setPoint (.real m.x) (.real m.y) = e₁.values := by
      rcases below.entity i e₀ here with same | ⟨-, empty⟩
      · obtain rfl := Option.some.inj (there.symm.trans same)
        rw [values, Values.setPoint_ofPoint]
      · rw [values, empty, Values.setPoint_empty]
    rw [set, ← Entity.withValues_eq_of_cleared_eq alike]
    exact .inl there
  · exact below.entity j e position

end Scene

end Straightedge
