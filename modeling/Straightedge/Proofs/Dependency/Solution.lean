import Straightedge.Proofs.Dependency.Derivation
import Straightedge.Proofs.Dependency.Order
import Straightedge.Proofs.Entity.Values

/-!
# The solution of a scene

A scene settles another when each midpoint lies in the middle of where its sources
are in the end, and everything else is as it was. Derivation in dependency order
leaves a scene that settles the one it starts from. Any order with the sources of
midpoints before them leads to every such scene, so there is only one, and deriving
it again leaves it alone.
-/

namespace Straightedge.Scene

variable {s t f : Scene} {order : List Nat}

/-- An entity as a scene settles it: a midpoint is placed in the middle of its sources if both
are somewhere in the scene. -/
def settle (f : Scene) (e : Entity) : Entity :=
  match e.shape with
  | .midpoint start stop =>
    match f.middle start stop with
    | .ok (some m) => e.placed (.real m.x) (.real m.y)
    | _ => e
  | _ => e

/-- The middle that an entity is to be placed in can be worked out. -/
def Derivable (f : Scene) (e : Entity) : Prop :=
  ∀ start stop, e.shape = .midpoint start stop → ∃ m, f.middle start stop = .ok m

/-- A scene is another one with each entity settled, where sources are looked up in the scene
itself. -/
structure Settles (f s : Scene) : Prop where
  derivable : ∀ e ∈ s.entities, f.Derivable e
  entities : f.entities = s.entities.map f.settle

section Settle

variable {e : Entity} {start stop : String}

theorem settle_of_some {m : Vec} (isMidpoint : e.shape = .midpoint start stop)
    (placed : f.middle start stop = .ok (some m)) :
    f.settle e = e.placed (.real m.x) (.real m.y) := by
  simp only [settle, isMidpoint, placed]

theorem settle_of_none (isMidpoint : e.shape = .midpoint start stop)
    (unplaced : f.middle start stop = .ok none) : f.settle e = e := by
  simp only [settle, isMidpoint, unplaced]

theorem settle_of_error {fault : Fault} (isMidpoint : e.shape = .midpoint start stop)
    (fails : f.middle start stop = .error fault) : f.settle e = e := by
  simp only [settle, isMidpoint, fails]

theorem settle_of_ne (independent : e.kind ≠ .midpoint) : f.settle e = e := by
  cases shaped : e.shape with
  | midpoint => exact absurd (congrArg Shape.kind shaped) independent
  | _ => simp only [settle, shaped]

/-- An entity is placed somewhere or left as it is. -/
theorem settle_cases (f : Scene) (e : Entity) :
    f.settle e = e ∨ ∃ x y, f.settle e = e.placed x y := by
  cases shaped : e.shape with
  | midpoint start stop =>
      cases middle : f.middle start stop with
      | error fault => exact .inl (settle_of_error shaped middle)
      | ok m =>
          cases m with
          | none => exact .inl (settle_of_none shaped middle)
          | some m => exact .inr ⟨_, _, settle_of_some shaped middle⟩
  | _ => exact .inl (by simp only [settle, shaped])

@[simp] theorem id_settle (f : Scene) (e : Entity) : (f.settle e).id = e.id := by
  obtain same | ⟨x, y, placed⟩ := f.settle_cases e
  · rw [same]
  · rw [placed]
    rfl

@[simp] theorem shape_settle (f : Scene) (e : Entity) : (f.settle e).shape = e.shape := by
  obtain same | ⟨x, y, placed⟩ := f.settle_cases e
  · rw [same]
  · rw [placed]
    rfl

theorem settle_congr (same : ∀ start stop, e.shape = .midpoint start stop →
    f.middle start stop = t.middle start stop) : f.settle e = t.settle e := by
  cases shaped : e.shape with
  | midpoint start stop => simp only [settle, shaped, same start stop shaped]
  | _ => simp only [settle, shaped]

/-- What is settled is not moved by settling it again. -/
@[simp] theorem settle_settle (f : Scene) (e : Entity) : f.settle (f.settle e) = f.settle e := by
  cases shaped : e.shape with
  | midpoint start stop =>
      cases middle : f.middle start stop with
      | error fault => rw [settle_of_error shaped middle, settle_of_error shaped middle]
      | ok m =>
          cases m with
          | none => rw [settle_of_none shaped middle, settle_of_none shaped middle]
          | some m =>
              have shaped' : (e.placed (.real m.x) (.real m.y)).shape = .midpoint start stop :=
                shaped
              rw [settle_of_some shaped middle, settle_of_some shaped' middle,
                Entity.placed_placed]
  | _ => simp only [settle, shaped]

end Settle

/-- There is a midpoint at a position. -/
def IsMidpoint (s : Scene) (i : Nat) : Prop :=
  ∃ start stop, s.shapeAt? i = some (.midpoint start stop)

/-- There is a midpoint at one position, and the other is that of one of its sources. -/
def RestsOn (s : Scene) (i j : Nat) : Prop :=
  ∃ start stop, s.shapeAt? i = some (.midpoint start stop) ∧
    ∃ id ∈ [start, stop], s.index? id = some j

theorem isMidpoint_of_getElem? {i : Nat} {e : Entity} {start stop : String}
    (position : s.entities[i]? = some e) (isMidpoint : e.shape = .midpoint start stop) :
    s.shapeAt? i = some (.midpoint start stop) := by
  rw [shapeAt?, position, Option.map_some, isMidpoint]

theorem exists_midpoint_of_kind {e : Entity} (derived : e.kind = .midpoint) :
    ∃ start stop, e.shape = .midpoint start stop := by
  cases shaped : e.shape with
  | midpoint start stop => exact ⟨start, stop, rfl⟩
  | _ => simp [Entity.kind, shaped, Shape.kind] at derived

theorem kind_ne_of_not_isMidpoint {i : Nat} {e : Entity} (position : s.entities[i]? = some e)
    (other : ¬s.IsMidpoint i) : e.kind ≠ .midpoint := by
  intro derived
  obtain ⟨start, stop, shaped⟩ := exists_midpoint_of_kind derived
  exact other ⟨start, stop, isMidpoint_of_getElem? position shaped⟩

namespace Settles

theorem getElem? (settles : f.Settles s) (i : Nat) :
    f.entities[i]? = s.entities[i]?.map f.settle := by
  rw [settles.entities, List.getElem?_map]

theorem outline (settles : f.Settles s) : f.outline = s.outline := by
  rw [Scene.outline, settles.entities, List.map_map]
  apply List.map_congr_left
  intro e _
  rw [Function.comp, id_settle, shape_settle]

theorem getElem?_of_ne (settles : f.Settles s) {i : Nat} {e : Entity}
    (position : s.entities[i]? = some e) (independent : e.kind ≠ .midpoint) :
    f.entities[i]? = some e := by
  rw [settles.getElem?, position, Option.map_some, settle_of_ne independent]

/-- Where there is no midpoint nothing changes. -/
theorem getElem?_of_not_isMidpoint (settles : f.Settles s) {i : Nat} (other : ¬s.IsMidpoint i) :
    f.entities[i]? = s.entities[i]? := by
  cases position : s.entities[i]? with
  | none => rw [settles.getElem?, position, Option.map_none]
  | some e => exact settles.getElem?_of_ne position (kind_ne_of_not_isMidpoint position other)

/-- A scene that settles another settles itself. -/
theorem self (settles : f.Settles s) : f.Settles f where
  derivable e member start stop isMidpoint := by
    rw [settles.entities] at member
    obtain ⟨e₀, member₀, rfl⟩ := List.mem_map.mp member
    rw [shape_settle] at isMidpoint
    exact settles.derivable e₀ member₀ start stop isMidpoint
  entities := by
    have settled : f.settle ∘ f.settle = f.settle := funext f.settle_settle
    calc
      f.entities = s.entities.map (f.settle ∘ f.settle) := by rw [settled, settles.entities]
      _ = (s.entities.map f.settle).map f.settle := List.map_map.symm
      _ = f.entities.map f.settle := by rw [← settles.entities]

end Settles

/-- An order in which midpoints can be derived: each of them is there, and comes after those that
are its sources. -/
structure SourcesFirst (s : Scene) (order : List Nat) : Prop where
  complete : ∀ i, s.IsMidpoint i → i ∈ order
  first : ∀ earlier i later, order = earlier ++ i :: later →
    ∀ j, s.RestsOn i j → s.IsMidpoint j → j ∈ earlier

/-- Every source of a midpoint is one of its dependencies. -/
theorem RestsOn.dependsOn {i j : Nat} (rests : s.RestsOn i j) :
    s.dependencyGraph.DependsOn i j := by
  obtain ⟨start, stop, isMidpoint, id, source, index⟩ := rests
  obtain ⟨e, position, shape⟩ := exists_of_shapeAt? isMidpoint
  rw [Graph.DependsOn, dependenciesOf_dependencyGraph position]
  exact List.mem_filterMap.mpr ⟨id, by rwa [Entity.references, shape], index⟩

/-- With all dependencies first, sources are first. -/
theorem sourcesFirst_of_perm (perm : order.Perm (List.range s.size))
    (first : s.dependencyGraph.DependenciesFirst order) : s.SourcesFirst order where
  complete i isMidpoint := by
    obtain ⟨start, stop, shape⟩ := isMidpoint
    obtain ⟨e, position, -⟩ := exists_of_shapeAt? shape
    exact perm.mem_iff.mpr (List.mem_range.mpr (lt_size_of_getElem? position))
  first earlier i later split j rests _ := first earlier i later split rests.dependsOn

/-- A derivation under way: the positions it has been through are as they are in the end, all
others as they were at the start. -/
structure Midway (s f : Scene) (done : List Nat) (t : Scene) : Prop where
  outline : t.outline = s.outline
  derived : ∀ j ∈ done, t.entities[j]? = f.entities[j]?
  rest : ∀ j ∉ done, t.entities[j]? = s.entities[j]?

/-- Deriving at a position settles the entity there and no other. -/
theorem deriveAt_of_derivable {i : Nat}
    (derivable : ∀ e, s.entities[i]? = some e → s.Derivable e) :
    ∃ t, s.deriveAt i = ⟨t, none⟩ ∧ t.outline = s.outline ∧
      t.entities[i]? = s.entities[i]?.map s.settle ∧
      ∀ j, i ≠ j → t.entities[j]? = s.entities[j]? := by
  cases position : s.entities[i]? with
  | none =>
      have nothing : s.shapeAt? i = none := by rw [shapeAt?, position, Option.map_none]
      refine ⟨s, ?_, rfl, position, fun _ _ => rfl⟩
      simp only [deriveAt, nothing]
  | some e =>
      have shape : s.shapeAt? i = some e.shape := by rw [shapeAt?, position, Option.map_some]
      cases shaped : e.shape with
      | midpoint start stop =>
          rw [shaped] at shape
          obtain ⟨m, middle⟩ := derivable e position start stop shaped
          cases m with
          | none =>
              refine ⟨s, ?_, rfl, ?_, fun _ _ => rfl⟩
              · simp only [deriveAt, shape, middle]
              · rw [position, Option.map_some, settle_of_none shaped middle]
          | some m =>
              refine ⟨s.setMiddle i m, ?_, outline_setMiddle s i m, ?_, ?_⟩
              · simp only [deriveAt, shape, middle]
                rfl
              · rw [getElem?_setMiddle, if_pos rfl, position, Option.map_some, Option.map_some,
                  settle_of_some shaped middle]
                rfl
              · intro j different
                rw [getElem?_setMiddle, if_neg different]
      | _ =>
          have independent : e.kind ≠ .midpoint := by simp [Entity.kind, shaped, Shape.kind]
          refine ⟨s, ?_, rfl, ?_, fun _ _ => rfl⟩
          · simp only [deriveAt, shape, shaped]
          · rw [position, Option.map_some, settle_of_ne independent]

namespace Midway

variable {done : List Nat} {i : Nat}

theorem start (s f : Scene) : s.Midway f [] s :=
  ⟨rfl, fun _ member => absurd member List.not_mem_nil, fun _ _ => rfl⟩

/-- Whether derived yet or not, an entity comes to the same when it is settled. -/
theorem getElem?_eq (midway : s.Midway f done t) (settles : f.Settles s) (i : Nat) :
    f.entities[i]? = t.entities[i]?.map f.settle := by
  by_cases old : i ∈ done
  · rw [midway.derived i old, ← settles.self.getElem?]
  · rw [midway.rest i old, settles.getElem?]

/-- A midpoint whose sources have been derived is where it is in the end. -/
theorem middle_eq (midway : s.Midway f done t) (settles : f.Settles s)
    (sources : ∀ j, s.RestsOn i j → s.IsMidpoint j → j ∈ done) {start stop : String}
    (isMidpoint : s.shapeAt? i = some (.midpoint start stop)) :
    t.middle start stop = f.middle start stop := by
  apply middle_congr
  intro id source
  apply place_congr (midway.outline.trans settles.outline.symm)
  intro j index
  by_cases old : j ∈ done
  · exact midway.derived j old
  · rw [midway.rest j old]
    rw [index?_eq_of_outline midway.outline] at index
    have rests : s.RestsOn i j := ⟨start, stop, isMidpoint, id, source, index⟩
    have other : ¬s.IsMidpoint j := fun derived => old (sources j rests derived)
    exact (settles.getElem?_of_not_isMidpoint other).symm

/-- The step lemma: with its sources derived, a position can be derived as well. -/
theorem deriveAt (midway : s.Midway f done t) (settles : f.Settles s)
    (sources : ∀ j, s.RestsOn i j → s.IsMidpoint j → j ∈ done) :
    ∃ u, t.deriveAt i = ⟨u, none⟩ ∧ s.Midway f (done ++ [i]) u := by
  have middle : ∀ e, t.entities[i]? = some e → ∀ start stop, e.shape = .midpoint start stop →
      t.middle start stop = f.middle start stop := by
    intro e position start stop shaped
    apply midway.middle_eq settles sources
    rw [← shapeAt?_eq_of_outline midway.outline]
    exact isMidpoint_of_getElem? position shaped
  have derivable : ∀ e, t.entities[i]? = some e → t.Derivable e := by
    intro e position start stop shaped
    rw [middle e position start stop shaped]
    have there : f.entities[i]? = some (f.settle e) := by
      rw [midway.getElem?_eq settles, position, Option.map_some]
    have shaped' : (f.settle e).shape = .midpoint start stop := (shape_settle f e).trans shaped
    exact settles.self.derivable _ (List.mem_of_getElem? there) start stop shaped'
  obtain ⟨u, derived, outline, here, elsewhere⟩ := deriveAt_of_derivable derivable
  refine ⟨u, derived, outline.trans midway.outline, ?_, ?_⟩
  · intro j member
    by_cases same : i = j
    · subst same
      rw [here, midway.getElem?_eq settles]
      apply Option.map_congr
      intro e position
      exact settle_congr (middle e position)
    · rw [elsewhere j same]
      apply midway.derived
      obtain old | new := List.mem_append.mp member
      · exact old
      · exact absurd (List.mem_singleton.mp new).symm same
  · intro j fresh
    obtain ⟨notDone, notHere⟩ := not_or.mp (fun member => fresh (List.mem_append.mpr member))
    rw [elsewhere j (fun same => notHere (List.mem_singleton.mpr same.symm))]
    exact midway.rest j notDone

end Midway

/-- The run lemma: a derivation with sources first goes through, and is midway at each point. -/
theorem Settles.midway (settles : f.Settles s) (first : s.SourcesFirst order) (done : List Nat)
    (later : List Nat) (split : order = done ++ later) :
    ∃ t, s.deriveAll done = ⟨t, none⟩ ∧ s.Midway f done t := by
  induction done using List.reverseRecOn generalizing later with
  | nil => exact ⟨s, rfl, .start s f⟩
  | append_singleton done i ih =>
      have split' : order = done ++ i :: later := by simpa using split
      obtain ⟨t, before, midway⟩ := ih (i :: later) split'
      obtain ⟨u, derived, midway'⟩ := midway.deriveAt settles (first.first done i later split')
      refine ⟨u, ?_, midway'⟩
      rw [deriveAll] at before ⊢
      rw [Outcome.fold_append, before, Outcome.andThen_none, Outcome.fold_cons, derived]
      rfl

/-- With sources first, derivation leads to any scene that settles the one it starts from. -/
theorem Settles.deriveAll (settles : f.Settles s) (first : s.SourcesFirst order) :
    s.deriveAll order = ⟨f, none⟩ := by
  obtain ⟨t, derived, midway⟩ := settles.midway first order [] (List.append_nil order).symm
  have same : t = f := by
    apply eq_of_getElem?
    intro j
    by_cases member : j ∈ order
    · exact midway.derived j member
    · have other : ¬s.IsMidpoint j := fun derived => member (first.complete j derived)
      rw [midway.rest j member, settles.getElem?_of_not_isMidpoint other]
  rw [derived, same]

/-- What a derivation through all positions leaves at one of them. -/
theorem settle_of_deriveAll (perm : order.Perm (List.range s.size))
    (first : s.dependencyGraph.DependenciesFirst order) (derived : s.deriveAll order = ⟨f, none⟩)
    {i : Nat} {e : Entity} (position : s.entities[i]? = some e) :
    f.Derivable e ∧ f.entities[i]? = some (f.settle e) := by
  by_cases derivedKind : e.kind = .midpoint
  · obtain ⟨start, stop, shaped⟩ := exists_midpoint_of_kind derivedKind
    have nodup : order.Nodup := perm.nodup_iff.mpr List.nodup_range
    have member : i ∈ order := perm.mem_iff.mpr (List.mem_range.mpr (lt_size_of_getElem? position))
    have derivable : ∀ m, f.middle start stop = .ok m → f.Derivable e := by
      intro m middle start' stop' shaped'
      obtain ⟨rfl, rfl⟩ := Shape.midpoint.inj (shaped.symm.trans shaped')
      exact ⟨m, middle⟩
    obtain ⟨m, middle, there⟩ | ⟨middle, there⟩ :=
      deriveAll_solves nodup first derived member position shaped
    · exact ⟨derivable _ middle, by rw [there, settle_of_some shaped middle]; rfl⟩
    · exact ⟨derivable _ middle, by rw [there, settle_of_none shaped middle]⟩
  · have cleared : f.clearDerived = s.clearDerived := by
      rw [← clearDerived_deriveAll s order, derived]
    obtain ⟨v, there, values⟩ := getElem?_of_clearDerived_eq cleared position
    refine ⟨?_, by rw [there, values derivedKind, settle_of_ne derivedKind]⟩
    intro start stop shaped
    exact absurd (congrArg Shape.kind shaped) derivedKind

/-- A derivation through all positions, with dependencies first, settles a scene. -/
theorem settles_deriveAll (perm : order.Perm (List.range s.size))
    (first : s.dependencyGraph.DependenciesFirst order) (derived : s.deriveAll order = ⟨f, none⟩) :
    f.Settles s where
  derivable e member := by
    obtain ⟨i, position⟩ := List.getElem?_of_mem member
    exact (settle_of_deriveAll perm first derived position).1
  entities := by
    apply List.ext_getElem?
    intro i
    rw [List.getElem?_map]
    cases position : s.entities[i]? with
    | none =>
        have size : f.size = s.size := by
          rw [← size_eq_of_outline (outline_deriveAll s order), derived]
        have outside : s.size ≤ i := List.getElem?_eq_none_iff.mp position
        exact List.getElem?_eq_none (size.le.trans outside)
    | some e => exact (settle_of_deriveAll perm first derived position).2

/-- Derivation in dependency order settles a scene. -/
theorem settles_deriveOrdered (derived : s.deriveOrdered = ⟨f, none⟩) :
    ∃ order, s.dependencyOrder = .ok order ∧ s.SourcesFirst order ∧ f.Settles s := by
  rw [deriveOrdered] at derived
  split at derived
  · rename_i order sorted
    obtain ⟨perm, first⟩ := dependencyOrder_eq_ok sorted
    exact ⟨order, sorted, sourcesFirst_of_perm perm first, settles_deriveAll perm first derived⟩
  · cases derived

/-- Something is somewhere at a position. -/
def PlacedAt (s : Scene) (i : Nat) : Prop :=
  ∃ e p, s.entities[i]? = some e ∧ e.values.position = .ok (some p)

/-- All that a midpoint rests on in the end is there: following sources from it, no reference of a
midpoint leads nowhere, and whatever is no midpoint has a position. -/
structure Grounded (s : Scene) (i : Nat) : Prop where
  bound : ∀ j start stop, Relation.ReflTransGen s.RestsOn i j →
    s.shapeAt? j = some (.midpoint start stop) → ∀ id ∈ [start, stop], s.index? id ≠ none
  placed : ∀ j e, Relation.ReflTransGen s.RestsOn i j → s.entities[j]? = some e →
    e.kind ≠ .midpoint → ∃ p, e.values.position = .ok (some p)

theorem Grounded.of_restsOn {i j : Nat} (grounded : s.Grounded i) (rests : s.RestsOn i j) :
    s.Grounded j where
  bound k start stop path := grounded.bound k start stop (.head rests path)
  placed k e path := grounded.placed k e (.head rests path)

theorem exists_place_iff {id : String} :
    (∃ p, s.place id = .ok (some p)) ↔ ∃ j, s.index? id = some j ∧ s.PlacedAt j := by
  rw [place]
  constructor
  · rintro ⟨p, placed⟩
    cases found : s.find? id with
    | none => simp [found, Entity.positionOf] at placed
    | some e =>
        rw [found] at placed
        obtain ⟨j, index, position⟩ := exists_index?_of_find? found
        exact ⟨j, index, e, p, position, placed⟩
  · rintro ⟨j, index, e, p, position, placed⟩
    rw [← getElem?_of_index? index, position]
    exact ⟨p, placed⟩

namespace Solved

variable {i : Nat} {e : Entity} {start stop : String}

/-- In a solved scene a midpoint is somewhere exactly when its middle is. -/
theorem exists_middle_iff (solved : f.Solved) (position : f.entities[i]? = some e)
    (isMidpoint : e.shape = .midpoint start stop) :
    e.values.point?.isSome ↔ ∃ m, f.middle start stop = .ok (some m) := by
  obtain ⟨m, middle, values⟩ | ⟨middle, values⟩ := solved i e start stop position isMidpoint
  · rw [values]
    exact ⟨fun _ => ⟨m, middle⟩, fun _ => rfl⟩
  · rw [values, middle]
    constructor
    · intro impossible
      cases impossible
    · intro ⟨m, impossible⟩
      cases impossible

theorem placedAt_iff (solved : f.Solved) (position : f.entities[i]? = some e)
    (isMidpoint : e.shape = .midpoint start stop) : f.PlacedAt i ↔ e.values.point?.isSome := by
  obtain ⟨m, -, values⟩ | ⟨-, values⟩ := solved i e start stop position isMidpoint
  · rw [values]
    exact ⟨fun _ => rfl, fun _ => ⟨e, m, position, by rw [values]; rfl⟩⟩
  · rw [values]
    constructor
    · intro ⟨e', p, position', placed⟩
      obtain rfl := Option.some.inj (position.symm.trans position')
      rw [values] at placed
      cases placed
    · intro impossible
      cases impossible

/-- A midpoint is somewhere exactly when each of its sources is. -/
theorem placedAt_iff_sources (solved : f.Solved) (position : f.entities[i]? = some e)
    (isMidpoint : e.shape = .midpoint start stop) :
    f.PlacedAt i ↔ ∀ id ∈ [start, stop], ∃ j, f.index? id = some j ∧ f.PlacedAt j := by
  rw [solved.placedAt_iff position isMidpoint, solved.exists_middle_iff position isMidpoint]
  simp only [middle_eq_some_iff, ← exists_place_iff, List.forall_mem_cons, List.not_mem_nil,
    false_implies, implies_true, and_true]
  constructor
  · intro ⟨m, a, b, first, second, _⟩
    exact ⟨⟨a, first⟩, ⟨b, second⟩⟩
  · intro ⟨⟨a, first⟩, ⟨b, second⟩⟩
    exact ⟨_, a, b, first, second, rfl⟩

end Solved

/-- From a midpoint that is somewhere in the end, sources lead to nothing that is not. -/
theorem Settles.grounded_of_placedAt (settles : f.Settles s) (solved : f.Solved) {i : Nat}
    (placed : f.PlacedAt i) : s.Grounded i := by
  have atMidpoint : ∀ j start stop, f.PlacedAt j → s.shapeAt? j = some (.midpoint start stop) →
      ∀ id ∈ [start, stop], ∃ k, s.index? id = some k ∧ f.PlacedAt k := by
    intro j start stop placed isMidpoint
    rw [← shapeAt?_eq_of_outline settles.outline] at isMidpoint
    obtain ⟨e, position, shaped⟩ := exists_of_shapeAt? isMidpoint
    simp only [← index?_eq_of_outline settles.outline]
    exact (solved.placedAt_iff_sources position shaped).mp placed
  have onPath : ∀ j, Relation.ReflTransGen s.RestsOn i j → f.PlacedAt j := by
    intro j path
    induction path with
    | refl => exact placed
    | tail _ rests ih =>
        obtain ⟨start, stop, isMidpoint, id, source, index⟩ := rests
        obtain ⟨k, index', placed⟩ := atMidpoint _ start stop ih isMidpoint id source
        obtain rfl := Option.some.inj (index.symm.trans index')
        exact placed
  constructor
  · intro j start stop path isMidpoint id source
    obtain ⟨k, index, -⟩ := atMidpoint j start stop (onPath j path) isMidpoint id source
    rw [index]
    exact Option.some_ne_none k
  · intro j e path position independent
    obtain ⟨e', p, position', placed⟩ := onPath j path
    have there := settles.getElem?_of_ne position independent
    obtain rfl := Option.some.inj (there.symm.trans position')
    exact ⟨p, placed⟩

/-- The induction is along the order: the sources of a midpoint are placed before it. -/
theorem Settles.placedAt_of_grounded (settles : f.Settles s) (solved : f.Solved)
    (first : s.dependencyGraph.DependenciesFirst order) :
    ∀ i ∈ order, i < s.size → s.Grounded i → f.PlacedAt i := by
  apply first.induction (P := fun i => i < s.size → s.Grounded i → f.PlacedAt i)
  intro i _ before inside grounded
  have position : s.entities[i]? = some s.entities[i] := List.getElem?_eq_getElem inside
  generalize s.entities[i] = e at position
  by_cases derived : e.kind = .midpoint
  · obtain ⟨start, stop, shaped⟩ := exists_midpoint_of_kind derived
    have isMidpoint := isMidpoint_of_getElem? position shaped
    have there : f.entities[i]? = some (f.settle e) := by
      rw [settles.getElem?, position, Option.map_some]
    have shaped' : (f.settle e).shape = .midpoint start stop := (shape_settle f e).trans shaped
    rw [solved.placedAt_iff_sources there shaped']
    intro id source
    rw [index?_eq_of_outline settles.outline]
    cases index : s.index? id with
    | none => exact absurd index (grounded.bound i start stop .refl isMidpoint id source)
    | some j =>
        have rests : s.RestsOn i j := ⟨start, stop, isMidpoint, id, source, index⟩
        have inside : j < s.size := by
          rw [← size_dependencyGraph]
          exact closed_dependencyGraph s i j rests.dependsOn
        exact ⟨j, rfl, before j rests.dependsOn inside (grounded.of_restsOn rests)⟩
  · obtain ⟨p, placed⟩ := grounded.placed i e .refl position derived
    exact ⟨e, p, settles.getElem?_of_ne position derived, placed⟩

/-- Derivation in dependency order, when it succeeds, leaves the one solution of a scene. Each
midpoint of which both sources have a position there lies in their mean, every other midpoint has
the values it had before, and all other entities are unchanged; no other scene settles the one it
started from. From a scene without derived coordinates, exactly the grounded midpoints get some.
Any other order with sources first leaves the same scene, and so does a second derivation. -/
theorem deriveOrdered_solution (succeeds : s.deriveOrdered.fault = none) :
    let f := s.deriveOrdered.state
    f.size = s.size ∧
    (∀ (i : Nat) (e : Entity), s.entities[i]? = some e →
      (∀ start stop, e.shape = .midpoint start stop →
        (∀ a b, f.place start = .ok (some a) → f.place stop = .ok (some b) →
          f.entities[i]? = some { e with
            values := e.values.setPoint (.real ((a.x + b.x) / 2)) (.real ((a.y + b.y) / 2)) }) ∧
        ((¬∃ a b, f.place start = .ok (some a) ∧ f.place stop = .ok (some b)) →
          f.entities[i]? = some e)) ∧
      (e.kind ≠ .midpoint → f.entities[i]? = some e)) ∧
    (∀ f' : Scene, f'.Settles s → f' = f) ∧
    (∀ t : Scene, s = t.clearDerived → ∀ (i : Nat) (e : Entity), f.entities[i]? = some e →
      e.kind = .midpoint → (e.values.point?.isSome ↔ s.Grounded i)) ∧
    (∀ order, s.SourcesFirst order → s.deriveAll order = ⟨f, none⟩) ∧
    f.deriveOrdered = ⟨f, none⟩ := by
  intro f
  have derived : s.deriveOrdered = ⟨f, none⟩ := Outcome.eq_done succeeds
  obtain ⟨order, sorted, sourcesFirst, settles⟩ := settles_deriveOrdered derived
  obtain ⟨perm, first⟩ := dependencyOrder_eq_ok sorted
  refine ⟨size_eq_of_outline settles.outline, ?_, ?_, ?_, ?_, ?_⟩
  · intro i e position
    refine ⟨?_, settles.getElem?_of_ne position⟩
    intro start stop isMidpoint
    rw [settles.getElem?, position, Option.map_some]
    constructor
    · intro a b first second
      have middle := middle_eq_some_iff.mpr ⟨a, b, first, second, rfl⟩
      rw [settle_of_some isMidpoint middle]
      rfl
    · intro nowhere
      obtain ⟨m, middle⟩ := settles.derivable e (List.mem_of_getElem? position) start stop isMidpoint
      cases m with
      | none => rw [settle_of_none isMidpoint middle]
      | some m =>
          obtain ⟨a, b, first, second, -⟩ := middle_eq_some_iff.mp middle
          exact absurd ⟨a, b, first, second⟩ nowhere
  · intro f' settles'
    have same := (settles'.deriveAll sourcesFirst).symm.trans (settles.deriveAll sourcesFirst)
    exact congrArg Outcome.state same
  · intro t start i e position derivedKind
    subst start
    have solved := solved_deriveOrdered derived
    obtain ⟨start, stop, shaped⟩ := exists_midpoint_of_kind derivedKind
    rw [← solved.placedAt_iff position shaped]
    constructor
    · exact settles.grounded_of_placedAt solved
    · have inside : i < t.clearDerived.size :=
        size_eq_of_outline settles.outline ▸ lt_size_of_getElem? position
      exact settles.placedAt_of_grounded solved first i
        (perm.mem_iff.mpr (List.mem_range.mpr inside)) inside
  · intro order' first'
    exact settles.deriveAll first'
  · have sorted' : f.dependencyOrder = .ok order := by
      rw [dependencyOrder_eq_of_outline settles.outline, sorted]
    obtain ⟨perm', first'⟩ := dependencyOrder_eq_ok sorted'
    rw [deriveOrdered, sorted']
    exact settles.self.deriveAll (sourcesFirst_of_perm perm' first')

/-- A midpoint of a midpoint that is declared before it, where a later declaration of the id `A`
plays no part. -/
theorem deriveOrdered_solution_chain :
    let s : Scene := ⟨[
      { id := "N", shape := .midpoint "M" "B" },
      { id := "M", shape := .midpoint "A" "B" },
      { id := "A", shape := .point, values := .ofPoint (.real 0) (.real 0) },
      { id := "B", shape := .point, values := .ofPoint (.real 8) (.real 4) },
      { id := "A", shape := .point }]⟩
    let f := s.deriveOrdered.state
    s.deriveOrdered.fault = none ∧
    f.entities[0]? = some
      { id := "N", shape := .midpoint "M" "B", values := .ofPoint (.real 6) (.real 3) } ∧
    f.deriveOrdered = ⟨f, none⟩ := by
  intro s f
  have succeeds : s.deriveOrdered.fault = none := by decide +kernel
  obtain ⟨-, settled, -, -, -, again⟩ := deriveOrdered_solution succeeds
  have first : f.place "M" = .ok (some ⟨4, 2⟩) := by decide +kernel
  have second : f.place "B" = .ok (some ⟨8, 4⟩) := by decide +kernel
  refine ⟨succeeds, ?_, again⟩
  rw [((settled 0 _ rfl).1 "M" "B" rfl).1 _ _ first second]
  decide +kernel

end Straightedge.Scene
