import Straightedge.Proofs.Dependency.References
import Straightedge.Proofs.Dependency.Schedule
import Straightedge.Proofs.Scene.Declared

/-!
# Well-formed scenes

What holds of every entity of a scene that was read, said about the finished
scene: its references are bound to entities before it and stay bound to them, and
its values are those that its own line and the lines of its references wrote.
Since all references lead backwards, declaration order is the dependency order.
-/

namespace Straightedge

namespace Statement

theorem valuesOf_stroke {kind : Kind} (isStroke : kind ∈ [.line, .segment, .ray]) (a b : Entity) :
    valuesOf kind [a, b] = snapshot a.values b.values := by
  revert isStroke
  cases kind <;> simp [valuesOf]

theorem valuesOf_eq_empty {kind : Kind} (other : kind ∉ [.line, .segment, .ray])
    (targets : List Entity) : valuesOf kind targets = .empty := by
  revert other
  cases kind <;> simp [valuesOf]

/-- The coordinates that two entities have are kept under four other names. -/
theorem get?_snapshot (start stop : Values) :
    (snapshot start stop).get? "x" = none ∧ (snapshot start stop).get? "y" = none := by
  unfold snapshot
  generalize start.get? "x" = x1, start.get? "y" = y1, stop.get? "x" = x2, stop.get? "y" = y2
  cases x1 <;> cases y1 <;> cases x2 <;> cases y2 <;> exact ⟨rfl, rfl⟩

end Statement

namespace Scene

variable {text : String} {s : Scene}

/-- What an entity between two others keeps of one of them: the two coordinates written in its
line if it is a point, and nothing otherwise. -/
inductive KeptEnd (text : String) (s : Scene) (xKey yKey id : String) :
    List (String × Option Num) → Prop where
  | point {j x y : Nat} {t : Entity} (found : s.find? id = some t)
      (position : s.entities[j]? = some t) (isPoint : t.kind = .point)
      (written : Origin text s j t (.point id x y t.span)) :
      KeptEnd text s xKey yKey id [(xKey, some (.int x)), (yKey, some (.int y))]
  | other {t : Entity} (found : s.find? id = some t) (notPoint : t.kind ≠ .point) :
      KeptEnd text s xKey yKey id []

/-- The values that an entity has as its line and the lines of its references wrote them. -/
inductive WrittenValues (text : String) (s : Scene) (e : Entity) : Statement → Values → Prop where
  | point {x y : Nat} (isPoint : e.kind = .point) :
      WrittenValues text s e (.point e.id x y e.span) (.ofPoint (.int x) (.int y))
  | stroke {st : Statement} {start stop : String} {first second : List (String × Option Num)}
      (isStroke : e.kind ∈ [.line, .segment, .ray]) (ends : e.references = [start, stop])
      (keptStart : KeptEnd text s "x1" "y1" start first)
      (keptStop : KeptEnd text s "x2" "y2" stop second) :
      WrittenValues text s e st ⟨first ++ second⟩
  | none {st : Statement} (other : e.kind ∉ [.point, .line, .segment, .ray]) :
      WrittenValues text s e st .empty

/-- An entity of a scene whose line was read as the given statement. -/
structure WellFormedAt (text : String) (s : Scene) (i : Nat) (e : Entity) (st : Statement) :
    Prop where
  origin : Origin text s i e st
  /-- Each reference is bound to an earlier entity, to the same one from its line on. -/
  bound : ∀ id ∈ e.references, ∃ j t, j < i ∧ s.entities[j]? = some t ∧ t.id = id ∧
    (s.before i).find? id = some t ∧ s.find? id = some t
  angle : ∀ id, e.shape = .angleBisector id → ∃ t, s.find? id = some t ∧ t.kind = .angle
  values : WrittenValues text s e st e.values

/-- An admitted entity refers to what the scene finds under the ids. -/
theorem Admits.find?_of_mem {e : Entity} (h : s.Admits e) {id : String}
    (member : id ∈ e.references) : ∃ t, s.find? id = some t := by
  cases h with
  | point => cases member
  | @made kind id' targets span notPoint command isName arity declared isAngle =>
      have ids : (Shape.ofKind kind (targets.map Entity.id)).references = targets.map Entity.id :=
        Shape.references_ofKind (by rw [List.length_map, arity])
      rw [Entity.references, ids] at member
      obtain ⟨t, inTargets, rfl⟩ := List.mem_map.mp member
      exact ⟨t, (declared t inTargets).2⟩

theorem Admits.angle {e : Entity} (h : s.Admits e) {id : String}
    (bisects : e.shape = .angleBisector id) : ∃ t, s.find? id = some t ∧ t.kind = .angle := by
  cases h with
  | point => cases bisects
  | @made kind id' targets span notPoint command isName arity declared isAngle =>
      obtain rfl : kind = .angleBisector :=
        (Shape.kind_ofKind kind _).symm.trans (congrArg Shape.kind bisects)
      obtain ⟨t, rfl⟩ := List.length_eq_one_iff.mp arity
      obtain ⟨rfl⟩ := Shape.angleBisector.inj bisects
      exact ⟨t, (declared t List.mem_cons_self).2, isAngle rfl t List.mem_cons_self⟩

/-- The line of a point wrote its coordinates. -/
theorem Origin.point {i : Nat} {e : Entity} {st : Statement} (h : Origin text s i e st)
    (isPoint : e.kind = .point) :
    ∃ x y : Nat, st = .point e.id x y e.span ∧ e.values = .ofPoint (.int x) (.int y) := by
  obtain ⟨earlier, line, later, -, -, read⟩ := h.line
  obtain ⟨shape, rest, spells, -⟩ := Statement.ofTokens?_eq_some_iff.mp read
  cases spells with
  | point =>
      obtain rfl := Except.ok.inj h.entity
      exact ⟨_, _, rfl, rfl⟩
  | made notPoint _ _ _ arity =>
      obtain ⟨targets, -, -, rfl⟩ :=
        (Statement.toEntity_made_eq_ok_iff (by simpa using arity)).mp h.entity
      exact absurd ((Shape.kind_ofKind _ _).symm.trans isPoint) notPoint

theorem Admits.values_eq_snapshot {e : Entity} (h : s.Admits e)
    (isStroke : e.kind ∈ [.line, .segment, .ray]) :
    ∃ a b, s.find? a.id = some a ∧ s.find? b.id = some b ∧ e.references = [a.id, b.id] ∧
      e.values = Statement.snapshot a.values b.values := by
  cases h with
  | point =>
      change Kind.point ∈ _ at isStroke
      exact absurd isStroke (by decide)
  | @made kind id targets span notPoint command isName arity declared isAngle =>
      rw [Entity.kind, Shape.kind_ofKind] at isStroke
      have two : kind.arity = 2 := by
        revert isStroke
        cases kind <;> simp [Kind.arity]
      obtain ⟨a, b, rfl⟩ := List.length_eq_two.mp (arity.trans two)
      exact ⟨a, b, (declared a (by simp)).2, (declared b (by simp)).2,
        Shape.references_ofKind two.symm, Statement.valuesOf_stroke isStroke a b⟩

theorem Admits.values_eq_empty {e : Entity} (h : s.Admits e)
    (other : e.kind ∉ [.point, .line, .segment, .ray]) : e.values = .empty := by
  cases h with
  | point => exact absurd List.mem_cons_self other
  | @made kind id targets =>
      rw [Entity.kind, Shape.kind_ofKind] at other
      apply Statement.valuesOf_eq_empty
      intro isStroke
      exact other (List.mem_cons_of_mem _ isStroke)

/-- An admitted entity that is no point has no coordinates of its own. -/
theorem Admits.get?_eq_none {e : Entity} (h : s.Admits e) (notPoint : e.kind ≠ .point) :
    e.values.get? "x" = none ∧ e.values.get? "y" = none := by
  by_cases isStroke : e.kind ∈ [.line, .segment, .ray]
  · obtain ⟨a, b, -, -, -, values⟩ := h.values_eq_snapshot isStroke
    rw [values]
    exact Statement.get?_snapshot a.values b.values
  · rw [h.values_eq_empty (by simpa [notPoint] using isStroke)]
    exact ⟨rfl, rfl⟩

/-- What a scene that was read has under an id, with the line that declared it. -/
theorem keptEnd_read {i : Nat} {xKey yKey : String} {t : Entity}
    (h : ((read text).scene.before i).find? t.id = some t) :
    KeptEnd text (read text).scene xKey yKey t.id
      ([(xKey, t.values.get? "x"), (yKey, t.values.get? "y")].filterMap
        fun (key, entry) => entry.map (key, ·)) := by
  obtain ⟨j, -, -, position⟩ := bound_of_before h
  have found := find?_of_before h
  by_cases isPoint : t.kind = .point
  · obtain ⟨st, origin⟩ := exists_origin position
    obtain ⟨x, y, rfl, values⟩ := origin.point isPoint
    rw [values]
    exact .point found position isPoint origin
  · obtain ⟨noX, noY⟩ := (declared_read text j t position).get?_eq_none isPoint
    rw [noX, noY]
    exact .other found isPoint

theorem writtenValues_read {i : Nat} {e : Entity} {st : Statement}
    (origin : Origin text (read text).scene i e st)
    (admitted : ((read text).scene.before i).Admits e) :
    WrittenValues text (read text).scene e st e.values := by
  by_cases isPoint : e.kind = .point
  · obtain ⟨x, y, rfl, values⟩ := origin.point isPoint
    rw [values]
    exact .point isPoint
  by_cases isStroke : e.kind ∈ [.line, .segment, .ray]
  · obtain ⟨a, b, foundA, foundB, ends, values⟩ := admitted.values_eq_snapshot isStroke
    have split : Statement.snapshot a.values b.values = ⟨_ ++ _⟩ :=
      congrArg Values.mk (List.filterMap_append (l := [("x1", _), ("y1", _)]))
    rw [values, split]
    exact .stroke isStroke ends (keptEnd_read foundA) (keptEnd_read foundB)
  · have other : e.kind ∉ [.point, .line, .segment, .ray] := by simpa [isPoint] using isStroke
    rw [admitted.values_eq_empty other]
    exact .none other

theorem wellFormedAt_read {i : Nat} {e : Entity} (h : (read text).scene.entities[i]? = some e) :
    ∃ st, WellFormedAt text (read text).scene i e st := by
  obtain ⟨st, origin⟩ := exists_origin h
  have admitted : ((read text).scene.before i).Admits e := declared_read text i e h
  refine ⟨st, origin, ?_, ?_, writtenValues_read origin admitted⟩
  · intro id member
    obtain ⟨t, found⟩ := admitted.find?_of_mem member
    obtain ⟨j, earlier, -, position⟩ := bound_of_before found
    exact ⟨j, t, earlier, position, id_of_find? found, found, find?_of_before found⟩
  · intro id bisects
    obtain ⟨t, found, isAngle⟩ := admitted.angle bisects
    exact ⟨t, find?_of_before found, isAngle⟩

/-- With every entity admitted by those before it, dependencies lead backwards. -/
theorem Declared.backward (h : s.Declared) : s.dependencyGraph.Backward := by
  intro i j depends
  cases position : s.entities[i]? with
  | none =>
      rw [Graph.dependenciesOf_eq_nil (by simpa [size] using position)] at depends
      cases depends
  | some e =>
      rw [dependenciesOf_dependencyGraph position] at depends
      obtain ⟨id, member, first⟩ := List.mem_filterMap.mp depends
      obtain ⟨t, found⟩ := (h i e position).find?_of_mem member
      obtain ⟨k, earlier, same, -⟩ := bound_of_before found
      obtain rfl := Option.some.inj (same.symm.trans first)
      exact earlier

theorem Declared.dependencyOrder (h : s.Declared) :
    s.dependencyOrder = .ok (List.range s.size) := by
  simp only [Scene.dependencyOrder, Graph.order?_of_backward h.backward, size_dependencyGraph]

/-- Every scene that was read is well formed: its entities are bound to earlier ones for good and
have exactly the values that the text wrote, its dependencies lead backwards, and the order that
puts dependencies first is always there and is the order of declaration. -/
theorem wellFormed_read (text : String) :
    (∀ i e, (read text).scene.entities[i]? = some e →
      ∃ st, WellFormedAt text (read text).scene i e st) ∧
    (∀ i, ∀ j ∈ (read text).scene.dependencyGraph.dependenciesOf i, j < i) ∧
    (read text).scene.dependencyOrder = .ok (List.range (read text).scene.size) :=
  ⟨fun _ _ h => wellFormedAt_read h, (declared_read text).backward,
    (declared_read text).dependencyOrder⟩

end Scene

end Straightedge
