import Straightedge.Proofs.Scene.PointLine
import Straightedge.Proofs.Scene.Strict
import Straightedge.Proofs.Scene.WellFormed

/-!
# Printing scenes with moved points

What a line may declare is a matter of the outline of the scene before it, up to
values. So if every point of a scene that was read is moved to coordinates that are
nearest to natural numbers, its print is that of a scene that could have been read:
the points are at these numbers, and everything else is declared over them anew. If
a point is moved to a negative integer, its line is lost.
-/

namespace Straightedge

open Text (Unbroken IsName)

namespace Scene

variable {s : Scene} {e : Entity}

/-- Scenes of the same outline find entities of the same shape. -/
theorem exists_find?_of_outline {s' : Scene} (same : s'.outline = s.outline) {id : String}
    {t : Entity} (found : s.find? id = some t) :
    ∃ t', s'.find? id = some t' ∧ t'.id = t.id ∧ t'.shape = t.shape := by
  have shape := shapeOf_eq_of_outline same id
  rw [shapeOf, shapeOf, found, Option.map_some] at shape
  obtain ⟨t', found', shape⟩ := Option.map_eq_some_iff.mp shape
  exact ⟨t', found', (id_of_find? found').trans (id_of_find? found).symm, shape⟩

/-- What a scene admits is a matter of its outline, up to values and places. -/
theorem Admits.of_outline {s' : Scene} {e' : Entity} (same : s'.outline = s.outline)
    (h : s.Admits e) (id : e'.id = e.id) (shape : e'.shape = e.shape) :
    ∃ v, s'.Admits { e' with values := v } := by
  obtain ⟨id', shape', values', span'⟩ := e'
  subst id shape
  cases h with
  | point isName first second => exact ⟨_, .point isName first second⟩
  | @made kind id targets span notPoint command isName arity declared isAngle =>
      let again (t : Entity) : Entity := (s'.find? t.id).getD t
      have found : ∀ t ∈ targets, s'.find? t.id = some (again t) ∧ (again t).id = t.id ∧
          (again t).kind = t.kind := by
        intro t member
        obtain ⟨t', found, id, shape⟩ := exists_find?_of_outline same (declared t member).2
        have here : again t = t' := by simp only [again, found, Option.getD_some]
        rw [here]
        exact ⟨found, id, congrArg Shape.kind shape⟩
      have ids : (targets.map again).map Entity.id = targets.map Entity.id := by
        rw [List.map_map]
        exact List.map_congr_left fun t member => (found t member).2.1
      refine ⟨Statement.valuesOf kind (targets.map again), ?_⟩
      rw [← ids]
      refine .made notPoint command isName (by rw [List.length_map, arity]) ?_ ?_
      · rw [List.forall_mem_map]
        intro t member
        obtain ⟨here, id, -⟩ := found t member
        rw [id]
        exact ⟨(declared t member).1, here⟩
      · rw [List.forall_mem_map]
        intro bisector t member
        exact (found t member).2.2.trans (isAngle bisector t member)

theorem Admits.isName (h : s.Admits e) : IsName e.id := by
  cases h with
  | point isName => exact isName
  | made _ _ isName => exact isName

theorem Declared.push (h : s.Declared) (admitted : s.Admits e) : (s.push e).Declared := by
  intro i e' position
  obtain old | ⟨rfl, rfl⟩ := getElem?_push_eq_some_iff.mp position
  · rw [before_push e (Nat.le_of_lt (lt_size_of_getElem? old))]
    exact h i e' old
  · rw [before_push e' (Nat.le_refl _), before_size]
    exact admitted

/-- Every entity is one that a line may declare on top of the entities before it, up to values. -/
def Declarable (s : Scene) : Prop :=
  ∀ (i : Nat) (e : Entity), s.entities[i]? = some e →
    ∃ v, (s.before i).Admits { e with values := v }

theorem outline_before (s : Scene) (i : Nat) : (s.before i).outline = s.outline.take i :=
  List.map_take

/-- To be declarable is a matter of the outline. -/
theorem Declared.declarable {t : Scene} (h : t.Declared) (same : s.outline = t.outline) :
    s.Declarable := by
  intro i e position
  have here : t.outline[i]? = some (e.id, e.shape) := by
    rw [← same, outline, List.getElem?_map, position, Option.map_some]
  obtain ⟨e₀, position₀, alike⟩ := Option.map_eq_some_iff.mp (List.getElem?_map.symm.trans here)
  obtain ⟨id, shape⟩ := Prod.mk.inj alike
  have before : (s.before i).outline = (t.before i).outline := by
    rw [outline_before, outline_before, same]
  exact (h i e₀ position₀).of_outline before id.symm shape.symm

theorem Declarable.of_push (h : (s.push e).Declarable) :
    s.Declarable ∧ ∃ v, s.Admits { e with values := v } := by
  constructor
  · intro i e' position
    have admitted := h i e' (getElem?_push_eq_some_iff.mpr (.inl position))
    rwa [before_push e (Nat.le_of_lt (lt_size_of_getElem? position))] at admitted
  · have admitted := h s.size e (getElem?_push_eq_some_iff.mpr (.inr ⟨rfl, rfl⟩))
    rwa [before_push e (Nat.le_refl _), before_size] at admitted

end Scene

/-! ## Rounded scenes -/

namespace Entity

/-- A point that prints two integers, neither of which is too long to be read. -/
structure PrintsAt (e : Entity) (x y : Int) : Prop where
  rounds : e.RoundsTo x y
  first : x.natAbs < 10 ^ Statement.maxDigits
  second : y.natAbs < 10 ^ Statement.maxDigits

theorem roundsTo_ofPoint {e : Entity} {x y : Int} (values : e.values = .ofPoint (.int x) (.int y)) :
    e.RoundsTo x y := by
  rw [RoundsTo, values]
  exact ⟨.int x, .int y, rfl, rfl, .int x, .int y⟩

/-- The entity at two integers. -/
def atIntegers (e : Entity) (x y : Int) : Entity :=
  { e with values := .ofPoint (.int x) (.int y) }

/-- A point prints the same at the integers that its coordinates are nearest to. -/
theorem command_atIntegers {e : Entity} {x y : Int} (isPoint : e.kind = .point)
    (rounds : e.RoundsTo x y) : (e.atIntegers x y).command = e.command := by
  have rounds' : (e.atIntegers x y).RoundsTo x y := roundsTo_ofPoint rfl
  have there : (e.atIntegers x y).command = _ := command_of_roundsTo isPoint rounds'
  exact there.trans (command_of_roundsTo isPoint rounds).symm

theorem shape_of_isPoint {e : Entity} (isPoint : e.kind = .point) : e.shape = .point := by
  obtain ⟨id, shape, values, span⟩ := e
  cases shape <;> first | rfl | cases isPoint

/-- What is no point prints its id and its references only. -/
theorem command_withValues {e : Entity} (notPoint : e.kind ≠ .point) (v : Values) :
    command { e with values := v } = e.command := by
  obtain ⟨id, shape, values, span⟩ := e
  cases shape <;> first | rfl | exact absurd rfl notPoint

end Entity

namespace Scene

variable {s r : Scene} {e : Entity}

/-- A scene with the points at the natural numbers that their coordinates are nearest to, and
everything else as it prints. -/
structure RoundedTo (s r : Scene) : Prop where
  outline : r.outline = s.outline
  commands : r.entities.map Entity.command = s.entities.map Entity.command
  points : ∀ (j : Nat) (e : Entity), s.entities[j]? = some e → e.kind = .point →
    ∃ x y : Nat, e.RoundsTo x y ∧
      ∃ e', r.entities[j]? = some e' ∧ e'.values = .ofPoint (.int x) (.int y)

theorem outline_push (s : Scene) (e : Entity) :
    (s.push e).outline = s.outline ++ [(e.id, e.shape)] := by
  simp [outline]

/-- One more entity is rounded along with a scene. -/
theorem RoundedTo.push (h : s.RoundedTo r) {e e' : Entity} (id : e'.id = e.id)
    (shape : e'.shape = e.shape) (command : e'.command = e.command)
    (point : e.kind = .point →
      ∃ x y : Nat, e.RoundsTo x y ∧ e'.values = .ofPoint (.int x) (.int y)) :
    (s.push e).RoundedTo (r.push e') where
  outline := by rw [outline_push, outline_push, h.outline, id, shape]
  commands := by
    rw [entities_push, entities_push, List.map_append, List.map_append, h.commands,
      List.map_singleton, List.map_singleton, command]
  points := by
    intro j e₁ position isPoint
    have size : r.size = s.size := size_eq_of_outline h.outline
    obtain old | ⟨rfl, rfl⟩ := getElem?_push_eq_some_iff.mp position
    · obtain ⟨x, y, rounds, e₂, position', values⟩ := h.points j e₁ old isPoint
      exact ⟨x, y, rounds, e₂, getElem?_push_eq_some_iff.mpr (.inl position'), values⟩
    · obtain ⟨x, y, rounds, values⟩ := point isPoint
      exact ⟨x, y, rounds, e', getElem?_push_eq_some_iff.mpr (.inr ⟨size.symm, rfl⟩), values⟩

/-- Any scene admits a point at natural numbers that are not too long. -/
theorem admits_atIntegers (r : Scene) {e : Entity} {x y : Nat} (isName : IsName e.id)
    (isPoint : e.kind = .point) (prints : e.PrintsAt x y) : r.Admits (e.atIntegers x y) := by
  have first := prints.first
  have second := prints.second
  rw [Int.natAbs_natCast] at first second
  have shape := Entity.shape_of_isPoint isPoint
  obtain ⟨id, _, values, span⟩ := e
  obtain rfl := shape
  exact .point isName first second

/-- A declarable scene whose points print natural numbers is one that could have been read, with
the points rounded. -/
theorem exists_rounded (declarable : s.Declarable)
    (natural : ∀ e ∈ s.entities, e.kind = .point → ∃ x y : Nat, e.PrintsAt x y) :
    ∃ r, r.Declared ∧ s.RoundedTo r := by
  obtain ⟨es⟩ := s
  induction es using List.reverseRecOn with
  | nil => exact ⟨⟨[]⟩, by simp [Declared], by constructor <;> simp⟩
  | append_singleton es e ih =>
      obtain ⟨earlier, v, admitted⟩ : (Scene.mk es).Declarable ∧
          ∃ v, (Scene.mk es).Admits { e with values := v } := declarable.of_push
      obtain ⟨r, declared, rounded⟩ := ih earlier fun e member =>
        natural e (List.mem_append_left _ member)
      by_cases isPoint : e.kind = .point
      · obtain ⟨x, y, prints⟩ := natural e (by simp) isPoint
        have isName : IsName e.id := admitted.isName
        have admitted' := admits_atIntegers r isName isPoint prints
        refine ⟨_, declared.push admitted', rounded.push rfl rfl ?_ fun _ => ?_⟩
        · exact Entity.command_atIntegers isPoint prints.rounds
        · exact ⟨x, y, prints.rounds, rfl⟩
      · obtain ⟨v', admitted'⟩ := admitted.of_outline rounded.outline rfl rfl
        refine ⟨_, declared.push admitted', rounded.push rfl rfl ?_ fun impossible => ?_⟩
        · exact Entity.command_withValues isPoint v'
        · exact absurd impossible isPoint

/-! ## Reading what was printed -/

/-- Entities that print as lines without a break print as these lines. -/
theorem exists_printEntities {es : List Entity}
    (lines : ∀ e ∈ es, ∃ line, Unbroken line ∧ e.command = .ok (String.ofList line)) :
    ∃ printed, printEntities es = .ok printed ∧
      es.map Entity.command =
        (Text.lines printed.toList).map fun line => .ok (String.ofList line) := by
  induction es with
  | nil => exact ⟨"", rfl, rfl⟩
  | cons e es ih =>
      obtain ⟨⟨line, unbroken, command⟩, later⟩ := List.forall_mem_cons.mp lines
      obtain ⟨rest, printed, commands⟩ := ih later
      refine ⟨String.ofList line ++ "\n" ++ rest, ?_, ?_⟩
      · rw [printEntities, command, printed]
        rfl
      · have split : Text.lines (String.ofList line ++ "\n" ++ rest).toList =
            line :: Text.lines rest.toList := by
          rw [String.toList_append, String.toList_append, List.append_assoc, String.toList_ofList]
          exact Text.lines_append_newline rest.toList unbroken
        rw [split, List.map_cons, List.map_cons, command, commands]

/-- The print is a matter of the commands. -/
theorem printEntities_congr {es es' : List Entity}
    (same : es'.map Entity.command = es.map Entity.command) :
    printEntities es' = printEntities es := by
  induction es generalizing es' with
  | nil => rw [List.map_eq_nil_iff.mp same]
  | cons e es ih =>
      obtain ⟨e', es', rfl, here, later⟩ := List.map_eq_cons_iff.mp same
      rw [printEntities, printEntities, here, ih later]

/-- The line of an admitted entity, or of a point that was moved. -/
theorem exists_line_of_admits {v : Values} (admitted : s.Admits { e with values := v })
    (rounds : e.kind = .point → ∃ x y, e.RoundsTo x y) :
    ∃ line, Unbroken line ∧ e.command = .ok (String.ofList line) := by
  by_cases isPoint : e.kind = .point
  · obtain ⟨x, y, rounds⟩ := rounds isPoint
    exact ⟨_, Entity.unbroken_pointLine admitted.isName x y,
      Entity.command_of_roundsTo isPoint rounds⟩
  · obtain ⟨text, command, unbroken, -⟩ := exists_command_of_admits admitted rfl
    rw [Entity.command_withValues isPoint] at command
    exact ⟨text.toList, unbroken, by rw [command, String.ofList_toList]⟩

/-- Every point prints two integers. -/
def PointsRound (s : Scene) : Prop :=
  ∀ e ∈ s.entities, e.kind = .point → ∃ x y, e.PrintsAt x y

/-- Every point is nearest to two natural numbers. -/
def PointsNatural (s : Scene) : Prop :=
  ∀ e ∈ s.entities, e.kind = .point → ∃ x y : Nat, e.RoundsTo x y

theorem Declarable.exists_of_mem (h : s.Declarable) (member : e ∈ s.entities) :
    ∃ (earlier : Scene) (v : Values), earlier.Admits { e with values := v } := by
  obtain ⟨i, position⟩ := List.getElem?_of_mem member
  exact ⟨_, h i e position⟩

theorem exists_print (declarable : s.Declarable) (points : s.PointsRound) :
    ∃ printed, s.print = .ok printed ∧
      s.entities.map Entity.command =
        (Text.lines printed.toList).map fun line => .ok (String.ofList line) := by
  apply exists_printEntities
  intro e member
  obtain ⟨earlier, v, admitted⟩ := declarable.exists_of_mem member
  apply exists_line_of_admits admitted
  intro isPoint
  obtain ⟨x, y, prints⟩ := points e member isPoint
  exact ⟨x, y, prints.rounds⟩

/-- If as many entities are read as were printed, no point has printed a sign. -/
theorem natural_of_outline_read {printed : String} (declarable : s.Declarable)
    (points : s.PointsRound)
    (commands : s.entities.map Entity.command =
      (Text.lines printed.toList).map fun line => .ok (String.ofList line))
    (same : (read printed).scene.outline = s.outline) : s.PointsNatural := by
  have full : (read printed).scene.size =
      Reading.start.scene.size + (Text.lines printed.toList).length := by
    have lengths := congrArg List.length commands
    rw [List.length_map, List.length_map] at lengths
    rw [size_eq_of_outline same, size, lengths]
    exact (Nat.zero_add _).symm
  intro e member isPoint
  have command : e.command ∈ s.entities.map Entity.command := List.mem_map_of_mem member
  rw [commands] at command
  obtain ⟨line, inLines, command⟩ := List.mem_map.mp command
  obtain ⟨s', n, e', declared⟩ := Reading.exists_declared?_of_size_lines full line inLines
  obtain ⟨x, y, prints⟩ := points e member isPoint
  rw [Entity.command_of_roundsTo isPoint prints.rounds] at command
  obtain rfl := String.ofList_injective (Except.ok.inj command)
  obtain ⟨earlier, v, admitted⟩ := declarable.exists_of_mem member
  have isName : IsName e.id := admitted.isName
  obtain ⟨first, second⟩ := nonneg_of_declared? isName declared
  obtain ⟨m, rfl⟩ := Int.eq_ofNat_of_zero_le first
  obtain ⟨n, rfl⟩ := Int.eq_ofNat_of_zero_le second
  exact ⟨m, n, prints.rounds⟩

theorem outline_withoutSpans (s : Scene) : s.withoutSpans.outline = s.outline := by
  rw [outline, withoutSpans, List.map_map]
  rfl

theorem commands_withoutSpans (s : Scene) :
    s.withoutSpans.entities.map Entity.command = s.entities.map Entity.command := by
  rw [withoutSpans, List.map_map]
  rfl

/-- Places make no difference to what a scene is rounded to. -/
theorem RoundedTo.of_withoutSpans {t : Scene} (h : s.RoundedTo r)
    (same : t.withoutSpans = r.withoutSpans) : s.RoundedTo t where
  outline := by rw [← outline_withoutSpans, same, outline_withoutSpans, h.outline]
  commands := by rw [← commands_withoutSpans, same, commands_withoutSpans, h.commands]
  points := by
    intro j e position isPoint
    obtain ⟨x, y, rounds, e', position', values⟩ := h.points j e position isPoint
    have here := congrArg (·.entities[j]?) same
    simp only [withoutSpans, List.getElem?_map, position', Option.map_some] at here
    obtain ⟨e₂, position₂, alike⟩ := Option.map_eq_some_iff.mp here
    have sameValues : e₂.values = e'.values := congrArg (·.values) alike
    exact ⟨x, y, rounds, e₂, position₂, sameValues.trans values⟩

/-- When no point prints a sign, the strict reading of the print gives the rounded scene. -/
theorem exists_readStrict_print {printed : String} (declarable : s.Declarable)
    (points : s.PointsRound) (natural : s.PointsNatural) (prints : s.print = .ok printed) :
    ∃ t, readStrict printed = .ok t ∧ s.RoundedTo t := by
  have prints' : ∀ e ∈ s.entities, e.kind = .point → ∃ x y : Nat, e.PrintsAt x y := by
    intro e member isPoint
    obtain ⟨x, y, rounds⟩ := natural e member isPoint
    obtain ⟨x', y', prints⟩ := points e member isPoint
    obtain ⟨rfl, rfl⟩ := prints.rounds.unique rounds
    exact ⟨x, y, prints⟩
  obtain ⟨r, declared, rounded⟩ := exists_rounded declarable prints'
  obtain ⟨text, printed', t, reads, same⟩ :=
    exists_strictLines_print [] r.entities declared (s := .empty) rfl 1
  have text : text = printed := by
    rw [printEntities_congr rounded.commands] at printed'
    exact Except.ok.inj (printed'.symm.trans prints)
  subst text
  exact ⟨t, reads, rounded.of_withoutSpans same⟩

/-- What an entity between two others keeps of one of them in the print of a scene: the integers
that its coordinates are nearest to if it is a point, and nothing otherwise. -/
inductive RoundedEnd (s : Scene) (xKey yKey id : String) : List (String × Option Num) → Prop where
  | point {x y : Nat} {t : Entity} (found : s.find? id = some t) (isPoint : t.kind = .point)
      (rounds : t.RoundsTo x y) :
      RoundedEnd s xKey yKey id [(xKey, some (.int x)), (yKey, some (.int y))]
  | other {t : Entity} (found : s.find? id = some t) (notPoint : t.kind ≠ .point) :
      RoundedEnd s xKey yKey id []

/-- What the print of a scene is read as: the same entities, with every point at the integers that
its coordinates are nearest to, and with these integers for the ends of lines, segments and
rays. -/
structure Reprinted (s t : Scene) : Prop extends RoundedTo s t where
  strokes : ∀ e ∈ t.entities, e.kind ∈ [.line, .segment, .ray] → ∃ start stop first second,
    e.references = [start, stop] ∧ RoundedEnd s "x1" "y1" start first ∧
      RoundedEnd s "x2" "y2" stop second ∧ e.values = ⟨first ++ second⟩

theorem RoundedTo.roundedEnd {t : Scene} (h : s.RoundedTo t) (declared : t.Declared)
    {xKey yKey : String} {a : Entity} (found : t.find? a.id = some a) :
    RoundedEnd s xKey yKey a.id ([(xKey, a.values.get? "x"), (yKey, a.values.get? "y")].filterMap
      fun (key, entry) => entry.map (key, ·)) := by
  obtain ⟨j, index, position⟩ := exists_index?_of_find? found
  obtain ⟨a₀, found₀, -, shape⟩ := exists_find?_of_outline h.outline.symm found
  have kind : a₀.kind = a.kind := congrArg Shape.kind shape
  have position₀ : s.entities[j]? = some a₀ := by
    rw [← found₀]
    apply getElem?_of_index?
    rw [← index?_eq_of_outline h.outline, index]
  by_cases isPoint : a.kind = .point
  · obtain ⟨x, y, rounds, a', position', values⟩ := h.points j a₀ position₀ (kind.trans isPoint)
    obtain rfl := Option.some.inj (position.symm.trans position')
    rw [values]
    exact .point found₀ (kind.trans isPoint) rounds
  · obtain ⟨noX, noY⟩ := (declared j a position).get?_eq_none isPoint
    rw [noX, noY]
    exact .other found₀ (kind ▸ isPoint)

theorem RoundedTo.reprinted {t : Scene} (h : s.RoundedTo t) (declared : t.Declared) :
    s.Reprinted t where
  toRoundedTo := h
  strokes := by
    intro e member isStroke
    obtain ⟨i, position⟩ := List.getElem?_of_mem member
    obtain ⟨a, b, foundA, foundB, ends, values⟩ :=
      (declared i e position).values_eq_snapshot isStroke
    have split : Statement.snapshot a.values b.values = ⟨_ ++ _⟩ :=
      congrArg Values.mk (List.filterMap_append (l := [("x1", _), ("y1", _)]))
    exact ⟨a.id, b.id, _, _, ends, h.roundedEnd declared (find?_of_before foundA),
      h.roundedEnd declared (find?_of_before foundB), values.trans split⟩

/-- A declarable scene whose points round to integers prints, and all its entities are read again
exactly if no point prints a sign. -/
theorem print_of_declarable (declarable : s.Declarable) (points : s.PointsRound) :
    ∃ printed, s.print = .ok printed ∧
      ((read printed).scene.outline = s.outline ↔ s.PointsNatural) ∧
      (s.PointsNatural → readStrict printed = .ok (read printed).scene ∧
        s.Reprinted (read printed).scene ∧ (read printed).scene.print = .ok printed) := by
  obtain ⟨printed, prints, commands⟩ := exists_print declarable points
  have whole : s.PointsNatural → readStrict printed = .ok (read printed).scene ∧
      s.RoundedTo (read printed).scene := by
    intro natural
    obtain ⟨t, reads, rounded⟩ := exists_readStrict_print declarable points natural prints
    obtain rfl := scene_read_of_readStrict reads
    exact ⟨reads, rounded⟩
  refine ⟨printed, prints, ⟨?_, fun natural => (whole natural).2.outline⟩, ?_⟩
  · exact natural_of_outline_read declarable points commands
  · intro natural
    obtain ⟨reads, rounded⟩ := whole natural
    exact ⟨reads, rounded.reprinted (declared_read printed),
      (printEntities_congr rounded.commands).trans prints⟩

end Scene

end Straightedge
