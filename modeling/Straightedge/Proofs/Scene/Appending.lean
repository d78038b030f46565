import Straightedge.Proofs.Scene.Strict

/-!
# Appending to a text

A text that is appended to another after a line feed is read on top of what the
first text declares. A line never takes an entity back, so everything the first
text declares stays as it is, whatever ids the second one declares again; and when
no line of the first is dropped, a strict reading can only stop in the second.
-/

namespace Straightedge.Scene

variable {s : Scene} {first n : Nat} {line : List Char} {earlier later : List (List Char)}
  {err : StatementError}

/-- A line keeps all entities and adds at most one at the end. -/
theorem entities_isPrefix_after (s : Scene) (number : Nat) (line : List Char) :
    s.entities <+: (s.after number line).entities := by
  obtain same | ⟨e, -, pushed⟩ := Reading.scene_next (Reading.mk s []) number line
  · simp only [after, same, List.prefix_rfl]
  · rw [after, pushed]
    exact List.prefix_append _ _

/-- Lines keep all entities that were declared before them. -/
theorem entities_isPrefix_readLines (s : Scene) (first : Nat) (ls : List (List Char)) :
    s.entities <+: (s.readLines first ls).scene.entities := by
  induction ls generalizing s first with
  | nil => exact List.prefix_rfl
  | cons line ls ih =>
      rw [scene_readLines_cons]
      exact (entities_isPrefix_after s first line).trans (ih (s.after first line) (first + 1))

/-- A line that fails is one of the earlier lines, or one of the later lines on top of what the
earlier ones declare. -/
theorem failsAt_append_iff :
    s.FailsAt first (earlier ++ later) n err line ↔
      s.FailsAt first earlier n err line ∨
        (s.readLines first earlier).scene.FailsAt (first + earlier.length) later n err line := by
  induction earlier generalizing s first with
  | nil => simp [failsAt_nil]
  | cons here earlier ih =>
      rw [List.cons_append, failsAt_cons_iff, failsAt_cons_iff, ih, scene_readLines_cons, or_assoc,
        List.length_cons, Nat.add_right_comm, Nat.add_assoc first]

/-- An empty line at the end leaves nothing behind. -/
theorem readLines_append_nil (s : Scene) (first : Nat) (ls : List (List Char)) :
    s.readLines first (ls ++ [[]]) = s.readLines first ls := by
  have empty : ∀ (t : Scene) (n : Nat), t.readLines n [[]] = ⟨t, []⟩ := by
    intro t n
    simp only [readLines, Reading.lines, Reading.next, declared?_nil]
  rw [readLines_append, empty, List.append_nil]

/-- A line feed at the end of a text leaves nothing behind. -/
theorem readLines_ended (text : String) :
    empty.readLines 1 (Text.lines (text ++ "\n").toList) = read text := by
  have ended : (text ++ "\n").toList = text.toList ++ ['\n'] := by simp
  rw [ended]
  obtain same | more := Text.lines_append_newline_cases text.toList
  · rw [same]
    rfl
  · rw [more, readLines_append_nil]
    rfl

theorem lines_appended (earlier later : String) :
    Text.lines (earlier ++ "\n" ++ later).toList =
      Text.lines (earlier ++ "\n").toList ++ Text.lines later.toList := by
  have split : (earlier ++ "\n" ++ later).toList = earlier.toList ++ '\n' :: later.toList := by simp
  have ended : (earlier ++ "\n").toList = earlier.toList ++ ['\n'] := by simp
  rw [split, ended]
  exact Text.lines_append_cons_newline earlier.toList later.toList

/-- Appending to a text never changes what is declared already. The lines of the whole are those of
the first text, ended by the line feed, and then those of the second. All that the first text
declares is the beginning of what the whole declares, and what it drops the beginning of what the
whole drops. If it drops nothing and a strict reading of the whole fails, the first line that fails
is a line of the second text. -/
theorem read_appended (earlier later : String) :
    Text.lines (earlier ++ "\n" ++ later).toList =
        Text.lines (earlier ++ "\n").toList ++ Text.lines later.toList ∧
      (read earlier).scene.entities <+: (read (earlier ++ "\n" ++ later)).scene.entities ∧
      (read earlier).dropped <+: (read (earlier ++ "\n" ++ later)).dropped ∧
      ((read earlier).dropped = [] → ∀ r, readStrict (earlier ++ "\n" ++ later) = .error r →
        ∃ n k, LineFails (earlier ++ "\n" ++ later) n r.error r.line ∧
          (∀ m ∈ (read (earlier ++ "\n" ++ later)).numbers, n ≤ m) ∧
          n = (Text.lines (earlier ++ "\n").toList).length + k + 1 ∧
          (Text.lines later.toList)[k]? = some r.line) := by
  have cut := lines_appended earlier later
  have same := readLines_ended earlier
  generalize earlier ++ "\n" ++ later = whole at cut ⊢
  generalize Text.lines (earlier ++ "\n").toList = before at cut same ⊢
  have reading : read whole =
      let behind := (read earlier).scene.readLines (1 + before.length) (Text.lines later.toList)
      ⟨behind.scene, (read earlier).dropped ++ behind.dropped⟩ := by
    change empty.readLines 1 _ = _
    rw [cut, readLines_append, same]
  refine ⟨cut, ?_, ?_, ?_⟩
  · rw [reading]
    exact entities_isPrefix_readLines _ _ _
  · rw [reading]
    exact List.prefix_append _ _
  · intro noneDropped r refused
    obtain ⟨n, failing, least⟩ := exists_of_readStrict refused
    have place := failing
    rw [LineFails, cut, failsAt_append_iff, same] at place
    obtain early | late := place
    · have dropped : (n, r.error) ∈ (empty.readLines 1 before).dropped :=
        mem_dropped_iff.mpr ⟨r.line, early⟩
      rw [same, noneDropped] at dropped
      exact absurd dropped List.not_mem_nil
    · have behind := le_of_failsAt late
      exact ⟨n, n - (1 + before.length), failing, least, by omega, getElem?_of_failsAt late⟩

/-- The second text declares an id again and then refers to it; the first declaration counts. -/
example :
    let earlier := "Point A (1, 2)\r"
    let whole := earlier ++ "\n" ++ "Point A (3, 4)\nSegment s A A\nRay r A Z"
    (read whole).scene.entities.take 1 = (read earlier).scene.entities ∧
      ((read whole).scene.entities.map fun e => e.values.number? "x1") =
        [none, none, some (.int 1)] ∧
      (read whole).numbers = [4] := by
  decide +kernel

end Straightedge.Scene
