import Mathlib.Data.Nat.Find
import Straightedge.Proofs.Scene.Declared
import Straightedge.Proofs.Text.Lines

/-!
# Strict and lenient reading

Both readings go through the lines of a text and read each of them against the
scene so far, so they agree up to the first line that is dropped; there the strict
one stops. A dropped line leaves no trace: the scene after it is the scene before
it, as after an empty line. So with every dropped line emptied nothing is dropped
any more, and the strict reading gives the scene of the lenient one.
-/

namespace Straightedge

open Text (Unbroken joinLines)

namespace Reading

/-- The numbers of the lines dropped. -/
def numbers (r : Reading) : List Nat := r.dropped.map Prod.fst

/-- What was dropped before has no influence on what is read. -/
theorem lines_eq (s : Scene) (before : List (Nat × StatementError)) (number : Nat)
    (ls : List (List Char)) :
    (Reading.mk s before).lines number ls =
      ⟨((Reading.mk s []).lines number ls).scene,
        before ++ ((Reading.mk s []).lines number ls).dropped⟩ := by
  induction ls generalizing s before number with
  | nil => simp [lines]
  | cons line ls ih =>
      rw [lines, lines, next, next]
      rcases s.declared? number line with err | _ | e
      · dsimp only
        rw [ih s (before ++ _), ih s ([] ++ _)]
        simp
      · exact ih s before (number + 1)
      · exact ih (s.push e) before (number + 1)

end Reading

namespace Scene

/-- The lenient reading of lines on top of a scene, the first of them with the given number. -/
def readLines (s : Scene) (first : Nat) (ls : List (List Char)) : Reading :=
  (Reading.mk s []).lines first ls

/-- The scene after one more line. -/
def after (s : Scene) (number : Nat) (line : List Char) : Scene :=
  ((Reading.mk s []).next number line).scene

variable {s : Scene} {first number n : Nat} {line : List Char} {ls : List (List Char)}
  {err : StatementError}

@[simp] theorem readLines_nil (s : Scene) (first : Nat) : s.readLines first [] = ⟨s, []⟩ := rfl

/-- Lines are read one after the other, the later ones on top of what the earlier ones declare. -/
theorem readLines_append (s : Scene) (first : Nat) (earlier later : List (List Char)) :
    let before := s.readLines first earlier
    let behind := before.scene.readLines (first + earlier.length) later
    s.readLines first (earlier ++ later) = ⟨behind.scene, before.dropped ++ behind.dropped⟩ := by
  intro before behind
  rw [readLines, Reading.lines_append, Reading.lines_eq]
  rfl

theorem scene_readLines_cons (s : Scene) (first : Nat) (line : List Char)
    (ls : List (List Char)) : (s.readLines first (line :: ls)).scene =
      ((s.after first line).readLines (first + 1) ls).scene := by
  rw [readLines, Reading.lines, Reading.lines_eq]
  rfl

/-- A line is dropped exactly if it fails, and the lines after it are read against what it left. -/
theorem mem_dropped_cons_iff :
    (n, err) ∈ (s.readLines first (line :: ls)).dropped ↔
      n = first ∧ s.declared? first line = .error err ∨
        (n, err) ∈ ((s.after first line).readLines (first + 1) ls).dropped := by
  have here : (n, err) ∈ ((Reading.mk s []).next first line).dropped ↔
      n = first ∧ s.declared? first line = .error err := by
    unfold Reading.next
    rcases s.declared? first line with other | _ | e <;> simp [eq_comm]
  rw [readLines, Reading.lines, Reading.lines_eq, List.mem_append, here]
  rfl

theorem after_of_error (h : s.declared? number line = .error err) : s.after number line = s := by
  simp only [after, Reading.next, h]

theorem after_of_none (h : s.declared? number line = .ok none) : s.after number line = s := by
  simp only [after, Reading.next, h]

theorem after_of_some {e : Entity} (h : s.declared? number line = .ok (some e)) :
    s.after number line = s.push e := by
  simp only [after, Reading.next, h]

/-- One of some lines fails against the entities that the lines before it declare. -/
def FailsAt (s : Scene) (first : Nat) (ls : List (List Char)) (n : Nat) (err : StatementError)
    (line : List Char) : Prop :=
  ∃ earlier later, ls = earlier ++ line :: later ∧ n = first + earlier.length ∧
    (s.readLines first earlier).scene.declared? n line = .error err

theorem failsAt_nil : ¬s.FailsAt first [] n err line := by
  rintro ⟨earlier, later, split, -⟩
  simp at split

theorem failsAt_cons_iff {here : List Char} :
    s.FailsAt first (here :: ls) n err line ↔
      (n = first ∧ line = here ∧ s.declared? first here = .error err) ∨
        (s.after first here).FailsAt (first + 1) ls n err line := by
  constructor
  · rintro ⟨earlier, later, split, rfl, fails⟩
    cases earlier with
    | nil =>
        obtain ⟨rfl, rfl⟩ := List.cons.inj split
        exact .inl ⟨rfl, rfl, fails⟩
    | cons _ earlier =>
        obtain ⟨rfl, rfl⟩ := List.cons.inj split
        rw [scene_readLines_cons] at fails
        refine .inr ⟨earlier, later, rfl, ?_, fails⟩
        rw [List.length_cons]
        omega
  · rintro (⟨rfl, rfl, fails⟩ | ⟨earlier, later, rfl, rfl, fails⟩)
    · exact ⟨[], ls, rfl, rfl, fails⟩
    · refine ⟨here :: earlier, later, rfl, ?_, ?_⟩
      · rw [List.length_cons]
        omega
      · rw [scene_readLines_cons]
        exact fails

/-- The lines dropped are those that fail, with their errors. -/
theorem mem_dropped_iff :
    (n, err) ∈ (s.readLines first ls).dropped ↔ ∃ line, s.FailsAt first ls n err line := by
  induction ls generalizing s first with
  | nil => simp [failsAt_nil]
  | cons here ls ih =>
      simp only [mem_dropped_cons_iff, ih, failsAt_cons_iff, exists_or]
      simp

theorem le_of_failsAt (h : s.FailsAt first ls n err line) : first ≤ n := by
  obtain ⟨earlier, later, -, rfl, -⟩ := h
  omega

/-- A line that fails is the one of its number. -/
theorem getElem?_of_failsAt (h : s.FailsAt first ls n err line) :
    ls[n - first]? = some line := by
  obtain ⟨earlier, later, rfl, rfl, -⟩ := h
  rw [Nat.add_sub_cancel_left, List.getElem?_append_right (Nat.le_refl _), Nat.sub_self,
    List.getElem?_cons_zero]

theorem mem_numbers_iff :
    n ∈ (s.readLines first ls).numbers ↔ ∃ err line, s.FailsAt first ls n err line := by
  constructor
  · intro member
    obtain ⟨⟨_, err⟩, dropped, rfl⟩ := List.mem_map.mp member
    exact ⟨err, mem_dropped_iff.mp dropped⟩
  · rintro ⟨err, failing⟩
    exact List.mem_map.mpr ⟨(n, err), mem_dropped_iff.mpr failing, rfl⟩

/-- A number is that of one line, which fails in one way. -/
theorem FailsAt.unique {err' : StatementError} {line' : List Char}
    (h : s.FailsAt first ls n err line) (h' : s.FailsAt first ls n err' line') :
    err = err' ∧ line = line' := by
  obtain ⟨earlier, later, rfl, rfl, fails⟩ := h
  obtain ⟨earlier', later', split, same, fails'⟩ := h'
  obtain ⟨rfl, rest⟩ := List.append_inj split (by omega)
  obtain ⟨rfl, -⟩ := List.cons.inj rest
  rw [fails] at fails'
  exact ⟨Except.error.inj fails', rfl⟩

/-! ## Strict reading -/

/-- When no line fails, the strict reading gives the scene of the lenient one. -/
theorem strictLines_of_dropped_eq_nil (h : (s.readLines first ls).dropped = []) :
    s.strictLines first ls = .ok (s.readLines first ls).scene := by
  induction ls generalizing s first with
  | nil => rfl
  | cons line ls ih =>
      have none : ∀ n err, (n, err) ∉ (s.readLines first (line :: ls)).dropped := by simp [h]
      simp only [mem_dropped_cons_iff, not_or] at none
      have rest : ((s.after first line).readLines (first + 1) ls).dropped = [] :=
        List.eq_nil_iff_forall_not_mem.mpr fun d => (none d.1 d.2).2
      rw [scene_readLines_cons, ← ih rest, strictLines]
      rcases declared : s.declared? first line with err | _ | e
      · exact absurd ⟨rfl, declared⟩ (none first err).1
      · rw [after_of_none declared]
      · rw [after_of_some declared]

/-- The strict reading stops at the first line that fails. -/
theorem strictLines_of_failsAt (h : s.FailsAt first ls n err line)
    (least : ∀ m ∈ (s.readLines first ls).numbers, n ≤ m) :
    s.strictLines first ls = .error ⟨err, line⟩ := by
  induction ls generalizing s first with
  | nil => exact absurd h failsAt_nil
  | cons here ls ih =>
      rw [strictLines]
      rcases declared : s.declared? first here with other | _ | e
      · have failing : s.FailsAt first (here :: ls) first other here :=
          failsAt_cons_iff.mpr (.inl ⟨rfl, rfl, declared⟩)
        have early := least first (mem_numbers_iff.mpr ⟨other, here, failing⟩)
        obtain rfl := Nat.le_antisymm early (le_of_failsAt h)
        obtain ⟨rfl, rfl⟩ := h.unique failing
        rfl
      all_goals
        have later : (s.after first here).FailsAt (first + 1) ls n err line := by
          rcases failsAt_cons_iff.mp h with ⟨-, -, failed⟩ | later
          · rw [declared] at failed
            cases failed
          · exact later
        have goesOn := ih later fun m member => by
          obtain ⟨err, line, failing⟩ := mem_numbers_iff.mp member
          exact least m (mem_numbers_iff.mpr ⟨err, line, failsAt_cons_iff.mpr (.inr failing)⟩)
      · rwa [after_of_none declared] at goesOn
      · rwa [after_of_some declared] at goesOn

/-- If lines are dropped at all, one of them is the first. -/
theorem exists_least_failsAt (h : (s.readLines first ls).dropped ≠ []) :
    ∃ n err line, s.FailsAt first ls n err line ∧ ∀ m ∈ (s.readLines first ls).numbers, n ≤ m := by
  obtain ⟨d, member⟩ := List.exists_mem_of_ne_nil _ h
  have some : ∃ n, n ∈ (s.readLines first ls).numbers := ⟨d.1, List.mem_map_of_mem member⟩
  classical
  obtain ⟨err, line, failing⟩ := mem_numbers_iff.mp (Nat.find_spec some)
  exact ⟨Nat.find some, err, line, failing, fun m member => Nat.find_min' some member⟩

/-! ## Emptied lines -/

/-- Lines, some of which are emptied. -/
def emptied (dropped : List Nat) (first : Nat) (ls : List (List Char)) : List (List Char) :=
  ls.mapIdx fun i line => if first + i ∈ dropped then [] else line

theorem emptied_cons (dropped : List Nat) (first : Nat) (line : List Char)
    (ls : List (List Char)) : emptied dropped first (line :: ls) =
      (if first ∈ dropped then [] else line) :: emptied dropped (first + 1) ls := by
  simp only [emptied, List.mapIdx_cons, Nat.add_zero, Nat.add_assoc, Nat.add_comm 1]

/-- An empty line declares nothing. -/
theorem declared?_nil (s : Scene) (number : Nat) : s.declared? number [] = .ok none := by
  rw [declared?, Token.lex, Token.lexFrom_nil]
  rfl

/-- With the lines emptied that fail, no line does and the scene is the same. -/
theorem strictLines_emptied {dropped : List Nat}
    (same : ∀ n, first ≤ n → (n ∈ dropped ↔ n ∈ (s.readLines first ls).numbers)) :
    s.strictLines first (emptied dropped first ls) = .ok (s.readLines first ls).scene := by
  induction ls generalizing s first with
  | nil => rfl
  | cons line ls ih =>
      have later : ∀ n, first + 1 ≤ n →
          (n ∈ dropped ↔ n ∈ ((s.after first line).readLines (first + 1) ls).numbers) := by
        intro n greater
        rw [same n (by omega), mem_numbers_iff, mem_numbers_iff]
        simp only [failsAt_cons_iff, show n ≠ first by omega, false_and, false_or]
      have here : first ∈ dropped ↔ ∃ err, s.declared? first line = .error err := by
        rw [same first (Nat.le_refl first), mem_numbers_iff]
        constructor
        · rintro ⟨err, _, failing⟩
          rcases failsAt_cons_iff.mp failing with ⟨-, rfl, fails⟩ | impossible
          · exact ⟨err, fails⟩
          · exact absurd (le_of_failsAt impossible) (by omega)
        · rintro ⟨err, fails⟩
          exact ⟨err, line, failsAt_cons_iff.mpr (.inl ⟨rfl, rfl, fails⟩)⟩
      rw [emptied_cons, scene_readLines_cons, ← ih later, strictLines]
      rcases declared : s.declared? first line with err | _ | e
      · rw [if_pos (here.mpr ⟨err, declared⟩), declared?_nil, after_of_error declared]
      · have kept : first ∉ dropped := by simp [here, declared]
        rw [if_neg kept, declared, after_of_none declared]
      · have kept : first ∉ dropped := by simp [here, declared]
        rw [if_neg kept, declared, after_of_some declared]

/-- An empty line at the end changes nothing. -/
theorem strictLines_append_nil (s : Scene) (first : Nat) (ls : List (List Char)) :
    s.strictLines first (ls ++ [[]]) = s.strictLines first ls := by
  induction ls generalizing s first with
  | nil => simp only [List.nil_append, strictLines, declared?_nil]
  | cons line ls ih =>
      rw [List.cons_append, strictLines, strictLines]
      rcases s.declared? first line with err | _ | e
      · rfl
      · exact ih s (first + 1)
      · exact ih (s.push e) (first + 1)

/-- A strict reading does not notice how its lines are joined. -/
theorem strictLines_lines_joinLines (s : Scene) (first : Nat)
    (unbroken : ∀ l ∈ ls, Unbroken l) :
    s.strictLines first (Text.lines (joinLines ls)) = s.strictLines first ls := by
  have joined := Text.lines_joinLines unbroken
  split at joined
  · rw [← strictLines_append_nil, joined]
  · rw [← List.append_nil (Text.lines _), joined]

/-! ## Texts -/

/-- A line of a text fails against the entities that the lines before it declare. -/
def LineFails (text : String) : Nat → StatementError → List Char → Prop :=
  empty.FailsAt 1 (Text.lines text.toList)

/-- A strict reading that fails has come to the first line that is dropped. -/
theorem exists_of_readStrict {text : String} {r : Refusal} (refused : readStrict text = .error r) :
    ∃ n, LineFails text n r.error r.line ∧ ∀ m ∈ (read text).numbers, n ≤ m := by
  have dropped : (read text).dropped ≠ [] := by
    intro none
    have accepted : readStrict text = .ok (read text).scene := strictLines_of_dropped_eq_nil none
    rw [refused] at accepted
    cases accepted
  obtain ⟨n, err, line, failing, least⟩ := exists_least_failsAt dropped
  have stops : readStrict text = .error ⟨err, line⟩ := strictLines_of_failsAt failing least
  obtain rfl := Except.error.inj (refused.symm.trans stops)
  exact ⟨n, failing, least⟩

/-- The text in which the lines are emptied that a lenient reading drops. -/
def withoutDropped (text : String) : String :=
  String.ofList (joinLines (emptied (read text).numbers 1 (Text.lines text.toList)))

theorem unbroken_of_mem_emptied {dropped : List Nat} (unbroken : ∀ l ∈ ls, Unbroken l) :
    ∀ l ∈ emptied dropped first ls, Unbroken l := by
  intro l member
  obtain ⟨i, within, rfl⟩ := List.mem_mapIdx.mp member
  split
  · exact fun c impossible => nomatch impossible
  · exact unbroken _ (List.getElem_mem within)

/-- With the dropped lines emptied, the strict reading gives the scene of the lenient one. -/
theorem readStrict_withoutDropped (text : String) :
    readStrict (withoutDropped text) = .ok (read text).scene := by
  have unbroken : ∀ l ∈ Text.lines text.toList, Unbroken l :=
    fun _ => Text.unbroken_of_mem_lines
  rw [readStrict, withoutDropped, String.toList_ofList,
    strictLines_lines_joinLines _ _ (unbroken_of_mem_emptied unbroken)]
  exact strictLines_emptied fun _ _ => Iff.rfl

/-- A text that is accepted strictly is read leniently as the same scene. -/
theorem scene_read_of_readStrict {text : String} {t : Scene} (h : readStrict text = .ok t) :
    (read text).scene = t := by
  have noneDropped : (read text).dropped = [] := by
    by_contra some
    obtain ⟨n, err, line, failing, least⟩ := exists_least_failsAt some
    have refused : readStrict text = .error ⟨err, line⟩ := strictLines_of_failsAt failing least
    rw [h] at refused
    cases refused
  have accepted : readStrict text = .ok (read text).scene :=
    strictLines_of_dropped_eq_nil noneDropped
  exact Except.ok.inj (accepted.symm.trans h)

/-- The lenient reading always gives a scene. The strict one gives a scene exactly if no line is
dropped, and then the same; otherwise it refuses the first line that is dropped, for the reason
why that line fails. The dropped lines leave no trace: with them emptied, the strict reading gives
the scene of the lenient one. -/
theorem ofText_strict_lenient (text : String) :
    ofText false text = .ok (read text).scene ∧
      (∀ n err, (n, err) ∈ (read text).dropped ↔ ∃ line, LineFails text n err line) ∧
      ((∃ s, ofText true text = .ok s) ↔ (read text).numbers = []) ∧
      ((read text).numbers = [] → ofText true text = ofText false text) ∧
      ((read text).numbers ≠ [] → ∃ n err line, n ∈ (read text).numbers ∧
        (∀ m ∈ (read text).numbers, n ≤ m) ∧ LineFails text n err line ∧
        ofText true text = .error ⟨err, line⟩) ∧
      ofText true (withoutDropped text) = ofText false text := by
  have noneDropped : (read text).numbers = [] → ofText true text = ofText false text :=
    fun none => strictLines_of_dropped_eq_nil (List.map_eq_nil_iff.mp none)
  have someDropped : (read text).numbers ≠ [] → ∃ n err line, n ∈ (read text).numbers ∧
      (∀ m ∈ (read text).numbers, n ≤ m) ∧ LineFails text n err line ∧
      ofText true text = .error ⟨err, line⟩ := by
    intro some
    obtain ⟨n, err, line, failing, least⟩ :=
      exists_least_failsAt fun none => some (List.map_eq_nil_iff.mpr none)
    exact ⟨n, err, line, mem_numbers_iff.mpr ⟨err, line, failing⟩, least, failing,
      strictLines_of_failsAt failing least⟩
  have lenient : ofText false text = .ok (read text).scene := rfl
  have emptied : ofText true (withoutDropped text) = ofText false text := by
    have strict : ∀ t, ofText true t = readStrict t := fun _ => rfl
    rw [strict, lenient, readStrict_withoutDropped]
  refine ⟨lenient, fun n err => mem_dropped_iff,
    ⟨?_, fun none => ⟨_, (noneDropped none).trans lenient⟩⟩, noneDropped, someDropped, emptied⟩
  rintro ⟨s, accepted⟩
  by_contra some
  obtain ⟨n, err, line, -, -, -, refused⟩ := someDropped some
  rw [accepted] at refused
  cases refused

end Scene

end Straightedge
