import Mathlib.Data.List.Induction
import Straightedge.Proofs.Scene.Admission

/-!
# Scenes that were read

Every entity of a scene that was read stems from one line of the text, which was
read against exactly the entities before it. So such a scene is `Declared`: each
of its entities is one that the entities before it admit. This is the invariant
from which the properties of all scenes that were read are derived; it speaks
about the finished scene only.
-/

namespace Straightedge

namespace Scene

/-- Every entity is one that a line may declare on top of the entities before it. -/
def Declared (s : Scene) : Prop :=
  ∀ (i : Nat) (e : Entity), s.entities[i]? = some e → (s.before i).Admits e

/-- The statement of a line of the text that declared the entity at a position, read against
the entities before it. -/
structure Origin (text : String) (s : Scene) (i : Nat) (e : Entity) (st : Statement) : Prop where
  line : ∃ earlier line later, Text.lines text.toList = earlier ++ line :: later ∧
    (Reading.start.lines 1 earlier).scene = s.before i ∧
    Statement.ofTokens? (Token.lex (earlier.length + 1) line) = .ok (some st)
  entity : st.toEntity (s.before i) = .ok e

end Scene

namespace Reading

theorem lines_append (r : Reading) (number : Nat) (first rest : List (List Char)) :
    r.lines number (first ++ rest) = (r.lines number first).lines (number + first.length) rest := by
  induction first generalizing r number with
  | nil => rfl
  | cons line first ih =>
      rw [List.cons_append, lines, ih, lines, List.length_cons, Nat.add_right_comm, Nat.add_assoc]

/-- A line leaves the scene as it is or adds the one entity that it declares. -/
theorem scene_next (r : Reading) (number : Nat) (line : List Char) :
    (r.next number line).scene = r.scene ∨
      ∃ e, r.scene.declared? number line = .ok (some e) ∧
        (r.next number line).scene = r.scene.push e := by
  unfold next
  rcases declared : r.scene.declared? number line with err | _ | e
  · exact .inl rfl
  · exact .inl rfl
  · exact .inr ⟨e, rfl, rfl⟩

/-- Every entity was declared by a line that was read against the entities before it. -/
theorem exists_line (texts : List (List Char)) (i : Nat) (e : Entity)
    (h : (start.lines 1 texts).scene.entities[i]? = some e) :
    ∃ earlier line later, texts = earlier ++ line :: later ∧
      (start.lines 1 earlier).scene = (start.lines 1 texts).scene.before i ∧
      (start.lines 1 earlier).scene.declared? (earlier.length + 1) line = .ok (some e) := by
  induction texts using List.reverseRecOn generalizing i e with
  | nil => simp [lines, start, Scene.empty] at h
  | append_singleton texts line ih =>
      have step : start.lines 1 (texts ++ [line]) =
          (start.lines 1 texts).next (texts.length + 1) line := by
        rw [lines_append, lines, lines, Nat.add_comm]
      rw [step] at h ⊢
      rcases scene_next (start.lines 1 texts) (texts.length + 1) line with
        same | ⟨new, declared, pushed⟩
      · rw [same] at h ⊢
        obtain ⟨earlier, first, later, rfl, found⟩ := ih i e h
        exact ⟨earlier, first, later ++ [line], by simp, found⟩
      · rw [pushed] at h ⊢
        rcases Scene.getElem?_push_eq_some_iff.mp h with old | ⟨rfl, rfl⟩
        · obtain ⟨earlier, first, later, rfl, scene, found⟩ := ih i e old
          rw [Scene.before_push new (Nat.le_of_lt (Scene.lt_size_of_getElem? old))]
          exact ⟨earlier, first, later ++ [line], by simp, scene, found⟩
        · rw [Scene.before_push e (Nat.le_refl _), Scene.before_size]
          exact ⟨texts, line, [], rfl, rfl, declared⟩

end Reading

namespace Scene

/-- Every entity of a scene that was read has a statement in the text that declared it. -/
theorem exists_origin {text : String} {i : Nat} {e : Entity}
    (h : (read text).scene.entities[i]? = some e) : ∃ st, Origin text (read text).scene i e st := by
  obtain ⟨earlier, line, later, split, scene, declared⟩ := Reading.exists_line _ i e h
  obtain ⟨st, spelled, made⟩ := declared?_eq_some_iff.mp declared
  exact ⟨st, ⟨earlier, line, later, split, scene, spelled⟩, scene ▸ made⟩

theorem declared_read (text : String) : (read text).scene.Declared := by
  intro i e h
  obtain ⟨earlier, line, later, -, scene, declared⟩ := Reading.exists_line _ i e h
  rw [scene] at declared
  exact admits_of_declared? declared

end Scene

end Straightedge
