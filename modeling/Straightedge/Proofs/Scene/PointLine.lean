import Straightedge.Proofs.Number.Rounding
import Straightedge.Proofs.Scene.RoundTrip
import Straightedge.Proofs.Statement.Grammar
import Straightedge.Proofs.Text.Lines

/-!
# The lines of moved points

A point prints the integers that its coordinates are nearest to, with a sign if they
have one. There is no sign in a command, so the line of a point at a negative integer
declares nothing on top of any scene. A line declares one entity at most, so as many
entities as lines are read only if every line declares one.
-/

namespace Straightedge

open Text (Unbroken IsName digitsOf)

/-! ## Lines and entities -/

namespace Reading

variable {r : Reading} {number : Nat} {ls : List (List Char)}

/-- A line declares one entity at most. -/
theorem size_next_le (r : Reading) (number : Nat) (line : List Char) :
    (r.next number line).scene.size ≤ r.scene.size + 1 := by
  obtain same | ⟨e, -, pushed⟩ := scene_next r number line
  · rw [same]
    exact Nat.le_succ _
  · rw [pushed, Scene.size, Scene.entities_push, List.length_append]
    exact Nat.le_refl _

theorem size_lines_le (r : Reading) (number : Nat) (ls : List (List Char)) :
    (r.lines number ls).scene.size ≤ r.scene.size + ls.length := by
  induction ls generalizing r number with
  | nil => exact Nat.le_refl _
  | cons line ls ih =>
      have here := size_next_le r number line
      have later := ih (r.next number line) (number + 1)
      rw [lines, List.length_cons]
      omega

/-- As many entities as lines are there only if every line has declared one. -/
theorem exists_declared?_of_size_lines
    (full : (r.lines number ls).scene.size = r.scene.size + ls.length) :
    ∀ line ∈ ls, ∃ (s : Scene) (n : Nat) (e : Entity), s.declared? n line = .ok (some e) := by
  induction ls generalizing r number with
  | nil => exact fun _ member => absurd member List.not_mem_nil
  | cons line ls ih =>
      rw [lines, List.length_cons] at full
      have later := size_lines_le (r.next number line) (number + 1) ls
      obtain same | ⟨e, declared, pushed⟩ := scene_next r number line
      · rw [same] at later
        omega
      · have grown : (r.next number line).scene.size = r.scene.size + 1 := by
          rw [pushed, Scene.size, Scene.entities_push, List.length_append]
          rfl
        have rest : ((r.next number line).lines (number + 1) ls).scene.size =
            (r.next number line).scene.size + ls.length := by omega
        exact List.forall_mem_cons.mpr ⟨⟨_, _, e, declared⟩, ih rest⟩

end Reading

/-! ## Integers in decimal -/

namespace Text

/-- A negative integer starts with its sign. -/
theorem toList_repr_of_neg {k : Int} (negative : k < 0) :
    ∃ cs, k.repr.toList = '-' :: cs := by
  obtain ⟨n, rfl⟩ := Int.eq_negSucc_of_lt_zero negative
  exact ⟨_, by rw [Int.repr, String.toList_append]; rfl⟩

theorem toList_repr_natCast (n : Nat) : (n : Int).repr.toList = digitsOf n := Nat.toList_repr

theorem unbroken_repr (k : Int) : Unbroken k.repr.toList := by
  have digits : ∀ n, Unbroken (digitsOf n) := by
    intro n c member
    exact isLineBreak_of_isWord ((Entity.digitsOf_word n).2.1 c member)
  cases k with
  | ofNat n =>
      rw [Int.ofNat_eq_natCast, toList_repr_natCast]
      exact digits n
  | negSucc n =>
      have split : (Int.negSucc n).repr.toList = '-' :: digitsOf (n + 1) := by
        rw [Int.repr, String.toList_append]
        exact congrArg ('-' :: ·) Nat.toList_repr
      rw [split]
      exact List.forall_mem_cons.mpr ⟨by decide, digits (n + 1)⟩

end Text

/-! ## The lines of points -/

namespace Entity

variable {e : Entity} {x y : Int}

/-- The coordinates of an entity are nearest to two integers. -/
def RoundsTo (e : Entity) (x y : Int) : Prop :=
  ∃ m n : Num, e.values.number? "x" = some m ∧ e.values.number? "y" = some n ∧
    m.RoundsTo x ∧ n.RoundsTo y

theorem RoundsTo.unique {x' y' : Int} (h : e.RoundsTo x y) (h' : e.RoundsTo x' y') :
    x = x' ∧ y = y' := by
  obtain ⟨m, n, atX, atY, first, second⟩ := h
  obtain ⟨m', n', atX', atY', first', second'⟩ := h'
  obtain rfl := Option.some.inj (atX.symm.trans atX')
  obtain rfl := Option.some.inj (atY.symm.trans atY')
  exact ⟨first.unique first', second.unique second'⟩

/-- The text that puts a point at two integers, with a sign if they have one. -/
def pointLine (id : String) (x y : Int) : List Char :=
  "Point".toList ++ ' ' :: (id.toList ++ ' ' :: '(' :: (x.repr.toList ++ ',' :: ' ' ::
    (y.repr.toList ++ [')'])))

theorem coordinate_of_number? {key : String} {n : Num} (h : e.values.number? key = some n) :
    e.coordinate key = .ok (some n) := by
  rw [coordinate, Option.join_eq_some_iff.mp h]

/-- A point prints the integers that its coordinates are nearest to. -/
theorem command_of_roundsTo (isPoint : e.kind = .point) (rounds : e.RoundsTo x y) :
    e.command = .ok (String.ofList (pointLine e.id x y)) := by
  obtain ⟨m, n, atX, atY, first, second⟩ := rounds
  have text : "Point " ++ e.id ++ " (" ++ Int.repr x ++ ", " ++ Int.repr y ++ ")" =
      String.ofList (pointLine e.id x y) := by
    apply String.toList_injective
    simp only [pointLine, String.toList_append, String.toList_ofList, String.reduceToList,
      List.append_assoc, List.cons_append, List.nil_append]
  rw [command, isPoint, coordinate_of_number? atX, coordinate_of_number? atY]
  change (m.round >>= fun x => n.round >>= fun y => pure _) = _
  rw [Num.round_eq_ok_iff.mpr first, Num.round_eq_ok_iff.mpr second]
  exact congrArg Except.ok text

theorem unbroken_pointLine {id : String} (isName : IsName id) (x y : Int) :
    Unbroken (pointLine id x y) := by
  have keyword : IsName "Point" := (@Statement.keyword_word .point _ rfl).1
  have symbols : Text.isLineBreak ' ' = false ∧ Text.isLineBreak '(' = false ∧
      Text.isLineBreak ',' = false ∧ Text.isLineBreak ')' = false := by decide
  simp only [pointLine, Unbroken, List.forall_mem_append, List.forall_mem_cons]
  exact ⟨keyword.unbroken, symbols.1, isName.unbroken, symbols.1, symbols.2.1, Text.unbroken_repr x,
    symbols.2.2.1, symbols.1, Text.unbroken_repr y, symbols.2.2.2, by simp⟩

/-- The line of a point starts with the keyword, the id and a parenthesis. -/
theorem lex_pointLine {id : String} (isName : IsName id) (x y : Int) (number : Nat) :
    ∃ (keyword declared opening : Token) (col : Nat), keyword.IsKeyword .point ∧
      Token.lex number (pointLine id x y) = keyword :: declared :: opening ::
        Token.lexFrom number col (x.repr.toList ++ ',' :: ' ' :: (y.repr.toList ++ [')'])) := by
  have keyword := Statement.keyword_word (show Kind.point.keyword? = some "Point" from rfl)
  have notWord : Text.isWord ' ' = false ∧ Text.isWord '(' = false := by decide
  rw [Token.lex, pointLine,
    Token.lexFrom_word keyword.1.nonempty keyword.1.word (Token.endsWord_cons _ notWord.1),
    Token.lexFrom_blank Text.isBlank_space,
    Token.lexFrom_word isName.nonempty isName.word (Token.endsWord_cons _ notWord.1),
    Token.lexFrom_blank Text.isBlank_space,
    Token.lexFrom_symbol _ (by decide) (by decide) notWord.2]
  exact ⟨_, _, _, _, ⟨keyword.2, congrArg some String.ofList_toList.symm⟩, rfl⟩

end Entity

namespace Statement

/-- After the keyword of a point, an id and a parenthesis, a command goes on with two integers. -/
theorem Spells.exists_integers {shape rest tokens : List Token} {st : Statement}
    {keyword declared opening : Token} (spells : Spells shape st)
    (isKeyword : keyword.IsKeyword .point)
    (split : keyword :: declared :: opening :: tokens = shape ++ rest) :
    ∃ x comma y rest, x.IsInteger ∧ y.IsInteger ∧ tokens = x :: comma :: y :: rest := by
  cases spells with
  | point _ _ _ first _ second _ =>
      simp only [List.cons_append, List.nil_append, List.cons.injEq] at split
      obtain ⟨-, -, -, rfl⟩ := split
      exact ⟨_, _, _, _, first, second, rfl⟩
  | made notPoint isKeyword' =>
      simp only [List.cons_append, List.cons.injEq] at split
      obtain ⟨rfl, -⟩ := split
      exact absurd (isKeyword'.unique isKeyword) notPoint

end Statement

namespace Scene

variable {s : Scene} {number : Nat} {id : String} {x y : Int} {e : Entity}

/-- The line of a point declares it only if there is no sign in it. -/
theorem nonneg_of_declared? (isName : IsName id)
    (declared : s.declared? number (Entity.pointLine id x y) = .ok (some e)) : 0 ≤ x ∧ 0 ≤ y := by
  obtain ⟨st, read, -⟩ := declared?_eq_some_iff.mp declared
  obtain ⟨shape, rest, spells, split⟩ := Statement.ofTokens?_eq_some_iff.mp read
  obtain ⟨keyword, declared, opening, col, isKeyword, tokens⟩ :=
    Entity.lex_pointLine isName x y number
  obtain ⟨first, comma, second, rest, isFirst, isSecond, tokens⟩ :=
    spells.exists_integers isKeyword (tokens.symm.trans split)
  have notWord : Text.isWord '-' = false ∧ Text.isWord ',' = false := by decide
  have sign : ∀ {k : Int} {col : Nat} {cs : List Char} {t : Token} {ts : List Token}, k < 0 →
      Token.lexFrom number col (k.repr.toList ++ cs) = t :: ts → ¬t.IsInteger := by
    intro k col cs t ts negative tokens isInteger
    obtain ⟨digits, text⟩ := Text.toList_repr_of_neg negative
    rw [text, List.cons_append, Token.lexFrom_symbol _ (by decide) (by decide) notWord.1] at tokens
    obtain ⟨rfl, -⟩ := List.cons.inj tokens
    exact absurd isInteger.number (show TokenKind.dash ≠ .number by decide)
  have natural : 0 ≤ x := by
    by_contra negative
    exact sign (Int.not_le.mp negative) tokens isFirst
  obtain ⟨m, rfl⟩ := Int.eq_ofNat_of_zero_le natural
  refine ⟨natural, ?_⟩
  by_contra negative
  obtain ⟨nonempty, word, -⟩ := Entity.digitsOf_word m
  rw [Text.toList_repr_natCast,
    Token.lexFrom_word nonempty word (Token.endsWord_cons _ notWord.2),
    Token.lexFrom_symbol _ (by decide) (by decide) notWord.2,
    Token.lexFrom_blank Text.isBlank_space] at tokens
  obtain ⟨-, tokens⟩ := List.cons.inj tokens
  obtain ⟨-, tokens⟩ := List.cons.inj tokens
  exact sign (Int.not_le.mp negative) tokens isSecond

end Scene

end Straightedge
