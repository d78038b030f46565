import Straightedge.Proofs.Scene.Strict
import Straightedge.Proofs.Statement.Caret
import Straightedge.Proofs.Statement.Stopping

/-!
# What a refusal tells

A strict reading that fails has come to the first line that a lenient one drops.
Its message starts with the number of that line and a column of it, unless the
line is the beginning of a command that ends too early: then it names no place at
all. Whenever the error is in the command itself and names a place, the message is
followed by the line and by a caret under the first character of the token at
which no command can go on.
-/

namespace Straightedge

open Excerpt (shown caret indent)
open Statement (StopsAt Unfinished)
open Text (joinLines Unbroken)

namespace Refusal

variable {s : Scene} {n : Nat} {t : Token} {r : Refusal}

/-- A refusal names a line and one of its columns at the start of its message. If the error is in
the command itself, it ends with the line and a caret under the column. -/
def Names (r : Refusal) (n : Nat) : Prop :=
  ∃ col, 1 ≤ col ∧ col ≤ r.line.length ∧ (Span.mk n col).tag.toList <+: r.message.toList ∧
    (r.error.reference? = none →
      '\n' :: (shown r.line ++ '\n' :: caret col) <:+ r.message.toList)

/-- A refusal of a numbered line shows a token of it: below its own message, which names the place
of the token and no other, stand the line and a caret under the first character of the token. -/
structure PointsAt (r : Refusal) (n : Nat) (t : Token) : Prop where
  line : t.line = n
  names : (Span.mk n t.col).tag.toList <+: r.error.message.toList
  only : ∀ place : Span, place.tag.toList <:+: r.error.message.toList → place = ⟨n, t.col⟩
  message : r.message.toList = joinLines [r.error.message.toList, shown r.line, caret t.col]
  threeLines : Text.lines r.message.toList = [r.error.message.toList, shown r.line, caret t.col]
  under : ∃ c, t.text.toList.head? = some c ∧ r.line[t.col - 1]? = some c ∧
    (caret t.col)[indent.length + (t.col - 1)]? = some '^' ∧
    (shown r.line)[indent.length + (t.col - 1)]? = some c

/-- The message of an error that points at a token of its line, with the excerpt below it. -/
theorem toList_message {place : Span} {text : String} (syntactic : r.error.reference? = none)
    (nonempty : r.line ≠ []) (tagged : r.error.message = place.tag ++ text)
    (plain : Excerpt.Plain text) :
    r.message.toList =
      joinLines [r.error.message.toList, shown r.line, caret place.col] := by
  have tagged : r.error.message.toList = place.tag.toList ++ text.toList := by
    rw [tagged, String.toList_append]
  have oneLine : '\n' ∉ r.error.message.toList := by
    rw [tagged, List.mem_append]
    rintro (inTag | inText)
    · exact absurd (place.unbroken_tag _ inTag) (by decide)
    · exact absurd (plain _ inText).2 (by decide)
  unfold message
  rw [if_neg (by simp [syntactic]), Excerpt.attach?_tagged nonempty oneLine tagged]
  exact String.toList_ofList

/-- An error in a command that stops at a token is shown with a caret under the token. -/
theorem pointsAt (unbroken : Unbroken r.line) (syntactic : r.error.reference? = none)
    (fails : s.declared? n r.line = .error r.error) (member : t ∈ Token.lex n r.line)
    (located : r.error.place? = some t.span) : r.PointsAt n t := by
  have words : ∀ u ∈ r.error.quoted, Text.IsName u.text := by
    intro u quoted
    have misread := (Entity.ofTokens?_eq_error_iff_misread syntactic).mp fails
    obtain ⟨inLine, word⟩ := misread.quoted u quoted
    exact Token.isName_of_mem_lexFrom inLine word
  obtain ⟨text, tagged, plain⟩ := StatementError.exists_plain_message syntactic located words
  obtain ⟨c, first, here, notBlank⟩ := Token.exists_first member
  obtain ⟨before, after, stands⟩ := Token.mem_lex_iff.mp member
  rw [Token.span, stands.line] at tagged
  have nonempty : r.line ≠ [] := by
    intro none
    rw [none] at here
    cases here
  have oneLine : Unbroken r.error.message.toList := by
    rw [tagged, String.toList_append]
    exact List.forall_mem_append.mpr
      ⟨Span.unbroken_tag _, fun c member => (plain c member).2⟩
  have whole := toList_message syntactic nonempty tagged plain
  constructor
  · exact stands.line
  · rw [tagged, String.toList_append]
    exact List.prefix_append _ _
  · intro place named
    rw [tagged, String.toList_append] at named
    exact Excerpt.place_of_infix (fun bracket => (plain _ bracket).1 rfl) named
  · exact whole
  · have lines := Text.lines_joinLines
      (List.forall_mem_cons.mpr ⟨oneLine, List.forall_mem_cons.mpr
        ⟨Excerpt.unbroken_shown unbroken, List.forall_mem_singleton.mpr
          (Excerpt.unbroken_caret t.col)⟩⟩)
    rwa [if_neg (by simp [caret]), List.append_nil, ← whole] at lines
  · exact ⟨c, first, here, Excerpt.getElem?_shown_caret here notBlank⟩

/-- A message that starts with the place of a token names the line. -/
theorem names_of_mem (member : t ∈ Token.lex n r.line)
    (starts : t.span.tag.toList <+: r.message.toList)
    (ends : r.error.reference? = none →
      '\n' :: (shown r.line ++ '\n' :: caret t.col) <:+ r.message.toList) : r.Names n := by
  obtain ⟨c, -, here, -⟩ := Token.exists_first member
  obtain ⟨within, -⟩ := List.getElem?_eq_some_iff.mp here
  obtain ⟨before, after, stands⟩ := Token.mem_lex_iff.mp member
  rw [Token.span, stands.line] at starts
  have positive : 1 ≤ t.col := by
    rw [stands.col]
    exact Nat.le_add_left 1 _
  exact ⟨t.col, positive, by omega, starts, ends⟩

/-- The message of a line that ends too early is not followed by anything, and names no place. -/
theorem message_of_endOfLine {wanted : List TokenKind} (h : r.error = .endOfLine wanted) :
    r.message = r.error.message ∧ ∀ place : Span, ¬place.tag.toList <:+: r.message.toList := by
  have noBracket : '[' ∉ r.error.message.toList := by
    rw [h]
    exact fun bracket => (StatementError.plain_endOfLine wanted _ bracket).1 rfl
  have same : r.message = r.error.message := by
    simp only [message, Excerpt.attach?_untagged _ noBracket, ite_self]
  refine ⟨same, fun place named => noBracket ?_⟩
  obtain ⟨body, tag, -⟩ := place.exists_tag_cons
  rw [← same]
  apply named.subset
  rw [tag]
  exact List.mem_cons_self

/-- A line that is refused at one of its tokens is named, and one that ends too early is not. -/
theorem names_iff (unbroken : Unbroken r.line) (fails : s.declared? n r.line = .error r.error) :
    r.Names n ↔ ¬Unfinished (Token.lex n r.line) := by
  obtain ⟨t, member, located, notUnfinished, -⟩ | ⟨⟨wanted, ended⟩, unfinished⟩ :=
    Statement.refused_at_or_unfinished fails
  · refine iff_of_true ?_ notUnfinished
    by_cases syntactic : r.error.reference? = none
    · have points := pointsAt unbroken syntactic fails member located
      have whole : r.message.toList = r.error.message.toList ++
          '\n' :: (shown r.line ++ '\n' :: caret t.col) := points.message
      apply names_of_mem member
      · rw [whole, Token.span, points.line]
        exact points.names.trans (List.prefix_append _ _)
      · intro _
        rw [whole]
        exact List.suffix_append _ _
    · obtain ⟨text, tagged⟩ := StatementError.message_of_place? located
      have plain : r.message = r.error.message := by
        rw [message, if_pos (Option.isSome_iff_ne_none.mpr syntactic)]
      apply names_of_mem member
      · rw [plain, tagged, String.append_assoc, String.toList_append]
        exact List.prefix_append _ _
      · exact fun none => absurd none syntactic
  · refine iff_of_false ?_ (fun finished => finished unfinished)
    rintro ⟨col, -, -, named, -⟩
    exact (message_of_endOfLine ended).2 _ named.isInfix

end Refusal

namespace Scene

variable {text : String} {r : Refusal} {n : Nat} {err : StatementError} {line : List Char}

/-- A line that fails is that of its number, and fails on the scene declared before it. -/
theorem LineFails.declared (h : LineFails text n err line) :
    (Text.lines text.toList)[n - 1]? = some line ∧ Unbroken line ∧
      ∃ s : Scene, s.declared? n line = .error err := by
  have here : (Text.lines text.toList)[n - 1]? = some line := getElem?_of_failsAt h
  obtain ⟨earlier, later, -, -, fails⟩ := h
  exact ⟨here, Text.unbroken_of_mem_lines (List.mem_of_getElem? here), _, fails⟩

/-- A strict reading that fails names the first line that a lenient reading drops, and a column of
it, unless this line is the beginning of a command and ends too early. Then its message names no
place. -/
theorem readStrict_names_line (refused : readStrict text = .error r) :
    ∃ n, LineFails text n r.error r.line ∧ (∀ m ∈ (read text).numbers, n ≤ m) ∧
      (r.Names n ↔ ¬Unfinished (Token.lex n r.line)) ∧
      (Unfinished (Token.lex n r.line) →
        ∃ wanted, r.message = (StatementError.endOfLine wanted).message) := by
  obtain ⟨n, failing, least⟩ := exists_of_readStrict refused
  obtain ⟨-, unbroken, s, fails⟩ := failing.declared
  refine ⟨n, failing, least, r.names_iff unbroken fails, ?_⟩
  intro unfinished
  obtain ⟨t, -, -, finished, -⟩ | ⟨⟨wanted, ended⟩, -⟩ := Statement.refused_at_or_unfinished fails
  · exact absurd unfinished finished
  · exact ⟨wanted, ended ▸ (Refusal.message_of_endOfLine ended).1⟩

/-- The second line stops at a number where a comma is needed. -/
theorem readStrict_names_line_comma :
    let text := "Point A (0, 0)\nPoint B (1 2)"
    let r : Refusal := ⟨.unexpected ⟨.number, "2", 2, 12⟩ [.comma], "Point B (1 2)".toList⟩
    readStrict text = .error r ∧
      ∃ n, LineFails text n r.error r.line ∧ (∀ m ∈ (read text).numbers, n ≤ m) ∧
        (r.Names n ↔ ¬Unfinished (Token.lex n r.line)) := by
  intro text r
  have refused : readStrict text = .error r := by decide +kernel
  obtain ⟨n, failing, least, names, -⟩ := readStrict_names_line refused
  exact ⟨refused, n, failing, least, names⟩

/-- A line that ends after the id of a point is refused without any place. -/
theorem readStrict_names_no_line :
    ∃ r, readStrict "Point A" = .error r ∧
      LineFails "Point A" 1 r.error r.line ∧
      r.message = "Unexpected end of line: expected LPAREN" ∧ ∀ n, ¬r.Names n := by
  refine ⟨⟨.endOfLine [.leftParen], "Point A".toList⟩, by decide +kernel,
    ⟨[], [], by decide +kernel, rfl, by decide +kernel⟩, by decide +kernel, ?_⟩
  rintro n ⟨col, -, -, named, -⟩
  exact (Refusal.message_of_endOfLine rfl).2 _ named.isInfix

/-- The caret points at the offending token. Whenever a strict reading fails in a command, and its
message has the place of anything in it, the message is that of the error and below it the line
and a caret. The place is that of the first token of the line at which no command can go on, and
the caret stands under the first character of this token. -/
theorem readStrict_caret (refused : readStrict text = .error r)
    (syntactic : r.error.reference? = none)
    (located : ∃ place : Span, place.tag.toList <:+: r.message.toList) :
    ∃ n t, (Text.lines text.toList)[n - 1]? = some r.line ∧ LineFails text n r.error r.line ∧
      t ∈ Token.lex n r.line ∧ StopsAt (Token.lex n r.line) t r.error ∧ r.PointsAt n t := by
  obtain ⟨n, failing, -⟩ := exists_of_readStrict refused
  obtain ⟨here, unbroken, s, fails⟩ := failing.declared
  obtain ⟨t, member, place, -, stops⟩ | ⟨⟨wanted, ended⟩, -⟩ :=
    Statement.refused_at_or_unfinished fails
  · exact ⟨n, t, here, failing, member, stops syntactic,
      r.pointsAt unbroken syntactic fails member place⟩
  · obtain ⟨place, inside⟩ := located
    exact absurd inside ((Refusal.message_of_endOfLine ended).2 place)

/-- An indented line with text in brackets, and the caret under its first word. -/
theorem readStrict_caret_brackets :
    let text := "Point A (0, 0)\n \t Pont [line 9, col 9] 字 "
    let r : Refusal := ⟨.unknownCommand ⟨.id, "Pont", 2, 4⟩, " \t Pont [line 9, col 9] 字 ".toList⟩
    readStrict text = .error r ∧ r.error.reference? = none ∧
      (∃ place : Span, place.tag.toList <:+: r.message.toList) ∧
      ∃ n t, StopsAt (Token.lex n r.line) t r.error ∧ r.PointsAt n t := by
  intro text r
  have refused : readStrict text = .error r := by decide +kernel
  have located : ∃ place : Span, place.tag.toList <:+: r.message.toList :=
    ⟨⟨2, 4⟩, by decide +kernel⟩
  obtain ⟨n, t, -, -, -, stops, points⟩ := readStrict_caret refused rfl located
  exact ⟨refused, rfl, located, n, t, stops, points⟩

end Scene

end Straightedge
