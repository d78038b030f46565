import Straightedge.Text.Blank
import Straightedge.Text.Digit
import Straightedge.Text.Word
import Straightedge.Entity.Basic

/-!
# Tokens of a line

A line is cut into words and single characters. A word is a maximal run of word
characters, a number if all of them are decimal digits. Blanks separate tokens
and a `#` ends the line. Every token remembers the line and the column where it
starts, both counted from one.
-/

namespace Straightedge

/-- The kinds of tokens. -/
inductive TokenKind where
  | id
  | number
  | leftParen
  | rightParen
  | comma
  | dash
  | other
  deriving DecidableEq, Repr

/-- The name of a token kind in messages. -/
def TokenKind.name : TokenKind → String
  | id => "ID"
  | number => "NUMBER"
  | leftParen => "LPAREN"
  | rightParen => "RPAREN"
  | comma => "COMMA"
  | dash => "DASH"
  | other => "OTHER"

/-- A piece of a line and where it starts. -/
structure Token where
  kind : TokenKind
  text : String
  line : Nat
  col : Nat
  deriving DecidableEq, Repr

namespace Token

/-- The place where a token starts. -/
def span (t : Token) : Span := ⟨t.line, t.col⟩

/-- The kind of a word. -/
def wordKind (word : List Char) : TokenKind :=
  if word.all Text.isDigit then .number else .id

/-- The kind of a character that stands for itself. -/
def symbolKind : Char → TokenKind
  | '(' => .leftParen
  | ')' => .rightParen
  | ',' => .comma
  | '-' => .dash
  | _ => .other

/-- The tokens of the rest of a line that starts at a column. -/
def lexFrom (line col : Nat) : List Char → List Token
  | [] => []
  | c :: cs =>
    if c == '#' then []
    else if Text.isBlank c then lexFrom line (col + 1) cs
    else if Text.isWord c then
      let word := c :: cs.takeWhile Text.isWord
      ⟨wordKind word, String.ofList word, line, col⟩ ::
        lexFrom line (col + word.length) (cs.dropWhile Text.isWord)
    else ⟨symbolKind c, String.singleton c, line, col⟩ :: lexFrom line (col + 1) cs
termination_by cs => cs.length
decreasing_by
  · simp
  · have := (List.dropWhile_sublist Text.isWord (l := cs)).length_le
    simp only [List.length_cons]
    omega
  · simp

/-- The tokens of a line. -/
def lex (line : Nat) (text : List Char) : List Token := lexFrom line 1 text

@[simp] theorem lexFrom_nil (line col : Nat) : lexFrom line col [] = [] := by
  rw [lexFrom]

/-- Nothing is read after the mark of a comment. -/
theorem lexFrom_comment (line col : Nat) (cs : List Char) : lexFrom line col ('#' :: cs) = [] := by
  rw [lexFrom]
  simp

/-- A blank only moves the columns. -/
theorem lexFrom_blank {line col : Nat} {c : Char} {cs : List Char} (h : Text.isBlank c = true) :
    lexFrom line col (c :: cs) = lexFrom line (col + 1) cs := by
  have : (c == '#') = false := by
    rw [beq_eq_false_iff_ne]
    rintro rfl
    exact absurd h (by decide)
  rw [lexFrom]
  simp [this, h]

end Token

end Straightedge
