import Straightedge.Proofs.Statement.Grammar
import Straightedge.Proofs.Statement.Layout
import Straightedge.Proofs.Text.Lines
import Straightedge.Statement.Excerpt

/-!
# Carets under lines

A message about a command that stops at a token starts with the place of the token
and names no other place, since nothing it quotes holds a bracket. So the column
found in the message is that of the token, and the caret of the excerpt stands
under the character of the line at that column. A message without a place, that of
a line that ends too early, gets no excerpt.
-/

namespace Straightedge

open Text (digitsOf isLineBreak)

namespace Excerpt

/-- A text that opens no bracket and ends no line. -/
def Plain (text : String) : Prop := ∀ c ∈ text.toList, c ≠ '[' ∧ isLineBreak c = false

instance : DecidablePred Plain := fun text =>
  List.decidableBAll (fun c => c ≠ '[' ∧ isLineBreak c = false) text.toList

theorem Plain.append {a b : String} (first : Plain a) (second : Plain b) : Plain (a ++ b) := by
  intro c member
  rw [String.toList_append, List.mem_append] at member
  exact member.elim (first c) (second c)

/-- A word opens no bracket and ends no line. -/
theorem plain_of_isWord {word : List Char} (h : ∀ c ∈ word, Text.isWord c = true) :
    Plain (String.ofList word) := by
  intro c member
  rw [String.toList_ofList] at member
  refine ⟨?_, Text.isLineBreak_of_isWord (h c member)⟩
  rintro rfl
  exact absurd (h '[' member) (by decide)

theorem plain_toString (n : Nat) : Plain (toString n) := by
  have printed : toString n = String.ofList (digitsOf n) := by
    apply String.toList_injective
    rw [String.toList_ofList]
    exact Nat.toList_repr
  rw [printed]
  exact plain_of_isWord fun c member =>
    Text.isWord_of_isDigit (Text.isDigit_of_mem_digitsOf member)

end Excerpt

open Excerpt (Plain plain_of_isWord plain_toString)

/-! ## Places in a text -/

theorem Span.toList_tag_append (s : Span) (rest : List Char) :
    s.tag.toList ++ rest = "[line ".toList ++ (digitsOf s.line ++ (", col ".toList ++
      (digitsOf s.col ++ ("]".toList ++ rest)))) := by
  have printed : ∀ n : Nat, (toString n).toList = digitsOf n := fun _ => Nat.toList_repr
  have tag : s.tag = "[line " ++ toString s.line ++ ", col " ++ toString s.col ++ "]" := rfl
  simp only [tag, String.toList_append, printed, List.append_assoc]

/-- A place opens one bracket, at its start. -/
theorem Span.exists_tag (s : Span) : ∃ body, s.tag = "[" ++ body ∧ Plain body := by
  have literals : Plain "line " ∧ Plain ", col " ∧ Plain "]" := by decide
  have tag : s.tag = "[" ++ "line " ++ toString s.line ++ ", col " ++ toString s.col ++ "]" := rfl
  refine ⟨"line " ++ toString s.line ++ ", col " ++ toString s.col ++ "]", ?_, ?_⟩
  · rw [tag]
    simp only [String.append_assoc]
  · exact (((literals.1.append (plain_toString s.line)).append literals.2.1).append
      (plain_toString s.col)).append literals.2.2

theorem Span.exists_tag_cons (s : Span) : ∃ body, s.tag.toList = '[' :: body ∧ '[' ∉ body := by
  obtain ⟨body, tag, plain⟩ := s.exists_tag
  exact ⟨body.toList, by rw [tag, String.toList_append]; rfl, fun member => (plain _ member).1 rfl⟩

theorem Span.unbroken_tag (s : Span) : Text.Unbroken s.tag.toList := by
  obtain ⟨body, tag, plain⟩ := s.exists_tag
  rw [tag, String.toList_append]
  exact List.forall_mem_cons.mpr ⟨by decide, fun c member => (plain c member).2⟩

namespace Excerpt

variable {line cs rest message text : List Char} {place other : Span} {i : Nat} {c : Char}

theorem after?_append (start rest : List Char) : after? start (start ++ rest) = some rest := by
  induction start with
  | nil => rfl
  | cons c start ih => rw [List.cons_append, after?, if_pos (beq_self_eq_true c), ih]

/-- A printed number is found again before anything that is no digit. -/
theorem digits?_digitsOf (n : Nat) (stops : ∀ c ∈ rest.head?, Text.isDigit c = false) :
    digits? (digitsOf n ++ rest) = some (digitsOf n, rest) := by
  have digits : ∀ c ∈ digitsOf n, Text.isDigit c = true := fun c member =>
    Text.isDigit_of_isDigit (Text.isDigit_of_mem_digitsOf member)
  have ends : rest.takeWhile Text.isDigit = [] ∧ rest.dropWhile Text.isDigit = rest := by
    cases rest with
    | nil => exact ⟨rfl, rfl⟩
    | cons c rest => simp [stops c rfl]
  have nonempty : digitsOf n ≠ [] := Nat.toDigits_ne_nil
  rw [digits?, List.takeWhile_append_of_pos digits, List.dropWhile_append_of_pos digits, ends.1,
    ends.2, List.append_nil]
  cases found : digitsOf n with
  | nil => exact absurd found nonempty
  | cons d ds => rfl

/-- The line and the column that a text starts with are found in it. -/
theorem digits_of_tag (place : Span) (rest : List Char) :
    ∃ middle, (after? "[line ".toList (place.tag.toList ++ rest)).bind digits? =
        some (digitsOf place.line, middle) ∧
      (after? ", col ".toList middle).bind digits? =
        some (digitsOf place.col, "]".toList ++ rest) := by
  have comma : ∀ c ∈ (", col ".toList ++ (digitsOf place.col ++ ("]".toList ++ rest))).head?,
      Text.isDigit c = false := by
    intro c first
    obtain rfl := Option.some.inj first
    decide
  have bracket : ∀ c ∈ ("]".toList ++ rest).head?, Text.isDigit c = false := by
    intro c first
    obtain rfl := Option.some.inj first
    decide
  refine ⟨", col ".toList ++ (digitsOf place.col ++ ("]".toList ++ rest)), ?_, ?_⟩
  · rw [place.toList_tag_append, after?_append, Option.bind_some, digits?_digitsOf _ comma]
  · rw [after?_append, Option.bind_some, digits?_digitsOf _ bracket]

theorem columnHere?_tag (place : Span) (rest : List Char) :
    columnHere? (place.tag.toList ++ rest) = some place.col := by
  obtain ⟨middle, line, col⟩ := digits_of_tag place rest
  obtain ⟨opened, found, line⟩ := Option.bind_eq_some_iff.mp line
  obtain ⟨separated, found', col⟩ := Option.bind_eq_some_iff.mp col
  simp only [columnHere?, found, line, found', col, after?_append, Option.bind_eq_bind,
    Option.bind_some, Text.decimalValue_digitsOf, Option.pure_def]

/-- A text starts with one place at most. -/
theorem place_unique (h : place.tag.toList <+: cs) (h' : other.tag.toList <+: cs) :
    other = place := by
  obtain ⟨rest, rfl⟩ := h
  obtain ⟨rest', same⟩ := h'
  obtain ⟨middle, line, col⟩ := digits_of_tag place rest
  obtain ⟨middle', line', col'⟩ := digits_of_tag other rest'
  rw [same, line] at line'
  obtain ⟨lines, rfl⟩ := Prod.mk.inj (Option.some.inj line')
  rw [col] at col'
  obtain ⟨cols, -⟩ := Prod.mk.inj (Option.some.inj col')
  have sameLine := congrArg Text.decimalValue lines
  have sameCol := congrArg Text.decimalValue cols
  rw [Text.decimalValue_digitsOf, Text.decimalValue_digitsOf] at sameLine sameCol
  obtain ⟨line, col⟩ := place
  obtain ⟨line', col'⟩ := other
  exact congrArg₂ Span.mk sameLine.symm sameCol.symm

theorem column?_tag (place : Span) (rest : List Char) :
    column? (place.tag.toList ++ rest) = some place.col := by
  have first := columnHere?_tag place rest
  obtain ⟨body, tag, -⟩ := place.exists_tag_cons
  rw [tag, List.cons_append] at first ⊢
  rw [column?, first, Option.some_or]

/-- A text without brackets names no place. -/
theorem column?_eq_none (h : '[' ∉ cs) : column? cs = none := by
  induction cs with
  | nil => rfl
  | cons c cs ih =>
      obtain ⟨differs, later⟩ := List.ne_and_not_mem_of_not_mem_cons h
      have here : columnHere? (c :: cs) = none := by
        have other : ('[' == c) = false := beq_eq_false_iff_ne.mpr differs
        simp [columnHere?, after?, other]
      rw [column?, here, ih later, Option.none_or]

/-- A text with no bracket after its first place names no other. -/
theorem place_of_infix (noBracket : '[' ∉ rest)
    (h : other.tag.toList <:+: place.tag.toList ++ rest) : other = place := by
  obtain ⟨before, after, split⟩ := h
  cases before with
  | nil => exact place_unique (List.prefix_append _ rest) ⟨after, split⟩
  | cons c before =>
      obtain ⟨body, tag, inside⟩ := place.exists_tag_cons
      obtain ⟨body', tag', -⟩ := other.exists_tag_cons
      rw [tag, tag', List.cons_append, List.cons_append, List.cons_append] at split
      have later : '[' ∈ body ++ rest := by
        rw [← (List.cons.inj split).2]
        simp
      exact ((List.mem_append.mp later).elim inside noBracket).elim

/-! ## What an excerpt shows -/

/-- How far a shown line is indented. -/
def indent : List Char := [' ', ' ', ' ', ' ']

/-- A line as it is shown, without the blanks it ends with. -/
def shown (line : List Char) : List Char := indent ++ Text.trimEnd line

/-- The caret under a column of a shown line. -/
def caret (col : Nat) : List Char := indent ++ List.replicate (col - 1) ' ' ++ ['^']

theorem getElem?_trimEnd (here : cs[i]? = some c) (notBlank : Text.isBlank c = false) :
    (Text.trimEnd cs)[i]? = some c := by
  induction cs generalizing i with
  | nil => cases here
  | cons d cs ih =>
      cases i with
      | zero =>
          obtain rfl := Option.some.inj here
          rw [Text.trimEnd]
          split
          · simp [notBlank]
          · rfl
      | succ i =>
          have later := ih here
          rw [Text.trimEnd]
          split
          · rename_i nothing
            rw [nothing] at later
            cases later
          · rename_i d' ds rest
            rw [rest] at later
            exact later

theorem mem_of_mem_trimEnd (h : c ∈ Text.trimEnd line) : c ∈ line := by
  induction line with
  | nil => exact h
  | cons d line ih =>
      rw [Text.trimEnd] at h
      split at h
      · split at h
        · cases h
        · rw [List.mem_singleton.mp h]
          exact List.mem_cons_self
      · rename_i d' ds rest
        rw [rest] at ih
        exact (List.mem_cons.mp h).elim (fun same => same ▸ List.mem_cons_self)
          fun later => List.mem_cons_of_mem d (ih later)

theorem unbroken_shown (h : Text.Unbroken line) : Text.Unbroken (shown line) := by
  have indented : Text.Unbroken indent := by decide
  exact List.forall_mem_append.mpr ⟨indented, fun c member => h c (mem_of_mem_trimEnd member)⟩

theorem unbroken_caret (col : Nat) : Text.Unbroken (caret col) := by
  intro c member
  have : c = ' ' ∨ c = '^' := by
    simp only [caret, indent, List.mem_append, List.mem_cons, List.not_mem_nil, or_false,
      List.mem_replicate] at member
    tauto
  rcases this with rfl | rfl <;> decide

/-- A caret stands under the character of its line at its column, if that is no blank. -/
theorem getElem?_shown_caret {col : Nat} (here : cs[col - 1]? = some c)
    (notBlank : Text.isBlank c = false) :
    (caret col)[indent.length + (col - 1)]? = some '^' ∧
      (shown cs)[indent.length + (col - 1)]? = some c := by
  constructor
  · have width : (indent ++ List.replicate (col - 1) ' ').length = indent.length + (col - 1) := by
      rw [List.length_append, List.length_replicate]
    rw [caret, ← width, List.getElem?_concat_length]
  · rw [shown, List.getElem?_append_right (Nat.le_add_right ..), Nat.add_sub_cancel_left]
    exact getElem?_trimEnd here notBlank

theorem attach?_tagged (nonempty : line ≠ []) (oneLine : '\n' ∉ message)
    (tagged : message = place.tag.toList ++ text) :
    attach? message line =
      some (message ++ '\n' :: (shown line ++ '\n' :: caret place.col)) := by
  have column : column? message = some place.col := by rw [tagged, column?_tag]
  have atLeast : max place.col 1 - 1 = place.col - 1 := by omega
  simp [attach?, nonempty, oneLine, column, atLeast, shown, caret, indent]

theorem attach?_untagged (line : List Char) (h : '[' ∉ message) : attach? message line = none := by
  simp [attach?, column?_eq_none h]

end Excerpt

/-! ## What messages quote -/

namespace StatementError

theorem plain_name (kind : TokenKind) : Plain kind.name := by
  cases kind <;> decide

theorem plain_alternatives (wanted : List TokenKind) : Plain (alternatives wanted) := by
  unfold alternatives
  induction wanted with
  | nil => exact fun c member => absurd member (by simp)
  | cons kind wanted ih =>
      cases wanted with
      | nil => simpa using plain_name kind
      | cons next wanted =>
          have bar : Plain "|" := by decide
          rw [List.map_cons, List.map_cons, String.intercalate_cons_cons, String.append_assoc]
          exact (plain_name kind).append (bar.append ih)

/-- The tokens whose texts a message quotes. -/
def quoted : StatementError → List Token
  | unknownCommand t | integerTooLong t => [t]
  | _ => []

/-- The message of an error that quotes words only is its place and a text that names no other
place and fits on one line. -/
theorem exists_plain_message {err : StatementError} {place : Span}
    (syntactic : err.reference? = none) (located : err.place? = some place)
    (words : ∀ t ∈ err.quoted, Text.IsName t.text) :
    ∃ text, err.message = place.tag ++ text ∧ Plain text := by
  cases err with
  | unexpected found wanted =>
      obtain rfl := Option.some.inj located
      have literals : Plain " expected " ∧ Plain ", got " := by decide
      refine ⟨" expected " ++ alternatives wanted ++ ", got " ++ found.kind.name, ?_,
        ((literals.1.append (plain_alternatives wanted)).append literals.2).append
          (plain_name found.kind)⟩
      change found.span.tag ++ " expected " ++ alternatives wanted ++ ", got " ++
        found.kind.name = _
      simp only [String.append_assoc]
  | unknownCommand keyword =>
      obtain rfl := Option.some.inj located
      have word : Plain keyword.text := by
        rw [← String.ofList_toList (s := keyword.text)]
        exact plain_of_isWord (words keyword List.mem_cons_self).word
      have literals : Plain " unknown command \"" ∧ Plain "\"" := by decide
      refine ⟨" unknown command \"" ++ keyword.text ++ "\"", ?_,
        (literals.1.append word).append literals.2⟩
      change keyword.span.tag ++ " unknown command \"" ++ keyword.text ++ "\"" = _
      simp only [String.append_assoc]
  | integerTooLong found =>
      obtain rfl := Option.some.inj located
      have digits : Plain (String.ofList (found.text.toList.take 20)) := plain_of_isWord
        fun c member => (words found List.mem_cons_self).word c (List.mem_of_mem_take member)
      have literals : Plain " invalid integer " ∧ Plain "..." := by decide
      refine ⟨" invalid integer " ++ String.ofList (found.text.toList.take 20) ++ "...", ?_,
        (literals.1.append digits).append literals.2⟩
      change found.span.tag ++ " invalid integer " ++ String.ofList _ ++ "..." = _
      simp only [String.append_assoc]
  | endOfLine wanted => cases located
  | unknownId ref => cases syntactic
  | notAnAngle ref kind => cases syntactic

/-- The message of a line that ends too early names no place. -/
theorem plain_endOfLine (wanted : List TokenKind) : Plain (endOfLine wanted).message := by
  have literal : Plain "Unexpected end of line: expected " := by decide
  exact literal.append (plain_alternatives wanted)

end StatementError

/-- A token starts with a character that is no blank, and this stands in its line at its column. -/
theorem Token.exists_first {n : Nat} {cs : List Char} {t : Token} (h : t ∈ lex n cs) :
    ∃ c, t.text.toList.head? = some c ∧ cs[t.col - 1]? = some c ∧ Text.isBlank c = false := by
  obtain ⟨before, after, stands⟩ := mem_lex_iff.mp h
  obtain ⟨c, rest, text⟩ := List.exists_cons_of_ne_nil stands.spelled.nonempty
  refine ⟨c, by rw [text, List.head?_cons], ?_, ?_⟩
  · rw [stands.col, Nat.add_sub_cancel, stands.split, text, List.cons_append,
      List.getElem?_append_right (Nat.le_refl _), Nat.sub_self, List.getElem?_cons_zero]
  · obtain ⟨-, word, -⟩ | ⟨d, single, sign, -⟩ := stands.spelled.cases
    · exact Text.isBlank_of_isWord (word c (by rw [text]; exact List.mem_cons_self))
    · rw [single] at text
      obtain ⟨rfl, -⟩ := List.cons.inj text
      exact sign.blank

namespace Statement

variable {places : List Slot} {tokens : List Token} {err : StatementError}

theorem isWordToken_of_refusal {slot : Slot} {t t' : Token} (refused : ¬slot.Accepts t)
    (h : t' ∈ (slot.refusal t).quoted) : t' = t ∧ t.IsWordToken := by
  unfold Slot.refusal at h
  split at h
  · rename_i wanted
    refine ⟨List.mem_singleton.mp h, ?_⟩
    cases slot with
    | word => exact wanted
    | integer =>
        rw [Token.IsWordToken, List.mem_singleton.mp wanted]
        decide
    | symbol kind => exact absurd (List.mem_singleton.mp wanted) refused
  · cases h

theorem Misfit.quoted (h : Misfit places tokens err) :
    ∀ t ∈ err.quoted, t ∈ tokens ∧ t.IsWordToken := by
  induction h with
  | endOfLine slot places => exact fun t member => nomatch member
  | here refused =>
      intro t member
      obtain ⟨rfl, word⟩ := isWordToken_of_refusal refused member
      exact ⟨List.mem_cons_self, word⟩
  | later _ _ ih => exact fun t member => ⟨List.mem_cons_of_mem _ (ih t member).1, (ih t member).2⟩

/-- What a message about a command quotes is a word or a number of the command. -/
theorem Misread.quoted (h : Misread tokens err) :
    ∀ t ∈ err.quoted, t ∈ tokens ∧ t.IsWordToken := by
  cases h with
  | notWord other => exact fun t member => nomatch member
  | notKeyword word _ =>
      intro t member
      obtain rfl := List.mem_singleton.mp member
      refine ⟨List.mem_cons_self, ?_⟩
      rw [Token.IsWordToken, word]
      decide
  | misfit _ misfit =>
      exact fun t member =>
        ⟨List.mem_cons_of_mem _ (misfit.quoted t member).1, (misfit.quoted t member).2⟩

end Statement

end Straightedge
