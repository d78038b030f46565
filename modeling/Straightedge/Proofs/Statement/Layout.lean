import Mathlib.Data.List.Chain
import Straightedge.Proofs.Statement.Lexing

/-!
# Lines as laid out tokens

A line is a row of words and single characters with blanks between them, up to a
comment. `Layout` is such a row, and `Layout.Proper` says that nothing in it runs
together: two words that follow each other have a blank between them. Every line
has a proper layout, and cutting the line into tokens gives the pieces of any
proper layout back, at the columns where they stand. So nothing is lost in the
cutting, and what is found depends on neither the width of gaps nor comments.

The tokens of a line can also be told without a layout: they are the maximal runs
of word characters, and the characters that are neither blank nor in a word, before
the first `#`.
-/

namespace Straightedge.Token

open Text (isWord isBlank isDigit)

/-- The characters with a kind of their own. -/
def symbols : List (Char × TokenKind) :=
  [('(', .leftParen), (')', .rightParen), (',', .comma), ('-', .dash)]

/-- A character that stands for itself: it opens no comment and is neither blank nor in a word. -/
structure IsSign (c : Char) : Prop where
  hash : c ≠ '#'
  blank : isBlank c = false
  word : isWord c = false

/-- The texts that tokens of a kind can have. -/
inductive Spelling : List Char → TokenKind → Prop where
  | number {text : List Char} (nonempty : text ≠ []) (word : ∀ c ∈ text, isWord c = true)
      (digits : ∀ c ∈ text, isDigit c = true) : Spelling text .number
  | id {text : List Char} (word : ∀ c ∈ text, isWord c = true)
      (other : ∃ c ∈ text, isDigit c = false) : Spelling text .id
  | symbol {c : Char} {kind : TokenKind} (listed : (c, kind) ∈ symbols) : Spelling [c] kind
  | other {c : Char} (sign : IsSign c) (unlisted : ∀ kind, (c, kind) ∉ symbols) :
      Spelling [c] .other

variable {text gap rest cs : List Char} {c : Char} {kind : TokenKind} {line col : Nat}

theorem isSign_of_mem_symbols (listed : (c, kind) ∈ symbols) :
    IsSign c ∧ symbolKind c = kind := by
  simp only [symbols, List.mem_cons, Prod.mk.injEq, List.not_mem_nil, or_false] at listed
  obtain ⟨rfl, rfl⟩ | ⟨rfl, rfl⟩ | ⟨rfl, rfl⟩ | ⟨rfl, rfl⟩ := listed <;>
    exact ⟨⟨by decide, by decide, by decide⟩, rfl⟩

theorem symbolKind_cases (c : Char) :
    (c, symbolKind c) ∈ symbols ∨ symbolKind c = .other ∧ ∀ kind, (c, kind) ∉ symbols := by
  unfold symbolKind
  split
  · exact .inl (by decide)
  · exact .inl (by decide)
  · exact .inl (by decide)
  · exact .inl (by decide)
  · rename_i opening closing comma dash
    refine .inr ⟨rfl, ?_⟩
    intro kind listed
    simp only [symbols, List.mem_cons, Prod.mk.injEq, List.not_mem_nil, or_false] at listed
    obtain ⟨rfl, -⟩ | ⟨rfl, -⟩ | ⟨rfl, -⟩ | ⟨rfl, -⟩ := listed
    · exact opening rfl
    · exact closing rfl
    · exact comma rfl
    · exact dash rfl

theorem spelling_word (nonempty : text ≠ []) (word : ∀ c ∈ text, isWord c = true) :
    Spelling text (wordKind text) := by
  unfold wordKind
  split
  · rename_i digits
    exact .number nonempty word (List.all_eq_true.mp digits)
  · rename_i other
    refine .id word ?_
    simpa using other

theorem spelling_sign (sign : IsSign c) : Spelling [c] (symbolKind c) := by
  obtain listed | ⟨isOther, unlisted⟩ := symbolKind_cases c
  · exact .symbol listed
  · rw [isOther]
    exact .other sign unlisted

/-- A text of a token is a word or a sign, and its kind is determined. -/
theorem Spelling.cases (spelled : Spelling text kind) :
    (text ≠ [] ∧ (∀ c ∈ text, isWord c = true) ∧ kind = wordKind text) ∨
      ∃ c, text = [c] ∧ IsSign c ∧ kind = symbolKind c := by
  cases spelled with
  | number nonempty word digits =>
      exact .inl ⟨nonempty, word, (if_pos (List.all_eq_true.mpr digits)).symm⟩
  | id word other =>
      obtain ⟨c, member, notDigit⟩ := other
      refine .inl ⟨List.ne_nil_of_mem member, word, (if_neg ?_).symm⟩
      intro digits
      rw [List.all_eq_true.mp digits c member] at notDigit
      cases notDigit
  | symbol listed =>
      obtain ⟨sign, same⟩ := isSign_of_mem_symbols listed
      exact .inr ⟨_, rfl, sign, same.symm⟩
  | @other c sign unlisted =>
      obtain listed | ⟨isOther, -⟩ := symbolKind_cases c
      · exact absurd listed (unlisted _)
      · exact .inr ⟨c, rfl, sign, isOther.symm⟩

theorem Spelling.nonempty (spelled : Spelling text kind) : text ≠ [] := by
  obtain ⟨nonempty, -⟩ | ⟨c, rfl, -⟩ := spelled.cases
  · exact nonempty
  · exact List.cons_ne_nil c []

theorem Spelling.hash_notMem (spelled : Spelling text kind) : '#' ∉ text := by
  obtain ⟨-, word, -⟩ | ⟨c, rfl, sign, -⟩ := spelled.cases
  · exact fun member => Text.ne_hash_of_isWord (word _ member) rfl
  · exact fun member => sign.hash (List.mem_singleton.mp member).symm

/-- A token whose kind is that of a word has the text of one. -/
theorem Spelling.word_iff (spelled : Spelling text kind) :
    kind ∈ [TokenKind.id, .number] ↔ ∀ c ∈ text, isWord c = true := by
  obtain ⟨-, word, rfl⟩ | ⟨c, rfl, sign, rfl⟩ := spelled.cases
  · exact iff_of_true (isWordToken_wordKind text) word
  · refine iff_of_false (symbolKind_ne_word c) ?_
    simp [sign.word]

/-! ## Cutting -/

theorem ne_hash_of_isBlank (blank : isBlank c = true) : c ≠ '#' := by
  rintro rfl
  exact absurd blank (by decide)

theorem isWord_of_isBlank (blank : isBlank c = true) : isWord c = false := by
  rw [Bool.eq_false_iff]
  intro word
  rw [Text.isBlank_of_isWord word] at blank
  cases blank

/-- What is left behind the word characters at the start of a text does not prolong them. -/
theorem endsWord_dropWhile (cs : List Char) : EndsWord (cs.dropWhile isWord) := by
  intro c first
  have stops := List.head?_dropWhile_not isWord cs
  rwa [first] at stops

/-- A gap only moves the columns. -/
theorem lexFrom_gap (blank : ∀ c ∈ gap, isBlank c = true) :
    lexFrom line col (gap ++ rest) = lexFrom line (col + gap.length) rest := by
  induction gap generalizing col with
  | nil => rfl
  | cons c gap ih =>
      obtain ⟨here, others⟩ := List.forall_mem_cons.mp blank
      rw [List.cons_append, lexFrom_blank here, ih others, List.length_cons, Nat.add_assoc,
        Nat.add_comm 1]

/-- The text of a token is cut off as this token, unless it is a word that goes on. -/
theorem lexFrom_spelling (spelled : Spelling text kind)
    (ends : (∀ c ∈ text, isWord c = true) → EndsWord rest) :
    lexFrom line col (text ++ rest) =
      ⟨kind, String.ofList text, line, col⟩ :: lexFrom line (col + text.length) rest := by
  obtain ⟨nonempty, word, rfl⟩ | ⟨c, rfl, sign, rfl⟩ := spelled.cases
  · exact lexFrom_word nonempty word (ends word)
  · exact lexFrom_symbol rest sign.hash sign.blank sign.word

/-! ## Rows of pieces -/

/-- The text of a token with the gap before it. -/
structure Piece where
  gap : List Char
  text : List Char
  kind : TokenKind
  deriving DecidableEq, Repr

namespace Piece

/-- The characters of a piece. -/
def chars (p : Piece) : List Char := p.gap ++ p.text

/-- The piece holds a word. -/
def IsWord (p : Piece) : Prop := ∀ c ∈ p.text, isWord c = true

/-- The tokens of pieces that stand side by side from a column on. -/
def tokens (line : Nat) : Nat → List Piece → List Token
  | _, [] => []
  | col, p :: ps =>
    ⟨p.kind, String.ofList p.text, line, col + p.gap.length⟩ ::
      tokens line (col + p.chars.length) ps

end Piece

/-- Pieces that stand side by side without running together. -/
structure Row (ps : List Piece) : Prop where
  blank : ∀ p ∈ ps, ∀ c ∈ p.gap, isBlank c = true
  spelled : ∀ p ∈ ps, Spelling p.text p.kind
  apart : ps.IsChain fun p q => p.IsWord → q.IsWord → q.gap ≠ []

variable {p : Piece} {ps : List Piece}

theorem row_nil : Row [] where
  blank _ member := absurd member List.not_mem_nil
  spelled _ member := absurd member List.not_mem_nil
  apart := .nil

theorem Row.infix (row : Row ps) {part : List Piece} (inside : part <:+: ps) : Row part where
  blank p member := row.blank p (inside.subset member)
  spelled p member := row.spelled p (inside.subset member)
  apart := row.apart.infix inside

theorem Row.tail (row : Row (p :: ps)) : Row ps := row.infix (List.suffix_cons p ps).isInfix

theorem endsWord_of_blank (blank : ∀ c ∈ gap, isBlank c = true) (nonempty : gap ≠ [])
    (rest : List Char) : EndsWord (gap ++ rest) := by
  obtain ⟨c, gap, rfl⟩ := List.exists_cons_of_ne_nil nonempty
  exact endsWord_cons _ (isWord_of_isBlank (blank c List.mem_cons_self))

/-- A word of a row is not prolonged by what follows it. -/
theorem Row.endsWord (row : Row (p :: ps)) (word : p.IsWord)
    (ends : ∀ q ∈ (p :: ps).getLast?, q.IsWord → EndsWord rest) :
    EndsWord (ps.flatMap Piece.chars ++ rest) := by
  cases ps with
  | nil => exact ends p rfl word
  | cons q qs =>
      rw [List.flatMap_cons, Piece.chars, List.append_assoc, List.append_assoc]
      by_cases touching : q.gap = []
      · rw [touching, List.nil_append]
        have notWord : ¬q.IsWord := fun also => row.apart.rel word also touching
        obtain ⟨-, also, -⟩ | ⟨c, single, sign, -⟩ := (row.spelled q (by simp)).cases
        · exact absurd also notWord
        · rw [single]
          exact endsWord_cons _ sign.word
      · exact endsWord_of_blank (row.blank q (by simp)) touching _

/-- Cutting a row gives its pieces back, and goes on with what follows the row. -/
theorem lexFrom_row (row : Row ps) (ends : ∀ p ∈ ps.getLast?, p.IsWord → EndsWord rest) :
    lexFrom line col (ps.flatMap Piece.chars ++ rest) =
      Piece.tokens line col ps ++
        lexFrom line (col + (ps.flatMap Piece.chars).length) rest := by
  induction ps generalizing col with
  | nil => rfl
  | cons p ps ih =>
      have later : ∀ q ∈ ps.getLast?, q.IsWord → EndsWord rest := by
        intro q last
        exact ends q (List.mem_getLast?_cons last)
      rw [List.flatMap_cons, Piece.chars, List.append_assoc, List.append_assoc,
        lexFrom_gap (row.blank p List.mem_cons_self),
        lexFrom_spelling (row.spelled p List.mem_cons_self) fun word => row.endsWord word ends,
        ih row.tail later, Piece.tokens, Piece.chars]
      simp only [List.length_append, List.cons_append, Nat.add_assoc]

/-! ## Layouts -/

/-- A row of pieces and what follows the last of them. -/
structure Layout where
  pieces : List Piece
  rest : List Char
  deriving DecidableEq, Repr

namespace Layout

/-- The line that is laid out. -/
def chars (l : Layout) : List Char := l.pieces.flatMap Piece.chars ++ l.rest

/-- The tokens of a layout at the columns where they stand. -/
def tokens (line : Nat) (l : Layout) : List Token := Piece.tokens line 1 l.pieces

/-- Nothing runs together, and blanks only follow, with or without a comment. -/
structure Proper (l : Layout) : Prop where
  row : Row l.pieces
  rest : ∃ blanks comment, l.rest = blanks ++ comment ∧ (∀ c ∈ blanks, isBlank c = true) ∧
    ∀ c ∈ comment.head?, c = '#'

variable {l : Layout}

theorem Proper.endsWord_rest (proper : l.Proper) : EndsWord l.rest := by
  obtain ⟨blanks, comment, split, blank, opens⟩ := proper.rest
  rw [split]
  by_cases none : blanks = []
  · subst none
    intro c first
    rw [opens c first]
    decide
  · exact endsWord_of_blank blank none comment

/-- There are no tokens after the last piece. -/
theorem Proper.lexFrom_rest (proper : l.Proper) (line col : Nat) :
    lexFrom line col l.rest = [] := by
  obtain ⟨blanks, comment, split, blank, opens⟩ := proper.rest
  rw [split, lexFrom_gap blank]
  cases comment with
  | nil => exact lexFrom_nil line _
  | cons c comment =>
      obtain rfl := opens c rfl
      exact lexFrom_comment line _ comment

/-- Cutting a line gives the pieces of a layout back. -/
theorem Proper.lexFrom_chars (proper : l.Proper) (line col : Nat) :
    lexFrom line col l.chars = Piece.tokens line col l.pieces := by
  rw [chars, lexFrom_row proper.row fun _ _ _ => proper.endsWord_rest, proper.lexFrom_rest,
    List.append_nil]

/-- A line that starts with a word prolongs the word before it. -/
theorem Proper.not_endsWord (proper : l.Proper) (first : p ∈ l.pieces.head?) (word : p.IsWord)
    (touching : p.gap = []) : ¬EndsWord l.chars := by
  obtain ⟨ps, split⟩ : ∃ ps, l.pieces = p :: ps := List.head?_eq_some_iff.mp first
  have nonempty := (proper.row.spelled p (by simp [split])).nonempty
  obtain ⟨c, text, starts⟩ := List.exists_cons_of_ne_nil nonempty
  intro ends
  have stops : isWord c = false := ends c (by simp [chars, split, Piece.chars, touching, starts])
  rw [word c (by simp [starts])] at stops
  cases stops

/-- A layout with one more piece in front, which what follows does not prolong. -/
theorem Proper.cons (proper : l.Proper) (blank : ∀ c ∈ p.gap, isBlank c = true)
    (spelled : Spelling p.text p.kind) (ends : p.IsWord → EndsWord l.chars) :
    Proper ⟨p :: l.pieces, l.rest⟩ := by
  refine ⟨⟨?_, ?_, ?_⟩, proper.rest⟩
  · exact List.forall_mem_cons.mpr ⟨blank, proper.row.blank⟩
  · exact List.forall_mem_cons.mpr ⟨spelled, proper.row.spelled⟩
  · apply proper.row.apart.cons
    intro q first word also touching
    exact proper.not_endsWord first also touching (ends word)

/-- A layout with one more blank in front. -/
theorem Proper.exists_blank (proper : l.Proper) (blank : isBlank c = true) :
    ∃ l' : Layout, l'.Proper ∧ l'.chars = c :: l.chars := by
  obtain ⟨_ | ⟨p, ps⟩, rest⟩ := l
  · obtain ⟨blanks, comment, split, blanks', opens⟩ := proper.rest
    refine ⟨⟨[], c :: rest⟩, ⟨row_nil, c :: blanks, comment, ?_, ?_, opens⟩, rfl⟩
    · exact congrArg (c :: ·) split
    · exact List.forall_mem_cons.mpr ⟨blank, blanks'⟩
  · obtain ⟨row, opens⟩ := proper
    obtain ⟨here, others⟩ := List.forall_mem_cons.mp row.blank
    refine ⟨⟨{ p with gap := c :: p.gap } :: ps, rest⟩, ⟨⟨?_, ?_, ?_⟩, opens⟩, rfl⟩
    · exact List.forall_mem_cons.mpr ⟨List.forall_mem_cons.mpr ⟨blank, here⟩, others⟩
    · exact List.forall_mem_cons.mpr (List.forall_mem_cons.mp row.spelled)
    · exact row.apart.tail.cons fun q first => row.apart.rel_head? first

/-- Every line has a proper layout: the lexer finds one. -/
theorem exists_proper (cs : List Char) : ∃ l : Layout, l.Proper ∧ l.chars = cs := by
  have nothing : ∀ comment : List Char, (∀ c ∈ comment.head?, c = '#') →
      Proper ⟨[], comment⟩ :=
    fun comment opens => ⟨row_nil, [], comment, rfl, by simp, opens⟩
  induction (1 : Nat), cs using lexFrom.induct with
  | case1 => exact ⟨⟨[], []⟩, nothing [] (by simp), rfl⟩
  | case2 col c cs hash => exact ⟨⟨[], c :: cs⟩, nothing (c :: cs) (by simpa using hash), rfl⟩
  | case3 col c cs _ blank ih =>
      obtain ⟨l, proper, rfl⟩ := ih
      exact proper.exists_blank blank
  | case4 col c cs _ _ first _ ih =>
      obtain ⟨l, proper, later⟩ := ih
      have word : ∀ d ∈ c :: cs.takeWhile isWord, isWord d = true :=
        List.forall_mem_cons.mpr ⟨first, List.all_eq_true.mp List.all_takeWhile⟩
      have ends : EndsWord l.chars := later ▸ endsWord_dropWhile cs
      refine ⟨_, proper.cons (p := ⟨[], c :: cs.takeWhile isWord, wordKind _⟩) (by simp)
        (spelling_word (List.cons_ne_nil _ _) word) fun _ => ends, ?_⟩
      calc (c :: cs.takeWhile isWord) ++ l.pieces.flatMap Piece.chars ++ l.rest
        _ = c :: (cs.takeWhile isWord ++ l.chars) := by simp [chars]
        _ = c :: cs := by rw [later, List.takeWhile_append_dropWhile]
  | case5 col c cs hash blank first ih =>
      obtain ⟨l, proper, rfl⟩ := ih
      have sign : IsSign c := ⟨by simpa using hash, by simpa using blank, by simpa using first⟩
      refine ⟨_, proper.cons (p := ⟨[], [c], symbolKind c⟩) (by simp) (spelling_sign sign) ?_, rfl⟩
      intro word
      rw [word c List.mem_cons_self] at first
      exact absurd rfl first

end Layout

/-! ## Tokens where they stand -/

/-- What may stand before a word without becoming part of it. -/
def StartsWord (before : List Char) : Prop := ∀ c ∈ before.getLast?, isWord c = false

/-- A token stands in a line between what is before it and what is after it: no comment has begun,
and a word is not a part of a longer one. -/
structure Stands (line : Nat) (cs : List Char) (t : Token) (before after : List Char) : Prop where
  split : cs = before ++ (t.text.toList ++ after)
  line : t.line = line
  col : t.col = before.length + 1
  uncommented : '#' ∉ before
  spelled : Spelling t.text.toList t.kind
  maximal : t.IsWordToken → StartsWord before ∧ EndsWord after

variable {before after : List Char} {t : Token}

theorem Row.hash_notMem (row : Row ps) : '#' ∉ ps.flatMap Piece.chars := by
  intro member
  obtain ⟨p, inRow, inPiece⟩ := List.mem_flatMap.mp member
  obtain inGap | inText := List.mem_append.mp inPiece
  · exact ne_hash_of_isBlank (row.blank p inRow _ inGap) rfl
  · exact (row.spelled p inRow).hash_notMem inText

/-- A word of a row does not prolong what stands before it. -/
theorem Row.startsWord (row : Row (ps ++ [p])) (word : p.IsWord) :
    StartsWord (ps.flatMap Piece.chars ++ p.gap) := by
  intro c last
  by_cases touching : p.gap = []
  · rw [touching, List.append_nil] at last
    obtain rfl | ⟨earlier, q, rfl⟩ := List.eq_nil_or_concat' ps
    · cases last
    · have notWord : ¬q.IsWord := by
        intro also
        have apart := (List.isChain_append.mp row.apart).2.2 q (by simp) p (by simp)
        exact apart also word touching
      obtain ⟨-, also, -⟩ | ⟨d, single, sign, -⟩ := (row.spelled q (by simp)).cases
      · exact absurd also notWord
      · obtain rfl : d = c := by simpa [Piece.chars, single] using last
        exact sign.word
  · rw [List.getLast?_append_of_ne_nil _ touching] at last
    exact isWord_of_isBlank (row.blank p (by simp) c (List.mem_of_getLast? last))

/-- Where no word is cut in two, the tokens of a line are those of its parts. -/
theorem lexFrom_append (uncommented : '#' ∉ before)
    (ends : ∀ c ∈ before.getLast?, isWord c = true → EndsWord rest) :
    lexFrom line col (before ++ rest) =
      lexFrom line col before ++ lexFrom line (col + before.length) rest := by
  obtain ⟨l, proper, rfl⟩ := Layout.exists_proper before
  obtain ⟨blanks, comment, split, blank, opens⟩ := proper.rest
  obtain rfl : comment = [] := by
    cases comment with
    | nil => rfl
    | cons c comment =>
        obtain rfl := opens c rfl
        exact absurd (by simp [Layout.chars, split]) uncommented
  rw [List.append_nil] at split
  have rowEnds : ∀ p ∈ l.pieces.getLast?, p.IsWord → EndsWord (blanks ++ rest) := by
    intro p last word
    by_cases none : blanks = []
    · obtain ⟨ps, whole⟩ := List.getLast?_eq_some_iff.mp last
      have nonempty := (proper.row.spelled p (by simp [whole])).nonempty
      have final : l.chars.getLast? = some (p.text.getLast nonempty) := by
        simp [Layout.chars, split, none, whole, Piece.chars, nonempty,
          List.getLast?_eq_some_getLast]
      rw [none]
      exact ends _ final (word _ (List.getLast_mem nonempty))
    · exact endsWord_of_blank blank none rest
  rw [proper.lexFrom_chars, Layout.chars, split, List.append_assoc,
    lexFrom_row proper.row rowEnds, lexFrom_gap blank, List.length_append, Nat.add_assoc]

theorem exists_piece_of_mem_tokens (member : t ∈ Piece.tokens line col ps) :
    ∃ earlier p later, ps = earlier ++ p :: later ∧
      t = ⟨p.kind, String.ofList p.text, line,
        col + (earlier.flatMap Piece.chars ++ p.gap).length⟩ := by
  induction ps generalizing col with
  | nil => cases member
  | cons p ps ih =>
      obtain rfl | later := List.mem_cons.mp member
      · exact ⟨[], p, ps, rfl, rfl⟩
      · obtain ⟨earlier, q, rest, rfl, rfl⟩ := ih later
        refine ⟨p :: earlier, q, rest, rfl, ?_⟩
        simp [Nat.add_assoc]

/-- The tokens of a line are what stands in it. -/
theorem mem_lex_iff : t ∈ lex line cs ↔ ∃ before after, Stands line cs t before after := by
  constructor
  · obtain ⟨⟨ps, rest⟩, proper, rfl⟩ := Layout.exists_proper cs
    intro member
    rw [lex, proper.lexFrom_chars] at member
    obtain ⟨earlier, p, later, rfl, rfl⟩ := exists_piece_of_mem_tokens member
    have row : Row (earlier ++ p :: later) := proper.row
    have spelled := row.spelled p (by simp)
    have upTo : Row (earlier ++ [p]) := row.infix ⟨[], later, by simp⟩
    have onwards : Row (p :: later) := row.infix (List.suffix_append earlier (p :: later)).isInfix
    refine ⟨earlier.flatMap Piece.chars ++ p.gap, later.flatMap Piece.chars ++ rest, ?_, rfl,
      Nat.add_comm .., ?_, by rwa [String.toList_ofList], ?_⟩
    · simp [Layout.chars, Piece.chars]
    · intro hash
      apply upTo.hash_notMem
      simpa [Piece.chars, or_assoc] using Or.inl (List.mem_append.mp hash)
    · intro word
      have word : p.IsWord := spelled.word_iff.mp word
      exact ⟨upTo.startsWord word, onwards.endsWord word fun _ _ _ => proper.endsWord_rest⟩
  · rintro ⟨before, after, stands⟩
    have ends : ∀ c ∈ before.getLast?, isWord c = true → EndsWord (t.text.toList ++ after) := by
      intro c last word
      obtain ⟨-, whole, -⟩ | ⟨d, single, sign, -⟩ := stands.spelled.cases
      · have starts := (stands.maximal (stands.spelled.word_iff.mpr whole)).1 c last
        rw [word] at starts
        cases starts
      · rw [single]
        exact endsWord_cons _ sign.word
    have cut : lexFrom line (1 + before.length) (t.text.toList ++ after) = _ :=
      lexFrom_spelling stands.spelled fun whole =>
        (stands.maximal (stands.spelled.word_iff.mpr whole)).2
    have same : (⟨t.kind, String.ofList t.text.toList, line, 1 + before.length⟩ : Token) = t := by
      rw [String.ofList_toList, Nat.add_comm, ← stands.col, ← stands.line]
    rw [lex, stands.split, lexFrom_append stands.uncommented ends, cut, same]
    exact List.mem_append_right _ List.mem_cons_self

/-! ## The whole of it -/

theorem le_col_of_mem_tokens (member : t ∈ Piece.tokens line col ps) : col ≤ t.col := by
  obtain ⟨earlier, p, later, -, rfl⟩ := exists_piece_of_mem_tokens member
  exact Nat.le_add_right ..

/-- The tokens of a row follow each other without overlap. -/
theorem Row.ordered (row : Row ps) (line col : Nat) :
    (Piece.tokens line col ps).Pairwise fun t u =>
      t.col < u.col ∧ t.col + t.text.toList.length ≤ u.col := by
  induction ps generalizing col with
  | nil => exact .nil
  | cons p ps ih =>
      refine .cons ?_ (ih row.tail _)
      intro u later
      have behind := le_col_of_mem_tokens later
      have nonempty := List.length_pos_iff.mpr (row.spelled p List.mem_cons_self).nonempty
      simp only [Piece.chars, List.length_append] at behind
      simp only [String.toList_ofList]
      omega

/-- What the tokens of a line have to be. They stand in it at their columns, one behind the other
and none at or after the first `#`; what is between them, before the first and after the last is
blank, up to a comment. They are the maximal runs of word characters before the comment, numbers
if all characters are digits and ids otherwise, and the single characters that are neither blank
nor in a word, with the kinds of their symbols if they have one. -/
structure Dissects (line : Nat) (cs : List Char) (tokens : List Token) : Prop where
  inPlace : ∀ t ∈ tokens, t.line = line ∧ 1 ≤ t.col ∧ t.text.toList <+: cs.drop (t.col - 1)
  ordered : tokens.Pairwise fun t u => t.col < u.col ∧ t.col + t.text.toList.length ≤ u.col
  uncommented : ∀ t ∈ tokens, '#' ∉ cs.take (t.col - 1 + t.text.toList.length)
  laidOut : ∃ l : Layout, l.Proper ∧ l.chars = cs ∧ l.tokens line = tokens
  exact : ∀ t, t ∈ tokens ↔ ∃ before after, Stands line cs t before after

theorem Stands.inPlace (stands : Stands line cs t before after) :
    t.line = line ∧ 1 ≤ t.col ∧ t.text.toList <+: cs.drop (t.col - 1) := by
  refine ⟨stands.line, ?_, ?_⟩
  · rw [stands.col]
    exact Nat.le_add_left 1 before.length
  · rw [stands.col, Nat.add_sub_cancel, stands.split, List.drop_left]
    exact List.prefix_append t.text.toList after

theorem Stands.hash_notMem (stands : Stands line cs t before after) :
    '#' ∉ cs.take (t.col - 1 + t.text.toList.length) := by
  have upTo : cs = (before ++ t.text.toList) ++ after := by
    rw [stands.split, List.append_assoc]
  rw [stands.col, Nat.add_sub_cancel, ← List.length_append, upTo, List.take_left, List.mem_append]
  exact not_or_intro stands.uncommented stands.spelled.hash_notMem

theorem dissects_lex (line : Nat) (cs : List Char) : Dissects line cs (lex line cs) := by
  obtain ⟨l, proper, chars⟩ := Layout.exists_proper cs
  have tokens : l.tokens line = lex line cs := by
    rw [← chars, lex, proper.lexFrom_chars, Layout.tokens]
  refine ⟨?_, ?_, ?_, ⟨l, proper, chars, tokens⟩, fun t => mem_lex_iff⟩
  · intro t member
    obtain ⟨before, after, stands⟩ := mem_lex_iff.mp member
    exact stands.inPlace
  · rw [← tokens]
    exact proper.row.ordered line 1
  · intro t member
    obtain ⟨before, after, stands⟩ := mem_lex_iff.mp member
    exact stands.hash_notMem

/-- The lexer is lossless and canonical. The tokens of any line are what it is made of; and token
texts laid out in whatever way, with any blanks before, between and after them, as long as two
words do not touch, and with any comment, are cut into exactly these tokens at the columns where
they were put. -/
theorem lex_lossless_canonical (line : Nat) :
    (∀ cs, Dissects line cs (lex line cs)) ∧
    ∀ l : Layout, l.Proper → lex line l.chars = l.tokens line := by
  refine ⟨dissects_lex line, ?_⟩
  intro l proper
  exact proper.lexFrom_chars line 1

/-- A word and a number that touch a symbol, a wide gap, and a comment. -/
example :
    lex 7 "  A(12 \t-# x".toList =
      [⟨.id, "A", 7, 3⟩, ⟨.leftParen, "(", 7, 4⟩, ⟨.number, "12", 7, 5⟩, ⟨.dash, "-", 7, 9⟩] := by
  decide +kernel

end Straightedge.Token
