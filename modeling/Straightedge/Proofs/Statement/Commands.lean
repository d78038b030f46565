import Straightedge.Proofs.Statement.Lexing
import Straightedge.Statement.Basic

/-!
# The tokens of a command

The shape of every complete command, said without the reader: the keyword of its
kind, the id it declares, and what the kind needs. Main statement: the reader
accepts exactly the token lists that start with a shape, and gives the statement
that the shape spells, whatever follows it.
-/

namespace Straightedge

/-- The reference that a word makes. -/
def Token.reference (t : Token) : Reference := ⟨t.text, t.span⟩

/-- A token that may stand for an integer: a number that is not too long. -/
structure Token.IsInteger (t : Token) : Prop where
  number : t.kind = .number
  short : t.text.toList.length ≤ Statement.maxDigits

/-- The number that a token stands for. -/
def Token.value (t : Token) : Nat := Text.decimalValue t.text.toList

/-- The token is the keyword of a kind. -/
structure Token.IsKeyword (t : Token) (kind : Kind) : Prop where
  word : t.kind = .id
  spelled : kind.keyword? = some t.text

namespace Statement

/-- The tokens of a complete command and the statement they spell. -/
inductive Spells : List Token → Statement → Prop where
  | point {keyword declared opening x comma y closing : Token}
      (isKeyword : keyword.IsKeyword .point) (isName : declared.IsWordToken)
      (opens : opening.kind = .leftParen) (first : x.IsInteger) (separates : comma.kind = .comma)
      (second : y.IsInteger) (closes : closing.kind = .rightParen) :
      Spells [keyword, declared, opening, x, comma, y, closing]
        (.point declared.text x.value y.value keyword.span)
  | made {kind : Kind} {keyword declared : Token} {refs : List Token}
      (notPoint : kind ≠ .point) (isKeyword : keyword.IsKeyword kind)
      (isName : declared.IsWordToken) (areNames : ∀ t ∈ refs, t.IsWordToken)
      (arity : refs.length = kind.arity) :
      Spells (keyword :: declared :: refs)
        (.made kind declared.text (refs.map Token.reference) keyword.span)

variable {α β : Type} {tokens rest : List Token}

theorem bind_eq_ok_iff {m : Reader α} {f : α → Reader β} {b : β} :
    (m >>= f) tokens = .ok (b, rest) ↔
      ∃ a middle, m tokens = .ok (a, middle) ∧ f a middle = .ok (b, rest) := by
  change (m tokens >>= fun p => f p.1 p.2) = _ ↔ _
  cases m tokens with
  | error err => simp [bind, Except.bind]
  | ok read =>
      obtain ⟨a, middle⟩ := read
      simp [bind, Except.bind]

theorem pure_eq_ok_iff {a b : α} :
    (pure a : Reader α) tokens = .ok (b, rest) ↔ b = a ∧ rest = tokens := by
  change Except.ok (a, tokens) = _ ↔ _
  simp [eq_comm]

theorem expect_eq_ok_iff {wanted : List TokenKind} {t : Token} :
    expect wanted tokens = .ok (t, rest) ↔ t.kind ∈ wanted ∧ tokens = t :: rest := by
  cases tokens with
  | nil => simp [expect]
  | cons first tokens =>
      by_cases h : first.kind ∈ wanted
      · simp only [expect, if_pos h, Except.ok.injEq, Prod.mk.injEq, List.cons.injEq]
        constructor
        · rintro ⟨rfl, rfl⟩
          exact ⟨h, rfl, rfl⟩
        · rintro ⟨-, rfl, rfl⟩
          exact ⟨rfl, rfl⟩
      · simp only [expect, if_neg h, reduceCtorEq, List.cons.injEq, false_iff, not_and]
        rintro member rfl
        exact absurd member h

theorem expect_one_eq_ok_iff {kind : TokenKind} {t : Token} :
    expect [kind] tokens = .ok (t, rest) ↔ t.kind = kind ∧ tokens = t :: rest := by
  rw [expect_eq_ok_iff, List.mem_singleton]

theorem name_eq_ok_iff {ref : Reference} :
    name tokens = .ok (ref, rest) ↔
      ∃ t : Token, t.IsWordToken ∧ ref = t.reference ∧ tokens = t :: rest := by
  unfold name
  simp only [bind_eq_ok_iff, expect_eq_ok_iff, pure_eq_ok_iff]
  constructor
  · rintro ⟨t, middle, ⟨word, rfl⟩, rfl, rfl⟩
    exact ⟨t, word, rfl, rfl⟩
  · rintro ⟨t, word, rfl, rfl⟩
    exact ⟨t, rest, ⟨word, rfl⟩, rfl, rfl⟩

theorem names_eq_ok_iff {n : Nat} {refs : List Reference} :
    names n tokens = .ok (refs, rest) ↔
      ∃ words : List Token, words.length = n ∧ (∀ t ∈ words, t.IsWordToken) ∧
        refs = words.map Token.reference ∧ tokens = words ++ rest := by
  induction n generalizing tokens rest refs with
  | zero =>
      rw [names, pure_eq_ok_iff]
      constructor
      · rintro ⟨rfl, rfl⟩
        exact ⟨[], rfl, by simp, rfl, rfl⟩
      · rintro ⟨words, empty, -, rfl, rfl⟩
        obtain rfl := List.eq_nil_of_length_eq_zero empty
        exact ⟨rfl, rfl⟩
  | succ n ih =>
      rw [names]
      simp only [bind_eq_ok_iff, name_eq_ok_iff, ih, pure_eq_ok_iff]
      constructor
      · rintro ⟨ref, middle, ⟨t, word, rfl, rfl⟩, refs, _, ⟨words, rfl, all, rfl, rfl⟩, rfl, rfl⟩
        exact ⟨t :: words, rfl, List.forall_mem_cons.mpr ⟨word, all⟩, rfl, rfl⟩
      · rintro ⟨words, length, all, rfl, rfl⟩
        obtain ⟨t, words, rfl⟩ := List.exists_cons_of_length_eq_add_one length
        obtain ⟨word, all⟩ := List.forall_mem_cons.mp all
        exact ⟨_, _, ⟨t, word, rfl, rfl⟩, _, rest, ⟨words, by simpa using length, all, rfl, rfl⟩,
          rfl, rfl⟩

theorem integer_eq_ok_iff {n : Nat} :
    integer tokens = .ok (n, rest) ↔
      ∃ t : Token, t.IsInteger ∧ n = t.value ∧ tokens = t :: rest := by
  unfold integer
  simp only [bind_eq_ok_iff, expect_one_eq_ok_iff]
  constructor
  · rintro ⟨t, middle, ⟨number, rfl⟩, h⟩
    split at h
    · obtain ⟨rfl, rfl⟩ := pure_eq_ok_iff.mp h
      exact ⟨t, ⟨number, ‹_›⟩, rfl, rfl⟩
    · cases h
  · rintro ⟨t, ⟨number, short⟩, rfl, rfl⟩
    refine ⟨t, rest, ⟨number, rfl⟩, ?_⟩
    rw [if_pos short]
    rfl

theorem arguments_point_eq_ok_iff {span : Span} {st : Statement} :
    arguments .point span tokens = .ok (st, rest) ↔
      ∃ declared opening x comma y closing : Token, declared.IsWordToken ∧
        opening.kind = .leftParen ∧ x.IsInteger ∧ comma.kind = .comma ∧ y.IsInteger ∧
        closing.kind = .rightParen ∧ st = .point declared.text x.value y.value span ∧
        tokens = declared :: opening :: x :: comma :: y :: closing :: rest := by
  simp only [arguments, bind_eq_ok_iff, name_eq_ok_iff, expect_one_eq_ok_iff, integer_eq_ok_iff,
    pure_eq_ok_iff]
  constructor
  · rintro ⟨_, _, ⟨declared, isName, rfl, rfl⟩, opening, _, ⟨opens, rfl⟩, _, _,
      ⟨x, first, rfl, rfl⟩, comma, _, ⟨separates, rfl⟩, _, _, ⟨y, second, rfl, rfl⟩, closing, _,
      ⟨closes, rfl⟩, rfl, rfl⟩
    exact ⟨declared, opening, x, comma, y, closing, isName, opens, first, separates, second, closes,
      rfl, rfl⟩
  · rintro ⟨declared, opening, x, comma, y, closing, isName, opens, first, separates, second,
      closes, rfl, rfl⟩
    exact ⟨_, _, ⟨declared, isName, rfl, rfl⟩, opening, _, ⟨opens, rfl⟩, _, _, ⟨x, first, rfl, rfl⟩,
      comma, _, ⟨separates, rfl⟩, _, _, ⟨y, second, rfl, rfl⟩, closing, _, ⟨closes, rfl⟩, rfl, rfl⟩

theorem arguments_made_eq_ok_iff {kind : Kind} (notPoint : kind ≠ .point) {span : Span}
    {st : Statement} :
    arguments kind span tokens = .ok (st, rest) ↔
      ∃ (declared : Token) (refs : List Token), declared.IsWordToken ∧
        (∀ t ∈ refs, t.IsWordToken) ∧ refs.length = kind.arity ∧
        st = .made kind declared.text (refs.map Token.reference) span ∧
        tokens = declared :: (refs ++ rest) := by
  have unfolded : arguments kind span = (do
      let declared ← name
      return .made kind declared.id (← names kind.arity) span) := by
    cases kind <;> first | rfl | exact absurd rfl notPoint
  simp only [unfolded, bind_eq_ok_iff, name_eq_ok_iff, names_eq_ok_iff, pure_eq_ok_iff]
  constructor
  · rintro ⟨_, _, ⟨declared, isName, rfl, rfl⟩, _, _, ⟨refs, arity, areNames, rfl, rfl⟩, rfl, rfl⟩
    exact ⟨declared, refs, isName, areNames, arity, rfl, rfl⟩
  · rintro ⟨declared, refs, isName, areNames, arity, rfl, rfl⟩
    exact ⟨_, _, ⟨declared, isName, rfl, rfl⟩, _, _, ⟨refs, arity, areNames, rfl, rfl⟩, rfl, rfl⟩

/-- The reader of commands accepts the shapes of commands and leaves alone what follows. -/
theorem command_eq_ok_iff {st : Statement} :
    command tokens = .ok (st, rest) ↔ ∃ shape, Spells shape st ∧ tokens = shape ++ rest := by
  simp only [command, bind_eq_ok_iff, expect_one_eq_ok_iff]
  constructor
  · rintro ⟨keyword, middle, ⟨word, rfl⟩, h⟩
    cases known : Kind.ofKeyword? keyword.text with
    | none =>
        rw [known] at h
        cases h
    | some kind =>
        rw [known] at h
        have isKeyword : keyword.IsKeyword kind := ⟨word, Kind.ofKeyword?_eq_some_iff.mp known⟩
        by_cases point : kind = .point
        · subst point
          obtain ⟨declared, opening, x, comma, y, closing, isName, opens, first, separates, second,
            closes, rfl, rfl⟩ := arguments_point_eq_ok_iff.mp h
          exact ⟨_, .point isKeyword isName opens first separates second closes, rfl⟩
        · obtain ⟨declared, refs, isName, areNames, arity, rfl, rfl⟩ :=
            (arguments_made_eq_ok_iff point).mp h
          exact ⟨_, .made point isKeyword isName areNames arity, rfl⟩
  · rintro ⟨shape, spells, rfl⟩
    cases spells with
    | point isKeyword isName opens first separates second closes =>
        refine ⟨_, _, ⟨isKeyword.word, rfl⟩, ?_⟩
        rw [Kind.ofKeyword?_eq_some_iff.mpr isKeyword.spelled]
        exact arguments_point_eq_ok_iff.mpr
          ⟨_, _, _, _, _, _, isName, opens, first, separates, second, closes, rfl, rfl⟩
    | made notPoint isKeyword isName areNames arity =>
        refine ⟨_, _, ⟨isKeyword.word, rfl⟩, ?_⟩
        rw [Kind.ofKeyword?_eq_some_iff.mpr isKeyword.spelled]
        exact (arguments_made_eq_ok_iff notPoint).mpr ⟨_, _, isName, areNames, arity, rfl, rfl⟩

/-- A statement is read exactly from the token lists that start with its shape. -/
theorem ofTokens?_eq_some_iff {st : Statement} :
    ofTokens? tokens = .ok (some st) ↔
      ∃ shape rest, Spells shape st ∧ tokens = shape ++ rest := by
  have reads : ofTokens? tokens = .ok (some st) ↔ ∃ rest, command tokens = .ok (st, rest) := by
    cases tokens with
    | nil => simp [ofTokens?, command, expect, bind, StateT.bind, Except.bind]
    | cons t tokens =>
        change (command (t :: tokens) >>= fun p => Except.ok (some p.1)) = _ ↔ _
        cases command (t :: tokens) with
        | error err => simp [bind, Except.bind]
        | ok read =>
            obtain ⟨other, rest⟩ := read
            simp [bind, Except.bind]
  rw [reads]
  constructor
  · rintro ⟨rest, h⟩
    obtain ⟨shape, spells, split⟩ := command_eq_ok_iff.mp h
    exact ⟨shape, rest, spells, split⟩
  · rintro ⟨shape, rest, spells, split⟩
    exact ⟨rest, command_eq_ok_iff.mpr ⟨shape, spells, split⟩⟩

end Statement

end Straightedge
