import Mathlib.Data.List.Forall2
import Straightedge.Proofs.Statement.Commands

/-!
# The places of a command

After its keyword a command is a fixed row of places, each of which takes one
token. Tokens that leave a place open are wrong at one definite point: the first
token that its place does not take, or the end of the line. A reader of several
places in a row succeeds on tokens that fill them and otherwise reports that
point, so the readers of commands are taken apart into readers of single places.
-/

namespace Straightedge

namespace Statement

/-- A place of a command after its keyword. -/
inductive Slot where
  /-- An id; a number will do. -/
  | word
  | integer
  | symbol (kind : TokenKind)
  deriving DecidableEq, Repr

namespace Slot

/-- The kinds of tokens that may stand in a place. -/
def wanted : Slot → List TokenKind
  | word => [.id, .number]
  | integer => [.number]
  | symbol kind => [kind]

/-- The tokens that a place takes. -/
def Accepts : Slot → Token → Prop
  | word, t => t.IsWordToken
  | integer, t => t.IsInteger
  | symbol kind, t => t.kind = kind

/-- How a place refuses a token: a number that it does not take is too long. -/
def refusal (slot : Slot) (t : Token) : StatementError :=
  if t.kind ∈ slot.wanted then .integerTooLong t else .unexpected t slot.wanted

theorem mem_wanted_of_accepts {slot : Slot} {t : Token} (h : slot.Accepts t) :
    t.kind ∈ slot.wanted := by
  cases slot with
  | word => exact h
  | integer => exact List.mem_singleton.mpr h.number
  | symbol kind => exact List.mem_singleton.mpr h

end Slot

/-- The places of a command of a kind, after its keyword. -/
def slots : Kind → List Slot
  | .point =>
    [.word, .symbol .leftParen, .integer, .symbol .comma, .integer, .symbol .rightParen]
  | .line | .segment | .ray | .midpoint | .bisector | .circle => [.word, .word, .word]
  | .angle => [.word, .word, .word, .word]
  | .angleBisector => [.word, .word]
  | .plane => [.word]

/-- Tokens that fill places one by one. -/
abbrev Fits (places : List Slot) (args : List Token) : Prop := List.Forall₂ Slot.Accepts places args

/-- Why tokens do not fill places: the first token that its place refuses, or their end. -/
inductive Misfit : List Slot → List Token → StatementError → Prop where
  | endOfLine (slot : Slot) (places : List Slot) :
      Misfit (slot :: places) [] (.endOfLine slot.wanted)
  | here {slot : Slot} {places : List Slot} {t : Token} {rest : List Token}
      (refused : ¬slot.Accepts t) : Misfit (slot :: places) (t :: rest) (slot.refusal t)
  | later {slot : Slot} {places : List Slot} {t : Token} {rest : List Token} {err : StatementError}
      (fits : slot.Accepts t) (misfit : Misfit places rest err) :
      Misfit (slot :: places) (t :: rest) err

variable {places more : List Slot} {tokens args rest : List Token} {err : StatementError}

theorem Misfit.append_right (h : Misfit places tokens err) (more : List Slot) :
    Misfit (places ++ more) tokens err := by
  induction h with
  | endOfLine slot places => exact .endOfLine slot (places ++ more)
  | here refused => exact .here refused
  | later fits _ ih => exact .later fits ih

theorem Misfit.append_left (fits : Fits places args) (h : Misfit more rest err) :
    Misfit (places ++ more) (args ++ rest) err := by
  induction fits with
  | nil => exact h
  | cons first _ ih => exact .later first ih

/-- Tokens that start by filling places have nothing wrong with them. -/
theorem Misfit.not_fits (h : Misfit places tokens err) : ¬∃ args rest, tokens = args ++ rest ∧
    Fits places args := by
  rintro ⟨args, rest, split, fits⟩
  induction h generalizing args with
  | endOfLine slot places =>
      cases fits
      cases split
  | here refused =>
      cases fits with
      | cons first _ =>
          obtain ⟨rfl, -⟩ := List.cons.inj split
          exact refused first
  | later _ _ ih =>
      cases fits with
      | cons _ others =>
          obtain ⟨-, split⟩ := List.cons.inj split
          exact ih _ split others

/-- What is wrong is definite. -/
theorem Misfit.unique {err' : StatementError} (h : Misfit places tokens err)
    (h' : Misfit places tokens err') : err = err' := by
  induction h with
  | endOfLine slot places =>
      cases h'
      rfl
  | here refused =>
      cases h' with
      | here _ => rfl
      | later fits _ => exact absurd fits refused
  | later fits _ ih =>
      cases h' with
      | here refused => exact absurd fits refused
      | later _ misfit => exact ih misfit

/-! ## Readers of places -/

/-- A reader that takes one token for each of some places and fails where they do not fit. -/
structure Reads {α : Type} (m : Reader α) (places : List Slot) : Prop where
  takes : ∀ {tokens a rest}, m tokens = .ok (a, rest) → ∃ args, tokens = args ++ rest ∧
    Fits places args
  refuses : ∀ {tokens err}, m tokens = .error err → Misfit places tokens err

variable {α β : Type}

theorem bind_eq_error_iff {m : Reader α} {f : α → Reader β} :
    (m >>= f) tokens = .error err ↔
      m tokens = .error err ∨ ∃ a middle, m tokens = .ok (a, middle) ∧ f a middle = .error err := by
  change (m tokens >>= fun p => f p.1 p.2) = _ ↔ _
  cases m tokens with
  | error other => simp [bind, Except.bind]
  | ok read =>
      obtain ⟨a, middle⟩ := read
      simp [bind, Except.bind]

/-- Reading goes on with the places after those that were read. -/
theorem Reads.bind {m : Reader α} {f : α → Reader β} (first : Reads m places)
    (next : ∀ a, Reads (f a) more) : Reads (m >>= f) (places ++ more) := by
  constructor
  · intro tokens b rest h
    obtain ⟨a, middle, read, goesOn⟩ := bind_eq_ok_iff.mp h
    obtain ⟨args, rfl, fits⟩ := first.takes read
    obtain ⟨others, rfl, alsoFits⟩ := (next a).takes goesOn
    exact ⟨args ++ others, (List.append_assoc ..).symm, List.rel_append fits alsoFits⟩
  · intro tokens err h
    rcases bind_eq_error_iff.mp h with failed | ⟨a, middle, read, failed⟩
    · exact (first.refuses failed).append_right more
    · obtain ⟨args, rfl, fits⟩ := first.takes read
      exact .append_left fits ((next a).refuses failed)

theorem reads_pure (a : α) : Reads (pure a) [] := by
  constructor
  · intro tokens b rest h
    obtain ⟨-, rfl⟩ := pure_eq_ok_iff.mp h
    exact ⟨[], rfl, .nil⟩
  · intro tokens err h
    cases h

/-- A reader of one place takes a token that fits it, or names the place. -/
theorem reads_one {m : Reader α} {slot : Slot}
    (takes : ∀ {tokens a rest}, m tokens = .ok (a, rest) →
      ∃ t : Token, tokens = t :: rest ∧ slot.Accepts t)
    (atEnd : ∀ {err}, m [] = .error err → err = .endOfLine slot.wanted)
    (refuses : ∀ {t rest err}, m (t :: rest) = .error err →
      ¬slot.Accepts t ∧ err = slot.refusal t) : Reads m [slot] := by
  constructor
  · intro tokens a rest h
    obtain ⟨t, rfl, fits⟩ := takes h
    exact ⟨[t], rfl, .cons fits .nil⟩
  · intro tokens err h
    cases tokens with
    | nil =>
        obtain rfl := atEnd h
        exact .endOfLine slot []
    | cons t rest =>
        obtain ⟨refused, rfl⟩ := refuses h
        exact .here refused

theorem expect_cons_eq_error_iff {wanted : List TokenKind} {t : Token} :
    expect wanted (t :: rest) = .error err ↔ t.kind ∉ wanted ∧ err = .unexpected t wanted := by
  by_cases member : t.kind ∈ wanted <;> simp [expect, member, eq_comm]

/-- Where only the kind of a token matters, the places of that kind are read. -/
theorem reads_expect {slot : Slot} (takes : ∀ t : Token, t.kind ∈ slot.wanted → slot.Accepts t) :
    Reads (expect slot.wanted) [slot] := by
  apply reads_one
  · intro tokens t rest h
    obtain ⟨member, rfl⟩ := expect_eq_ok_iff.mp h
    exact ⟨t, rfl, takes t member⟩
  · intro err h
    exact (Except.error.inj h).symm
  · intro t rest err h
    obtain ⟨other, rfl⟩ := expect_cons_eq_error_iff.mp h
    exact ⟨fun fits => other (Slot.mem_wanted_of_accepts fits), (if_neg other).symm⟩

theorem reads_symbol (kind : TokenKind) : Reads (expect [kind]) [.symbol kind] :=
  @reads_expect (.symbol kind) fun _ member => List.mem_singleton.mp member

theorem reads_name : Reads name [.word] :=
  (@reads_expect .word fun _ member => member).bind fun _ => reads_pure _

theorem reads_names (n : Nat) : Reads (names n) (List.replicate n .word) := by
  induction n with
  | zero => exact reads_pure []
  | succ n ih =>
      rw [names]
      apply reads_name.bind
      intro ref
      rw [← List.append_nil (List.replicate n _)]
      apply ih.bind
      intro refs
      exact reads_pure (ref :: refs)

theorem reads_integer : Reads integer [.integer] := by
  apply reads_one
  · intro tokens n rest h
    obtain ⟨t, isInteger, -, rfl⟩ := integer_eq_ok_iff.mp h
    exact ⟨t, rfl, isInteger⟩
  · intro err h
    rcases bind_eq_error_iff.mp h with failed | ⟨t, middle, read, -⟩
    · exact (Except.error.inj failed).symm
    · cases read
  · intro t rest err h
    rcases bind_eq_error_iff.mp h with failed | ⟨t', middle, read, failed⟩
    · obtain ⟨other, rfl⟩ := expect_cons_eq_error_iff.mp failed
      exact ⟨fun fits => other (List.mem_singleton.mpr fits.number), (if_neg other).symm⟩
    · obtain ⟨number, same⟩ := expect_eq_ok_iff.mp read
      obtain ⟨rfl, rfl⟩ := List.cons.inj same
      split at failed
      · cases failed
      · rename_i long
        obtain rfl := Except.error.inj failed
        exact ⟨fun fits => long fits.short, (if_pos number).symm⟩

/-- Every kind but a point is declared by its id and the ids it refers to. -/
theorem slots_of_ne_point {kind : Kind} (notPoint : kind ≠ .point) :
    slots kind = .word :: List.replicate kind.arity .word := by
  cases kind <;> first | rfl | exact absurd rfl notPoint

/-- The reader of a command reads the places of its kind. -/
theorem reads_arguments (kind : Kind) (span : Span) : Reads (arguments kind span) (slots kind) := by
  by_cases point : kind = .point
  · subst point
    apply reads_name.bind
    intro declared
    apply (reads_symbol .leftParen).bind
    intro _
    apply reads_integer.bind
    intro x
    apply (reads_symbol .comma).bind
    intro _
    apply reads_integer.bind
    intro y
    apply (reads_symbol .rightParen).bind
    intro _
    exact reads_pure _
  · have unfolded : arguments kind span = (do
        let declared ← name
        return .made kind declared.id (← names kind.arity) span) := by
      cases kind <;> first | rfl | exact absurd rfl point
    rw [unfolded, slots_of_ne_point point]
    apply reads_name.bind
    intro declared
    rw [← List.append_nil (List.replicate kind.arity _)]
    apply (reads_names kind.arity).bind
    intro refs
    exact reads_pure _

/-- A reader of places fails exactly where they do not fit. -/
theorem Reads.eq_error_iff {m : Reader α} (h : Reads m places) :
    m tokens = .error err ↔ Misfit places tokens err := by
  constructor
  · exact h.refuses
  · intro misfit
    cases read : m tokens with
    | error other => rw [(h.refuses read).unique misfit]
    | ok result =>
        obtain ⟨a, rest⟩ := result
        obtain ⟨args, split, fits⟩ := h.takes read
        exact absurd ⟨args, rest, split, fits⟩ misfit.not_fits

end Statement

end Straightedge
