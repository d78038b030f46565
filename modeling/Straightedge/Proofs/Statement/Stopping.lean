import Straightedge.Proofs.Statement.Grammar

/-!
# Where a command stops

Tokens that start with no complete command are wrong at one definite point, and
this point is told without the reader's state. Either there is a first token at
which no command can go on: the tokens before it are the beginning of one, and
with this token they are the beginning of none. Or the tokens are the beginning
of a command that ends too early. Only the first kind of error has a token to
point at.
-/

namespace Straightedge

namespace Statement

variable {places done later : List Slot} {tokens args rest : List Token} {keyword t : Token}
  {kind : Kind} {err : StatementError}

/-- The beginning of a complete command. -/
def Completable (tokens : List Token) : Prop :=
  ∃ more st, ofTokens? (tokens ++ more) = .ok (some st)

/-- A token is the first at which no command can go on: the tokens before it are the beginning of
a complete command, and with it they fail for the same reason whatever follows. -/
def StopsAt (tokens : List Token) (t : Token) (err : StatementError) : Prop :=
  ∃ earlier later, tokens = earlier ++ t :: later ∧ Completable earlier ∧
    ∀ more, ofTokens? (earlier ++ t :: more) = .error err

/-- Tokens that are the beginning of a complete command and fail because they end there. -/
structure Unfinished (tokens : List Token) : Prop where
  begins : Completable tokens
  fails : ∃ err, ofTokens? tokens = .error err

/-! ## Commands that are begun -/

theorem exists_accepts (slot : Slot) : ∃ t, slot.Accepts t := by
  cases slot with
  | word => exact ⟨⟨.id, "A", 1, 1⟩, List.mem_cons_self⟩
  | integer => exact ⟨⟨.number, "0", 1, 1⟩, rfl, by decide⟩
  | symbol kind => exact ⟨⟨kind, "", 1, 1⟩, rfl⟩

/-- Any places can be filled. -/
theorem exists_fits (places : List Slot) : ∃ args, Fits places args := by
  induction places with
  | nil => exact ⟨[], .nil⟩
  | cons slot places ih =>
      obtain ⟨t, accepts⟩ := exists_accepts slot
      obtain ⟨args, fits⟩ := ih
      exact ⟨t :: args, .cons accepts fits⟩

/-- A keyword with some of its places filled is the beginning of a command. -/
theorem completable_of_fits (isKeyword : keyword.IsKeyword kind) (fits : Fits done args)
    (open_ : slots kind = done ++ later) : Completable (keyword :: args) := by
  obtain ⟨more, completes⟩ := exists_fits later
  have filled : Fits (slots kind) (args ++ more) := open_ ▸ List.rel_append fits completes
  obtain ⟨st, spells⟩ := exists_spells isKeyword filled
  exact ⟨more, st, ofTokens?_eq_some_iff.mpr ⟨_, [], spells, by simp⟩⟩

theorem completable_nil : Completable [] := by
  have isKeyword : Token.IsKeyword ⟨.id, "Segment", 1, 1⟩ .segment := ⟨rfl, rfl⟩
  obtain ⟨args, fits⟩ := exists_fits (slots .segment)
  obtain ⟨st, spells⟩ := exists_spells isKeyword fits
  exact ⟨⟨.id, "Segment", 1, 1⟩ :: args, st,
    ofTokens?_eq_some_iff.mpr ⟨_, [], spells, by simp⟩⟩

/-! ## The point at which reading stops -/

/-- Tokens that do not fill places fill some of them, and then either end or go on with a token
that the next place refuses. -/
theorem Misfit.exists_filled (h : Misfit places tokens err) :
    ∃ done slot later, places = done ++ slot :: later ∧
      (Fits done tokens ∧ err = .endOfLine slot.wanted ∨
        ∃ earlier t rest, tokens = earlier ++ t :: rest ∧ Fits done earlier ∧
          ¬slot.Accepts t ∧ err = slot.refusal t) := by
  induction h with
  | endOfLine slot places => exact ⟨[], slot, places, rfl, .inl ⟨.nil, rfl⟩⟩
  | @here slot places t rest refused =>
      exact ⟨[], slot, places, rfl, .inr ⟨[], t, rest, rfl, .nil, refused, rfl⟩⟩
  | @later slot places t rest err fits _ ih =>
      obtain ⟨done, next, later, rfl, ended | ⟨earlier, t', rest', rfl, filled, refused⟩⟩ := ih
      · exact ⟨slot :: done, next, later, rfl, .inl ⟨.cons fits ended.1, ended.2⟩⟩
      · exact ⟨slot :: done, next, later, rfl,
          .inr ⟨t :: earlier, t', rest', rfl, .cons fits filled, refused⟩⟩

theorem place?_refusal (slot : Slot) (t : Token) : (slot.refusal t).place? = some t.span := by
  unfold Slot.refusal
  split <;> rfl

theorem stopsAt_of_misread (earlier : List Token) (split : tokens = earlier ++ t :: rest)
    (begun : Completable earlier) (misread : ∀ more, Misread (earlier ++ t :: more) err) :
    StopsAt tokens t err :=
  ⟨earlier, rest, split, begun, fun more => ofTokens?_eq_error_iff.mpr (misread more)⟩

/-- Tokens that fail to be read as a command stop at a first token, or end too early. -/
theorem Misread.stopsAt_or_unfinished (h : Misread tokens err) :
    (∃ t ∈ tokens, err.place? = some t.span ∧ StopsAt tokens t err) ∨
      (∃ wanted, err = .endOfLine wanted) ∧ Unfinished tokens := by
  have misread := h
  cases h with
  | @notWord t rest other =>
      exact .inl ⟨t, List.mem_cons_self, rfl,
        stopsAt_of_misread [] rfl completable_nil fun _ => .notWord other⟩
  | @notKeyword t rest word unknown =>
      exact .inl ⟨t, List.mem_cons_self, rfl,
        stopsAt_of_misread [] rfl completable_nil fun _ => .notKeyword word unknown⟩
  | @misfit keyword kind rest err isKeyword misfit =>
      obtain ⟨done, slot, later, places, ended | ⟨earlier, t, rest', rfl, fits, refused, rfl⟩⟩ :=
        misfit.exists_filled
      · obtain ⟨fits, rfl⟩ := ended
        exact .inr ⟨⟨_, rfl⟩, completable_of_fits isKeyword fits places, _,
          ofTokens?_eq_error_iff.mpr misread⟩
      · refine .inl ⟨t, by simp, place?_refusal slot t, ?_⟩
        apply stopsAt_of_misread (keyword :: earlier) rfl
          (completable_of_fits isKeyword fits places)
        intro more
        refine .misfit isKeyword ?_
        rw [places]
        exact .append_left fits (.here refused)

/-- Tokens that stop at one of them are no beginning of a complete command. -/
theorem StopsAt.not_unfinished (h : StopsAt tokens t err) : ¬Unfinished tokens := by
  obtain ⟨earlier, later, rfl, -, stuck⟩ := h
  rintro ⟨⟨more, st, completed⟩, -⟩
  rw [List.append_assoc, List.cons_append, stuck] at completed
  cases completed

theorem Complete.not_unfinished {kind : Kind} (h : Complete tokens kind keyword args rest) :
    ¬Unfinished tokens := by
  rintro ⟨-, err, fails⟩
  obtain ⟨st, read, -⟩ := h.exists_means .empty
  rw [h.split, read rest] at fails
  cases fails

/-- A word of a complete command that does not resolve is one of its tokens, and the error names
its place. -/
theorem FirstUnresolved.exists_place {s : Scene} (h : FirstUnresolved s kind args err) :
    ∃ t ∈ args, err.place? = some t.span := by
  obtain ⟨earlier, t, later, split, -, unresolved⟩ := h
  have among : t ∈ referring kind args := by simp [split]
  have member : t ∈ args := by
    cases kind <;> first | exact List.mem_of_mem_tail among | exact absurd among List.not_mem_nil
  refine ⟨t, member, ?_⟩
  cases unresolved <;> rfl

/-- Tokens that are refused are refused at one of them, the one where they stop if the command is
not complete, or because they end too early. -/
theorem refused_at_or_unfinished {s : Scene} (h : Entity.ofTokens? s tokens = .error err) :
    (∃ t ∈ tokens, err.place? = some t.span ∧ ¬Unfinished tokens ∧
        (err.reference? = none → StopsAt tokens t err)) ∨
      (∃ wanted, err = .endOfLine wanted) ∧ Unfinished tokens := by
  by_cases syntactic : err.reference? = none
  · have misread := (Entity.ofTokens?_eq_error_iff_misread syntactic).mp h
    obtain ⟨t, member, place, stops⟩ | unfinished := misread.stopsAt_or_unfinished
    · exact .inl ⟨t, member, place, stops.not_unfinished, fun _ => stops⟩
    · exact .inr unfinished
  · obtain ⟨kind, keyword, args, rest, complete, unresolved⟩ :=
      (Entity.ofTokens?_eq_error_iff_unresolved syntactic).mp h
    obtain ⟨t, member, place⟩ := unresolved.exists_place
    refine .inl ⟨t, ?_, place, complete.not_unfinished, fun none => absurd none syntactic⟩
    rw [complete.split]
    exact List.mem_cons_of_mem _ (List.mem_append_left rest member)

end Statement

end Straightedge
