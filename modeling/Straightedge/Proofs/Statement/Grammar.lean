import Straightedge.Proofs.Scene.Admission
import Straightedge.Proofs.Statement.Slots

/-!
# The grammar of lines

What a line declares on top of a scene, said without the reader. Tokens that
start with the keyword of a kind and fill its places are a complete command; it
declares an entity if every word that refers to another one is declared, whatever
follows. Of the errors only the two about references need a complete command, and
the leftmost reference at fault is reported; all others are decided by the tokens
alone.
-/

namespace Straightedge

/-- The place that the message of an error starts with; an early end of a line has none. -/
def StatementError.place? : StatementError → Option Span
  | unexpected found _ | unknownCommand found | integerTooLong found => some found.span
  | unknownId ref | notAnAngle ref _ => some ref.span
  | endOfLine _ => none

namespace StatementError

theorem exists_tagged {place : Span} {rest message : String} (opening first : String)
    (opens : opening = " " ++ first) (h : message = place.tag ++ (opening ++ rest)) :
    ∃ text, message = place.tag ++ " " ++ text :=
  ⟨first ++ rest, by rw [h, opens, String.append_assoc, String.append_assoc]⟩

/-- The message of an error that has a place starts with it. -/
theorem message_of_place? {err : StatementError} {place : Span} (h : err.place? = some place) :
    ∃ text, err.message = place.tag ++ " " ++ text := by
  cases err with
  | endOfLine wanted => cases h
  | unexpected found wanted =>
      obtain rfl := Option.some.inj h
      apply exists_tagged " expected " "expected " rfl
      change found.span.tag ++ " expected " ++ alternatives wanted ++ ", got " ++ _ = _
      simp only [String.append_assoc]
      rfl
  | unknownCommand keyword =>
      obtain rfl := Option.some.inj h
      apply exists_tagged " unknown command \"" "unknown command \"" rfl
      change keyword.span.tag ++ " unknown command \"" ++ keyword.text ++ "\"" = _
      simp only [String.append_assoc]
      rfl
  | integerTooLong found =>
      obtain rfl := Option.some.inj h
      apply exists_tagged " invalid integer " "invalid integer " rfl
      change found.span.tag ++ " invalid integer " ++ String.ofList _ ++ "..." = _
      simp only [String.append_assoc]
      rfl
  | unknownId ref =>
      obtain rfl := Option.some.inj h
      apply exists_tagged " unknown id " "unknown id " rfl
      change ref.span.tag ++ " unknown id " ++ Text.quote ref.id = _
      simp only [String.append_assoc]
      rfl
  | notAnAngle ref kind =>
      obtain rfl := Option.some.inj h
      apply exists_tagged " " "" rfl
      change ref.span.tag ++ " " ++ Text.quote ref.id ++ " is a " ++ _ ++ ", expected an angle" = _
      simp only [String.append_assoc]
      rfl

end StatementError

/-- A word is the keyword of one kind at most. -/
theorem Token.IsKeyword.unique {t : Token} {kind kind' : Kind} (h : t.IsKeyword kind)
    (h' : t.IsKeyword kind') : kind = kind' := by
  have first := Kind.ofKeyword?_eq_some_iff.mpr h.spelled
  rw [Kind.ofKeyword?_eq_some_iff.mpr h'.spelled] at first
  exact (Option.some.inj first).symm

namespace Statement

variable {s : Scene} {kind : Kind} {keyword : Token} {tokens args rest : List Token}
  {err : StatementError} {st : Statement}

/-- Tokens that start with a complete command: the keyword of a kind and what fills its places. -/
structure Complete (tokens : List Token) (kind : Kind) (keyword : Token) (args rest : List Token) :
    Prop where
  split : tokens = keyword :: (args ++ rest)
  isKeyword : keyword.IsKeyword kind
  fits : Fits (slots kind) args

/-- The words of a command that stand for other entities: those after its id, unless it declares
a point. -/
def referring : Kind → List Token → List Token
  | .point, _ => []
  | _, args => args.tail

/-- What a word that refers to another entity needs: a declaration, and that of an angle to
bisect it. -/
def Resolves (s : Scene) (kind : Kind) (t : Token) : Prop :=
  ∃ target, s.find? t.text = some target ∧ (kind = .angleBisector → target.kind = .angle)

/-- The error of a word that refers to nothing it could stand for. -/
inductive Unresolved (s : Scene) (kind : Kind) (t : Token) : StatementError → Prop where
  | undeclared (missing : s.find? t.text = none) : Unresolved s kind t (.unknownId t.reference)
  | notAngle {target : Entity} (bisects : kind = .angleBisector)
      (found : s.find? t.text = some target) (other : target.kind ≠ .angle) :
      Unresolved s kind t (.notAnAngle t.reference target.kind)

/-- The error of tokens that start with no complete command. -/
inductive Misread : List Token → StatementError → Prop where
  | notWord {t : Token} {rest : List Token} (other : t.kind ≠ .id) :
      Misread (t :: rest) (.unexpected t [.id])
  | notKeyword {t : Token} {rest : List Token} (word : t.kind = .id)
      (unknown : ∀ kind : Kind, kind.keyword? ≠ some t.text) :
      Misread (t :: rest) (.unknownCommand t)
  | misfit {keyword : Token} {kind : Kind} {rest : List Token} {err : StatementError}
      (isKeyword : keyword.IsKeyword kind) (misfit : Misfit (slots kind) rest err) :
      Misread (keyword :: rest) err

theorem Misfit.reference?_eq_none {places : List Slot} (h : Misfit places tokens err) :
    err.reference? = none := by
  induction h with
  | endOfLine slot places => rfl
  | here _ =>
      unfold Slot.refusal
      split <;> rfl
  | later _ _ ih => exact ih

theorem Misread.reference?_eq_none (h : Misread tokens err) : err.reference? = none := by
  cases h with
  | notWord _ => rfl
  | notKeyword _ _ => rfl
  | misfit _ misfit => exact misfit.reference?_eq_none

/-! ## Complete commands -/

theorem fits_point_iff :
    Fits (slots .point) args ↔
      ∃ declared opening x comma y closing : Token,
        args = [declared, opening, x, comma, y, closing] ∧ declared.IsWordToken ∧
        opening.kind = .leftParen ∧ x.IsInteger ∧ comma.kind = .comma ∧ y.IsInteger ∧
        closing.kind = .rightParen := by
  constructor
  · intro fits
    simp only [Fits, slots, List.forall₂_cons_left_iff, List.forall₂_nil_left_iff] at fits
    obtain ⟨declared, _, isName, ⟨opening, _, opens, ⟨x, _, first, ⟨comma, _, separates,
      ⟨y, _, second, ⟨closing, _, closes, rfl, rfl⟩, rfl⟩, rfl⟩, rfl⟩, rfl⟩, rfl⟩ := fits
    exact ⟨_, _, _, _, _, _, rfl, isName, opens, first, separates, second, closes⟩
  · rintro ⟨declared, opening, x, comma, y, closing, rfl, isName, opens, first, separates, second,
      closes⟩
    exact .cons isName (.cons opens (.cons first (.cons separates (.cons second
      (.cons closes .nil)))))

theorem fits_replicate_word_iff {n : Nat} :
    Fits (List.replicate n .word) args ↔ args.length = n ∧ ∀ t ∈ args, t.IsWordToken := by
  induction n generalizing args with
  | zero => cases args <;> simp [Fits]
  | succ n ih =>
      cases args with
      | nil => simp [Fits, List.replicate_succ]
      | cons t args =>
          have others : List.Forall₂ Slot.Accepts (List.replicate n .word) args ↔ _ := ih
          rw [List.replicate_succ, Fits, List.forall₂_cons, others, List.length_cons,
            List.forall_mem_cons, Nat.add_right_cancel_iff]
          exact and_left_comm

theorem fits_made_iff (notPoint : kind ≠ .point) :
    Fits (slots kind) args ↔
      ∃ (declared : Token) (refs : List Token), args = declared :: refs ∧ declared.IsWordToken ∧
        (∀ t ∈ refs, t.IsWordToken) ∧ refs.length = kind.arity := by
  rw [slots_of_ne_point notPoint]
  constructor
  · rintro (_ | ⟨isName, others⟩)
    obtain ⟨arity, areNames⟩ := fits_replicate_word_iff.mp others
    exact ⟨_, _, rfl, isName, areNames, arity⟩
  · rintro ⟨declared, refs, rfl, isName, areNames, arity⟩
    exact .cons isName (fits_replicate_word_iff.mpr ⟨arity, areNames⟩)

/-- A keyword whose places are filled spells a statement. -/
theorem exists_spells (isKeyword : keyword.IsKeyword kind) (fits : Fits (slots kind) args) :
    ∃ st, Spells (keyword :: args) st := by
  by_cases point : kind = .point
  · subst point
    obtain ⟨declared, opening, x, comma, y, closing, rfl, isName, opens, first, separates, second,
      closes⟩ := fits_point_iff.mp fits
    exact ⟨_, .point isKeyword isName opens first separates second closes⟩
  · obtain ⟨declared, refs, rfl, isName, areNames, arity⟩ := (fits_made_iff point).mp fits
    exact ⟨_, .made point isKeyword isName areNames arity⟩

theorem complete_of_spells {shape : List Token} (h : Spells shape st) (rest : List Token) :
    ∃ kind keyword args, shape = keyword :: args ∧
      Complete (shape ++ rest) kind keyword args rest := by
  cases h with
  | point isKeyword isName opens first separates second closes =>
      exact ⟨.point, _, _, rfl, rfl, isKeyword,
        fits_point_iff.mpr ⟨_, _, _, _, _, _, rfl, isName, opens, first, separates, second, closes⟩⟩
  | @made kind _ _ _ notPoint isKeyword isName areNames arity =>
      exact ⟨kind, _, _, rfl, rfl, isKeyword,
        (fits_made_iff notPoint).mpr ⟨_, _, rfl, isName, areNames, arity⟩⟩

/-! ## Incomplete commands -/

theorem command_cons_eq_error_iff {t : Token} :
    command (t :: rest) = .error err ↔ Misread (t :: rest) err := by
  unfold command
  rw [bind_eq_error_iff, expect_cons_eq_error_iff, List.mem_singleton]
  constructor
  · rintro (⟨other, rfl⟩ | ⟨keyword, middle, read, failed⟩)
    · exact .notWord other
    · obtain ⟨word, same⟩ := expect_one_eq_ok_iff.mp read
      obtain ⟨rfl, rfl⟩ := List.cons.inj same
      cases known : Kind.ofKeyword? t.text with
      | none =>
          rw [known] at failed
          obtain rfl := Except.error.inj failed
          refine .notKeyword word fun kind spelled => ?_
          rw [Kind.ofKeyword?_eq_some_iff.mpr spelled] at known
          cases known
      | some kind =>
          rw [known] at failed
          exact .misfit ⟨word, Kind.ofKeyword?_eq_some_iff.mp known⟩
            ((reads_arguments kind t.span).eq_error_iff.mp failed)
  · intro misread
    cases misread with
    | notWord other => exact .inl ⟨other, rfl⟩
    | notKeyword word unknown =>
        refine .inr ⟨t, rest, expect_one_eq_ok_iff.mpr ⟨word, rfl⟩, ?_⟩
        cases known : Kind.ofKeyword? t.text with
        | none => rfl
        | some kind => exact absurd (Kind.ofKeyword?_eq_some_iff.mp known) (unknown kind)
    | @misfit _ kind _ _ isKeyword misfit =>
        refine .inr ⟨t, rest, expect_one_eq_ok_iff.mpr ⟨isKeyword.word, rfl⟩, ?_⟩
        rw [Kind.ofKeyword?_eq_some_iff.mpr isKeyword.spelled]
        exact (reads_arguments kind t.span).eq_error_iff.mpr misfit

theorem ofTokens?_cons (t : Token) (rest : List Token) :
    ofTokens? (t :: rest) = command (t :: rest) >>= fun p => pure (some p.1) := rfl

/-- Tokens fail to be read as a statement exactly if they start with no complete command. -/
theorem ofTokens?_eq_error_iff : ofTokens? tokens = .error err ↔ Misread tokens err := by
  cases tokens with
  | nil => exact iff_of_false (fun h => nomatch h) (fun h => nomatch h)
  | cons t rest =>
      rw [ofTokens?_cons, Result.bind_eq_error_iff, command_cons_eq_error_iff]
      constructor
      · rintro (misread | ⟨_, _, impossible⟩)
        · exact misread
        · cases impossible
      · exact .inl

theorem ofTokens?_eq_none_iff : ofTokens? tokens = .ok none ↔ tokens = [] := by
  cases tokens with
  | nil => exact iff_of_true rfl rfl
  | cons t rest =>
      rw [ofTokens?_cons, Result.bind_eq_ok_iff]
      refine iff_of_false ?_ (List.cons_ne_nil t rest)
      rintro ⟨_, _, impossible⟩
      cases impossible

/-! ## References -/

theorem resolve_eq_error_iff {ref : Reference} :
    resolve s ref = .error err ↔ s.find? ref.id = none ∧ err = .unknownId ref := by
  unfold resolve
  cases s.find? ref.id <;> simp [eq_comm]

theorem toEntity_made (s : Scene) (kind : Kind) (id : String) (refs : List Reference)
    (span : Span) :
    (made kind id refs span).toEntity s = refs.mapM (resolve s) >>= fun targets =>
      check kind refs targets >>= fun _ =>
        pure { id, shape := .ofKind kind (targets.map Entity.id), values := valuesOf kind targets,
               span } := rfl

/-- A bisected angle is the only reference of its command. -/
theorem toEntity_angleBisector (s : Scene) (id : String) (ref : Reference) (span : Span) :
    (made .angleBisector id [ref] span).toEntity s = resolve s ref >>= fun target =>
      if target.kind = .angle then
        pure { id, shape := .angleBisector target.id, values := .empty, span }
      else .error (.notAnAngle ref target.kind) := by
  rw [toEntity_made, List.mapM_cons, List.mapM_nil]
  cases resolve s ref with
  | error err => rfl
  | ok target =>
      have checked : check .angleBisector [ref] [target] =
          if target.kind = .angle then .ok () else .error (.notAnAngle ref target.kind) := rfl
      change check .angleBisector [ref] [target] >>= (fun _ => pure _) =
        if target.kind = .angle then pure _ else _
      rw [checked]
      split <;> rfl

/-- The words of a command resolve one by one, and the leftmost that does not is reported. -/
theorem toEntity_made_eq_error_iff {refs : List Token} {id : String} {span : Span}
    (arity : refs.length = kind.arity) :
    (made kind id (refs.map Token.reference) span).toEntity s = .error err ↔
      ∃ earlier t later, refs = earlier ++ t :: later ∧ (∀ r ∈ earlier, Resolves s kind r) ∧
        Unresolved s kind t err := by
  by_cases bisector : kind = .angleBisector
  · subst bisector
    obtain ⟨t, rfl⟩ := List.length_eq_one_iff.mp arity
    have only : (∃ earlier t' later, [t] = earlier ++ t' :: later ∧
        (∀ r ∈ earlier, Resolves s .angleBisector r) ∧ Unresolved s .angleBisector t' err) ↔
        Unresolved s .angleBisector t err := by
      constructor
      · rintro ⟨earlier, t', later, split, -, unresolved⟩
        obtain ⟨rfl, rfl, rfl⟩ : earlier = [] ∧ t' = t ∧ later = [] := by
          cases earlier <;> simp_all
        exact unresolved
      · intro unresolved
        exact ⟨[], t, [], rfl, by simp, unresolved⟩
    rw [only, List.map_singleton, toEntity_angleBisector, Result.bind_eq_error_iff,
      resolve_eq_error_iff]
    constructor
    · rintro (⟨missing, rfl⟩ | ⟨target, found, failed⟩)
      · exact .undeclared missing
      · split at failed
        · cases failed
        · rename_i other
          obtain rfl := Except.error.inj failed
          exact .notAngle rfl (resolve_eq_ok_iff.mp found) other
    · rintro (missing | ⟨-, found, other⟩)
      · exact .inl ⟨missing, rfl⟩
      · exact .inr ⟨_, resolve_eq_ok_iff.mpr found, if_neg other⟩
  · have always : ∀ targets : List Entity,
        check kind (refs.map Token.reference) targets = .ok () := by
      intro targets
      cases kind <;> first | rfl | exact absurd rfl bisector
    have asList : (made kind id (refs.map Token.reference) span).toEntity s = .error err ↔
        (refs.map Token.reference).mapM (resolve s) = .error err := by
      rw [toEntity_made, Result.bind_eq_error_iff]
      constructor
      · rintro (failed | ⟨targets, -, failed⟩)
        · exact failed
        · rw [always] at failed
          cases failed
      · exact .inl
    have resolves : ∀ r : Token, Resolves s kind r ↔ ∃ target, s.find? r.text = some target := by
      intro r
      simp [Resolves, bisector]
    have unresolved : ∀ t : Token,
        Unresolved s kind t err ↔ s.find? t.text = none ∧ err = .unknownId t.reference := by
      intro t
      constructor
      · rintro (missing | ⟨bisects, -, -⟩)
        · exact ⟨missing, rfl⟩
        · exact absurd bisects bisector
      · rintro ⟨missing, rfl⟩
        exact .undeclared missing
    simp only [asList, List.mapM_map, Result.mapM_eq_error_iff, Function.comp_apply,
      resolve_eq_error_iff, resolve_eq_ok_iff, resolves, unresolved]
    rfl

/-- A command over other entities declares one exactly if all its words resolve. -/
theorem exists_toEntity_made_iff {refs : List Token} {id : String} {span : Span}
    (arity : refs.length = kind.arity) :
    (∃ e, (made kind id (refs.map Token.reference) span).toEntity s = .ok e) ↔
      ∀ t ∈ refs, Resolves s kind t := by
  have length : (refs.map Token.reference).length = kind.arity := by rw [List.length_map, arity]
  simp only [toEntity_made_eq_ok_iff length]
  constructor
  · rintro ⟨e, targets, resolved, isAngle, -⟩ t member
    have found : s.find? t.text ∈ (refs.map Token.reference).map fun ref => s.find? ref.id := by
      rw [List.map_map]
      exact List.mem_map_of_mem member
    rw [resolved] at found
    obtain ⟨target, inTargets, same⟩ := List.mem_map.mp found
    exact ⟨target, same.symm, fun bisector => isAngle bisector target inTargets⟩
  · intro resolve
    have declared : ∀ ref ∈ refs.map Token.reference,
        ∃ target, Statement.resolve s ref = .ok target := by
      intro ref member
      obtain ⟨t, inRefs, rfl⟩ := List.mem_map.mp member
      obtain ⟨target, found, -⟩ := resolve t inRefs
      exact ⟨target, resolve_eq_ok_iff.mpr found⟩
    obtain ⟨targets, resolved⟩ := Result.exists_mapM_iff.mpr declared
    have found := mapM_resolve_eq_ok_iff.mp resolved
    refine ⟨_, targets, found, ?_, rfl⟩
    intro bisector target member
    obtain ⟨ref, inRefs, same⟩ := List.mem_map.mp (found ▸ List.mem_map_of_mem member)
    obtain ⟨t, inTokens, rfl⟩ := List.mem_map.mp inRefs
    obtain ⟨target', found', isAngle⟩ := resolve t inTokens
    obtain rfl := Option.some.inj (found'.symm.trans same)
    exact isAngle bisector

/-- What is found under ids has these ids. -/
theorem ids_of_resolved {refs : List Reference} {targets : List Entity}
    (resolved : refs.map (fun ref => s.find? ref.id) = targets.map some) :
    targets.map Entity.id = refs.map Reference.id := by
  induction refs generalizing targets with
  | nil =>
      cases targets with
      | nil => rfl
      | cons _ _ => cases resolved
  | cons ref refs ih =>
      cases targets with
      | nil => cases resolved
      | cons target targets =>
          obtain ⟨found, others⟩ := List.cons.inj resolved
          rw [List.map_cons, List.map_cons, Scene.id_of_find? found, ih others]

/-- The kind, the id and the references of an entity are those that its command names. -/
theorem described_of_toEntity_made {refs : List Token} {id : String} {span : Span} {e : Entity}
    (arity : refs.length = kind.arity)
    (h : (made kind id (refs.map Token.reference) span).toEntity s = .ok e) :
    e.kind = kind ∧ e.id = id ∧ e.references = refs.map Token.text := by
  have length : (refs.map Token.reference).length = kind.arity := by rw [List.length_map, arity]
  obtain ⟨targets, resolved, -, rfl⟩ := (toEntity_made_eq_ok_iff length).mp h
  have ids : targets.map Entity.id = refs.map Token.text := by
    rw [ids_of_resolved resolved, List.map_map]
    rfl
  refine ⟨Shape.kind_ofKind kind _, rfl, ?_⟩
  rw [Entity.references, ids]
  exact Shape.references_ofKind (by rw [List.length_map, arity])

/-- A word that is the first of a command that does not resolve, with its error. -/
def FirstUnresolved (s : Scene) (kind : Kind) (args : List Token) (err : StatementError) : Prop :=
  ∃ earlier t later, referring kind args = earlier ++ t :: later ∧
    (∀ r ∈ earlier, Resolves s kind r) ∧ Unresolved s kind t err

/-- An entity of the kind, id and references that a command names. -/
structure Names (kind : Kind) (args : List Token) (e : Entity) : Prop where
  kind_eq : e.kind = kind
  id : args.head?.map Token.text = some e.id
  references : e.references = (referring kind args).map Token.text

/-- A statement that declares on a scene what a command names, if its words resolve. -/
structure Means (s : Scene) (kind : Kind) (args : List Token) (st : Statement) : Prop where
  declares : (∃ e, st.toEntity s = .ok e) ↔ ∀ t ∈ referring kind args, Resolves s kind t
  names : ∀ e, st.toEntity s = .ok e → Names kind args e
  fails : ∀ err, st.toEntity s = .error err ↔ FirstUnresolved s kind args err

theorem Spells.means (h : Spells (keyword :: args) st) (isKeyword : keyword.IsKeyword kind) :
    Means s kind args st := by
  cases h with
  | point isPoint =>
      obtain rfl := isPoint.unique isKeyword
      constructor
      · exact iff_of_true ⟨_, rfl⟩ (by simp [referring])
      · intro e made
        obtain rfl := Except.ok.inj made
        exact ⟨rfl, rfl, rfl⟩
      · intro err
        refine iff_of_false (fun failed => nomatch failed) ?_
        rintro ⟨earlier, t, later, split, -⟩
        simp [referring] at split
  | @made kind' _ declared refs notPoint isKind isName areNames arity =>
      obtain rfl := isKind.unique isKeyword
      have words : referring kind' (declared :: refs) = refs := by
        cases kind' <;> first | rfl | exact absurd rfl notPoint
      constructor
      · rw [words]
        exact exists_toEntity_made_iff arity
      · intro e made
        obtain ⟨kind, id, references⟩ := described_of_toEntity_made arity made
        exact ⟨kind, by rw [id]; rfl, by rw [words, references]⟩
      · intro err
        rw [FirstUnresolved, words]
        exact toEntity_made_eq_error_iff arity

/-- A complete command is read as a statement with its meaning, whatever follows it. -/
theorem Complete.exists_means (h : Complete tokens kind keyword args rest) (s : Scene) :
    ∃ st, (∀ more, ofTokens? (keyword :: (args ++ more)) = .ok (some st)) ∧
      Means s kind args st := by
  obtain ⟨st, spells⟩ := exists_spells h.isKeyword h.fits
  exact ⟨st, fun more => ofTokens?_eq_some_iff.mpr ⟨_, more, spells, rfl⟩, spells.means h.isKeyword⟩

/-- Whatever is read as a statement starts with a complete command of its meaning. -/
theorem exists_complete_of_ofTokens? (h : ofTokens? tokens = .ok (some st)) (s : Scene) :
    ∃ kind keyword args rest, Complete tokens kind keyword args rest ∧ Means s kind args st := by
  obtain ⟨shape, rest, spells, rfl⟩ := ofTokens?_eq_some_iff.mp h
  obtain ⟨kind, keyword, args, rfl, complete⟩ := complete_of_spells spells rest
  exact ⟨kind, keyword, args, rest, complete, spells.means complete.isKeyword⟩

end Statement

namespace Entity

open Statement (Complete Means Misread Names FirstUnresolved referring Resolves)

variable {s : Scene} {tokens : List Token} {err : StatementError} {e : Entity}

theorem ofTokens?_eq_error_iff :
    ofTokens? s tokens = .error err ↔
      Misread tokens err ∨
        ∃ st, Statement.ofTokens? tokens = .ok (some st) ∧ st.toEntity s = .error err := by
  unfold ofTokens?
  rw [Result.bind_eq_error_iff, Statement.ofTokens?_eq_error_iff]
  apply or_congr_right
  constructor
  · rintro ⟨_ | st, read, h⟩
    · cases h
    · rcases Result.bind_eq_error_iff.mp h with failed | ⟨e, -, impossible⟩
      · exact ⟨st, read, failed⟩
      · cases impossible
  · rintro ⟨st, read, failed⟩
    exact ⟨some st, read, Result.bind_eq_error_iff.mpr (.inl failed)⟩

/-- A line declares an entity exactly if it starts with a complete command whose words resolve. -/
theorem exists_ofTokens?_iff :
    (∃ e, ofTokens? s tokens = .ok (some e)) ↔
      ∃ kind keyword args rest, Complete tokens kind keyword args rest ∧
        ∀ t ∈ referring kind args, Resolves s kind t := by
  constructor
  · rintro ⟨e, h⟩
    obtain ⟨st, read, made⟩ := ofTokens?_eq_some_iff.mp h
    obtain ⟨kind, keyword, args, rest, complete, means⟩ :=
      Statement.exists_complete_of_ofTokens? read s
    exact ⟨kind, keyword, args, rest, complete, means.declares.mp ⟨e, made⟩⟩
  · rintro ⟨kind, keyword, args, rest, complete, resolve⟩
    obtain ⟨st, read, means⟩ := complete.exists_means s
    obtain ⟨e, made⟩ := means.declares.mpr resolve
    exact ⟨e, ofTokens?_eq_some_iff.mpr ⟨st, complete.split ▸ read rest, made⟩⟩

/-- What a complete command declares is what it names, and what follows it does not matter. -/
theorem names_of_complete {kind : Kind} {keyword : Token} {args rest : List Token}
    (complete : Complete tokens kind keyword args rest) (h : ofTokens? s tokens = .ok (some e)) :
    Names kind args e ∧ ∀ more, ofTokens? s (keyword :: (args ++ more)) = .ok (some e) := by
  obtain ⟨st, read, means⟩ := complete.exists_means s
  obtain ⟨st', read', made⟩ := ofTokens?_eq_some_iff.mp h
  rw [complete.split, read rest] at read'
  obtain rfl := Option.some.inj (Except.ok.inj read')
  exact ⟨means.names e made, fun more => ofTokens?_eq_some_iff.mpr ⟨st, read more, made⟩⟩

theorem ofTokens?_eq_none_iff : ofTokens? s tokens = .ok none ↔ tokens = [] := by
  unfold ofTokens?
  rw [Result.bind_eq_ok_iff, ← Statement.ofTokens?_eq_none_iff]
  constructor
  · rintro ⟨_ | st, read, h⟩
    · exact read
    · obtain ⟨_, _, impossible⟩ := Result.bind_eq_ok_iff.mp h
      cases impossible
  · intro read
    exact ⟨none, read, rfl⟩

/-- Only the first word of a complete command that does not resolve is reported as a reference. -/
theorem reference?_ne_none_of_firstUnresolved {kind : Kind} {args : List Token}
    (h : FirstUnresolved s kind args err) : err.reference? ≠ none := by
  obtain ⟨earlier, t, later, -, -, unresolved⟩ := h
  cases unresolved <;> exact Option.some_ne_none _

theorem ofTokens?_eq_error_iff_misread (syntactic : err.reference? = none) :
    ofTokens? s tokens = .error err ↔ Misread tokens err := by
  rw [ofTokens?_eq_error_iff]
  refine or_iff_left ?_
  rintro ⟨st, read, failed⟩
  obtain ⟨kind, keyword, args, rest, -, means⟩ := Statement.exists_complete_of_ofTokens? read s
  exact reference?_ne_none_of_firstUnresolved ((means.fails err).mp failed) syntactic

theorem ofTokens?_eq_error_iff_unresolved (aboutReference : err.reference? ≠ none) :
    ofTokens? s tokens = .error err ↔
      ∃ kind keyword args rest, Complete tokens kind keyword args rest ∧
        FirstUnresolved s kind args err := by
  rw [ofTokens?_eq_error_iff]
  constructor
  · rintro (misread | ⟨st, read, failed⟩)
    · exact absurd misread.reference?_eq_none aboutReference
    · obtain ⟨kind, keyword, args, rest, complete, means⟩ :=
        Statement.exists_complete_of_ofTokens? read s
      exact ⟨kind, keyword, args, rest, complete, (means.fails err).mp failed⟩
  · rintro ⟨kind, keyword, args, rest, complete, unresolved⟩
    obtain ⟨st, read, means⟩ := complete.exists_means s
    exact .inr ⟨st, complete.split ▸ read rest, (means.fails err).mpr unresolved⟩

/-- The reader of lines is the grammar. On any scene, tokens declare an entity exactly if they start
with a complete command whose words resolve; the entity is the one that the command names, whatever
follows. No tokens declare nothing. All other tokens are refused: those that start with no complete
command at the first token that cannot go on, or at the end of the line, and complete commands at
the leftmost word that does not resolve. An error with a place names it at the start of its
message. -/
theorem ofTokens?_iff_grammar (s : Scene) (tokens : List Token) :
    ((∃ e, ofTokens? s tokens = .ok (some e)) ↔
      ∃ kind keyword args rest, Complete tokens kind keyword args rest ∧
        ∀ t ∈ referring kind args, Resolves s kind t) ∧
    (∀ e kind keyword args rest, ofTokens? s tokens = .ok (some e) →
      Complete tokens kind keyword args rest →
        Names kind args e ∧ ∀ more, ofTokens? s (keyword :: (args ++ more)) = .ok (some e)) ∧
    (ofTokens? s tokens = .ok none ↔ tokens = []) ∧
    (∀ err, err.reference? = none → (ofTokens? s tokens = .error err ↔ Misread tokens err)) ∧
    (∀ err, err.reference? ≠ none →
      (ofTokens? s tokens = .error err ↔
        ∃ kind keyword args rest, Complete tokens kind keyword args rest ∧
          FirstUnresolved s kind args err)) ∧
    (∀ err place, ofTokens? s tokens = .error err → err.place? = some place →
      ∃ text, err.message = place.tag ++ " " ++ text) := by
  refine ⟨exists_ofTokens?_iff, ?_, ofTokens?_eq_none_iff, ?_, ?_, ?_⟩
  · intro e kind keyword args rest h complete
    exact names_of_complete complete h
  · intro err syntactic
    exact ofTokens?_eq_error_iff_misread syntactic
  · intro err aboutReference
    exact ofTokens?_eq_error_iff_unresolved aboutReference
  · intro err place _ located
    exact StatementError.message_of_place? located

end Entity

end Straightedge
