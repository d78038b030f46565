import Straightedge.Proofs.Scene.Declared
import Straightedge.Scene.Print

/-!
# Printing and reading back

A scene that was read prints, and the strict reading of what it prints gives the
same scene but for the places in the text. Each entity is read back against the
entities before it, so the proof goes through the scene in declaration order and
keeps the scene read so far equal to the original up to spans.
-/

namespace Straightedge

namespace Entity

/-- The entity without its place in a text. -/
def withoutSpan (e : Entity) : Entity := { e with span := ⟨0, 0⟩ }

@[simp] theorem kind_withoutSpan (e : Entity) : e.withoutSpan.kind = e.kind := rfl

/-- Printing does not look at the place of an entity. -/
@[simp] theorem command_withoutSpan (e : Entity) : e.withoutSpan.command = e.command := rfl

end Entity

namespace Scene

/-- The scene without the places of its entities. -/
def withoutSpans (s : Scene) : Scene := ⟨s.entities.map Entity.withoutSpan⟩

theorem find?_withoutSpans (s : Scene) (id : String) :
    s.withoutSpans.find? id = (s.find? id).map Entity.withoutSpan := by
  simp only [find?, withoutSpans, List.find?_map]
  rfl

theorem withoutSpans_push (s : Scene) (e : Entity) :
    (s.push e).withoutSpans = s.withoutSpans.push e.withoutSpan := by
  simp [withoutSpans, push]

/-- Scenes that differ in places only find the same entities, up to places. -/
theorem exists_find?_of_withoutSpans_eq {s s' : Scene} (same : s'.withoutSpans = s.withoutSpans)
    {id : String} {t : Entity} (h : s.find? id = some t) :
    ∃ t', s'.find? id = some t' ∧ t'.withoutSpan = t.withoutSpan := by
  have both : (s'.find? id).map Entity.withoutSpan = (s.find? id).map Entity.withoutSpan := by
    rw [← find?_withoutSpans, ← find?_withoutSpans, same]
  rw [h, Option.map_some] at both
  exact Option.map_eq_some_iff.mp both

theorem printEntities_map_withoutSpan (es : List Entity) :
    printEntities (es.map Entity.withoutSpan) = printEntities es := by
  induction es with
  | nil => rfl
  | cons e es ih =>
      rw [List.map_cons, printEntities, printEntities, ih, Entity.command_withoutSpan]

end Scene

namespace Statement

/-- A keyword is a word and not a number. -/
theorem keyword_word {kind : Kind} {word : String} (h : kind.keyword? = some word) :
    Text.IsName word ∧ Token.wordKind word.toList = .id := by
  cases kind <;> cases h <;> exact ⟨⟨by decide, List.all_eq_true.mp (by decide)⟩, by decide⟩

theorem wordTokens_areNames (line col : Nat) (words : List String) :
    (∀ t ∈ Token.wordTokens line col words, t.IsWordToken) ∧
      (Token.wordTokens line col words).map Token.text = words := by
  induction words generalizing col with
  | nil => simp [Token.wordTokens]
  | cons word words ih =>
      obtain ⟨areNames, texts⟩ := ih (col + word.toList.length + 1)
      constructor
      · exact List.forall_mem_cons.mpr ⟨Token.isWordToken_wordKind word.toList, areNames⟩
      · rw [Token.wordTokens, List.map_cons, texts]

/-- A keyword, an id and as many ids as the kind takes are a command. -/
theorem spells_wordTokens {kind : Kind} {word : String} {ids : List String} (id : String)
    (line col : Nat) (notPoint : kind ≠ .point) (spelled : kind.keyword? = some word)
    (arity : ids.length = kind.arity) :
    ∃ refs, refs.map Reference.id = ids ∧
      Spells (Token.wordTokens line col (word :: id :: ids)) (.made kind id refs ⟨line, col⟩) := by
  obtain ⟨areNames, texts⟩ := wordTokens_areNames line
    (col + word.toList.length + 1 + id.toList.length + 1) ids
  refine ⟨_, ?_, .made notPoint ⟨(keyword_word spelled).2, spelled⟩
    (Token.isWordToken_wordKind id.toList) areNames ?_⟩
  · rw [List.map_map]
    exact texts
  · rw [← arity, ← congrArg List.length texts, List.length_map]

end Statement

namespace Entity

open Text (IsName digitsOf)

/-- The text of the command that declares a point. -/
def pointText (id : String) (x y : Nat) : List Char :=
  "Point".toList ++ ' ' :: (id.toList ++ ' ' :: '(' :: (digitsOf x ++ ',' :: ' ' ::
    (digitsOf y ++ [')'])))

theorem command_point (id : String) (x y : Nat) (span : Span) :
    command { id, shape := .point, values := .ofPoint (.int x) (.int y), span } =
      .ok (String.ofList (pointText id x y)) := by
  have printed : ∀ n : Nat, (Int.repr n).toList = digitsOf n := by
    intro n
    exact Nat.toList_repr
  have text : "Point " ++ id ++ " (" ++ Int.repr x ++ ", " ++ Int.repr y ++ ")" =
      String.ofList (pointText id x y) := by
    apply String.toList_injective
    simp only [pointText, printed, String.toList_append, String.toList_ofList, String.reduceToList,
      List.append_assoc, List.cons_append, List.nil_append]
  exact congrArg Except.ok text

theorem digitsOf_word (n : Nat) :
    digitsOf n ≠ [] ∧ (∀ c ∈ digitsOf n, Text.isWord c = true) ∧
      Token.wordKind (digitsOf n) = .number := by
  refine ⟨Nat.toDigits_ne_nil, ?_, ?_⟩
  · intro c member
    exact Text.isWord_of_isDigit (Text.isDigit_of_mem_digitsOf member)
  · apply if_pos
    rw [List.all_eq_true]
    intro c member
    exact Text.isDigit_of_isDigit (Text.isDigit_of_mem_digitsOf member)

/-- The command that declares a point is read as such, however long its numbers are within the
limit. -/
theorem ofTokens?_pointText {id : String} {x y : Nat} (isName : IsName id)
    (first : x < 10 ^ Statement.maxDigits) (second : y < 10 ^ Statement.maxDigits) (line : Nat) :
    Statement.ofTokens? (Token.lex line (pointText id x y)) =
      .ok (some (.point id x y ⟨line, 1⟩)) := by
  have spelled : Kind.point.keyword? = some "Point" := rfl
  have keyword := Statement.keyword_word spelled
  have notWord : Text.isWord ' ' = false ∧ Text.isWord '(' = false ∧ Text.isWord ',' = false ∧
      Text.isWord ')' = false := by decide
  have notBlank : Text.isBlank '(' = false ∧ Text.isBlank ',' = false ∧
      Text.isBlank ')' = false := by decide
  obtain ⟨xNonempty, xWord, xNumber⟩ := digitsOf_word x
  obtain ⟨yNonempty, yWord, yNumber⟩ := digitsOf_word y
  have xShort := Text.length_digitsOf_le (by decide) first
  have yShort := Text.length_digitsOf_le (by decide) second
  rw [Token.lex, pointText,
    Token.lexFrom_word keyword.1.nonempty keyword.1.word (Token.endsWord_cons _ notWord.1),
    Token.lexFrom_blank Text.isBlank_space,
    Token.lexFrom_word isName.nonempty isName.word (Token.endsWord_cons _ notWord.1),
    Token.lexFrom_blank Text.isBlank_space,
    Token.lexFrom_symbol _ (by decide) notBlank.1 notWord.2.1,
    Token.lexFrom_word xNonempty xWord (Token.endsWord_cons _ notWord.2.2.1),
    Token.lexFrom_symbol _ (by decide) notBlank.2.1 notWord.2.2.1,
    Token.lexFrom_blank Text.isBlank_space,
    Token.lexFrom_word yNonempty yWord (Token.endsWord_cons _ notWord.2.2.2),
    Token.lexFrom_symbol _ (by decide) notBlank.2.2 notWord.2.2.2, Token.lexFrom_nil]
  apply Statement.ofTokens?_eq_some_iff.mpr
  refine ⟨_, [], ?_, (List.append_nil _).symm⟩
  have statement : Statement.point id x y ⟨line, 1⟩ =
      .point (String.ofList id.toList) (Text.decimalValue (String.ofList (digitsOf x)).toList)
        (Text.decimalValue (String.ofList (digitsOf y)).toList) ⟨line, 1⟩ := by
    simp
  rw [statement]
  exact .point ⟨keyword.2, congrArg some String.ofList_toList.symm⟩ (Token.isWordToken_wordKind _)
    rfl ⟨xNumber, by simpa using xShort⟩ rfl ⟨yNumber, by simpa using yShort⟩ rfl

theorem isLineBreak_pointText {id : String} {x y : Nat} (isName : IsName id) :
    ∀ c ∈ pointText id x y, Text.isLineBreak c = false := by
  have keyword : IsName "Point" := (@Statement.keyword_word .point _ rfl).1
  have ofDigits : ∀ n, ∀ c ∈ digitsOf n, Text.isLineBreak c = false := by
    intro n c member
    exact Text.isLineBreak_of_isWord ((digitsOf_word n).2.1 c member)
  have symbols : Text.isLineBreak ' ' = false ∧ Text.isLineBreak '(' = false ∧
      Text.isLineBreak ',' = false ∧ Text.isLineBreak ')' = false := by decide
  simp only [pointText, List.forall_mem_append, List.forall_mem_cons]
  exact ⟨keyword.unbroken, symbols.1, isName.unbroken, symbols.1, symbols.2.1, ofDigits x,
    symbols.2.2.1, symbols.1, ofDigits y, symbols.2.2.2, by simp⟩

theorem isLineBreak_intercalate {words : List String} (h : ∀ w ∈ words, IsName w) :
    ∀ c ∈ (" ".intercalate words).toList, Text.isLineBreak c = false := by
  induction words with
  | nil => simp
  | cons word words ih =>
      obtain ⟨isName, others⟩ := List.forall_mem_cons.mp h
      cases words with
      | nil => simpa using isName.unbroken
      | cons next words =>
          have blank : ∀ c ∈ " ".toList, Text.isLineBreak c = false :=
            List.forall_mem_singleton.mpr (by decide)
          rw [String.intercalate_cons_cons, String.toList_append, String.toList_append]
          simp only [List.forall_mem_append]
          exact ⟨⟨isName.unbroken, blank⟩, ih others⟩

theorem command_made {kind : Kind} {word id : String} {ids : List String}
    (notPoint : kind ≠ .point) (spelled : kind.keyword? = some word)
    (arity : ids.length = kind.arity) (values : Values) (span : Span) :
    command { id, shape := .ofKind kind ids, values, span } =
      .ok (" ".intercalate (word :: id :: ids)) := by
  have references : references { id, shape := .ofKind kind ids, values, span } = ids :=
    Shape.references_ofKind arity
  rw [← references]
  cases kind <;> cases spelled <;> first | rfl | exact absurd rfl notPoint

end Entity

namespace Statement

@[simp] theorem valuesOf_map_withoutSpan (kind : Kind) (targets : List Entity) :
    valuesOf kind (targets.map Entity.withoutSpan) = valuesOf kind targets := by
  match targets with
  | [] => cases kind <;> rfl
  | [a] => cases kind <;> rfl
  | [a, b] => cases kind <;> rfl
  | a :: b :: c :: rest => cases kind <;> rfl

end Statement

namespace Scene

/-- In a scene that differs in places only, the same references resolve to the same targets up to
places. -/
theorem exists_targets_of_withoutSpans_eq {s s' : Scene} (same : s'.withoutSpans = s.withoutSpans)
    {targets : List Entity} (declared : ∀ t ∈ targets, s.find? t.id = some t) :
    ∃ targets' : List Entity, targets.map (fun t => s'.find? t.id) = targets'.map some ∧
      targets'.map Entity.withoutSpan = targets.map Entity.withoutSpan := by
  induction targets with
  | nil => exact ⟨[], rfl, rfl⟩
  | cons t targets ih =>
      obtain ⟨here, others⟩ := List.forall_mem_cons.mp declared
      obtain ⟨t', found, alike⟩ := exists_find?_of_withoutSpans_eq same here
      obtain ⟨targets', resolved, agree⟩ := ih others
      exact ⟨t' :: targets', by rw [List.map_cons, found, resolved, List.map_cons],
        by rw [List.map_cons, alike, agree, List.map_cons]⟩

/-- In a scene that differs in places only, the same ids make the same entity up to places. -/
theorem exists_toEntity_made {s s' : Scene} (same : s'.withoutSpans = s.withoutSpans) {kind : Kind}
    {id : String} {targets : List Entity} {refs : List Reference} (place span : Span)
    (ids : refs.map Reference.id = targets.map Entity.id) (arity : targets.length = kind.arity)
    (declared : ∀ t ∈ targets, s.find? t.id = some t)
    (isAngle : kind = .angleBisector → ∀ t ∈ targets, t.kind = .angle) :
    ∃ e', (Statement.made kind id refs place).toEntity s' = .ok e' ∧
      e'.withoutSpan = Entity.withoutSpan
        { id, shape := .ofKind kind (targets.map Entity.id),
          values := Statement.valuesOf kind targets, span } := by
  obtain ⟨targets', resolved, alike⟩ := exists_targets_of_withoutSpans_eq same declared
  have length : refs.length = kind.arity := by
    rw [← arity, ← List.length_map Reference.id, ids, List.length_map]
  have sameIds : targets'.map Entity.id = targets.map Entity.id := by
    have ids := congrArg (List.map Entity.id) alike
    rw [List.map_map, List.map_map] at ids
    exact ids
  have sameValues : Statement.valuesOf kind targets' = Statement.valuesOf kind targets := by
    rw [← Statement.valuesOf_map_withoutSpan, alike, Statement.valuesOf_map_withoutSpan]
  refine ⟨_, (Statement.toEntity_made_eq_ok_iff length).mpr ⟨targets', ?_, ?_, rfl⟩, ?_⟩
  · have found := congrArg (List.map s'.find?) ids
    rw [List.map_map, List.map_map] at found
    rw [← resolved]
    exact found
  · intro bisector t' member
    obtain ⟨t, inTargets, agree⟩ := List.mem_map.mp (alike ▸ List.mem_map_of_mem member)
    rw [← Entity.kind_withoutSpan, ← agree, Entity.kind_withoutSpan]
    exact isAngle bisector t inTargets
  · rw [sameIds, sameValues]
    rfl

/-- An admitted entity prints as one line, and a scene that differs in places only reads the
line as that entity. -/
theorem exists_command_of_admits {s s' : Scene} {e : Entity} (h : s.Admits e)
    (same : s'.withoutSpans = s.withoutSpans) :
    ∃ text, e.command = .ok text ∧ (∀ c ∈ text.toList, Text.isLineBreak c = false) ∧
      ∀ number, ∃ e', s'.declared? number text.toList = .ok (some e') ∧
        e'.withoutSpan = e.withoutSpan := by
  cases h with
  | @point id x y span isName first second =>
      refine ⟨_, Entity.command_point id x y span, ?_, ?_⟩
      · rw [String.toList_ofList]
        exact Entity.isLineBreak_pointText isName
      · intro number
        rw [String.toList_ofList]
        have read := Entity.ofTokens?_pointText isName first second number
        exact ⟨_, declared?_eq_some_iff.mpr ⟨_, read, rfl⟩, rfl⟩
  | @made kind id targets span notPoint command isName arity declared isAngle =>
      obtain ⟨word, spelled⟩ := Option.isSome_iff_exists.mp command
      have length : (targets.map Entity.id).length = kind.arity := by rw [List.length_map, arity]
      have areNames : ∀ w ∈ word :: id :: targets.map Entity.id, Text.IsName w := by
        simp only [List.forall_mem_cons, List.forall_mem_map]
        exact ⟨(Statement.keyword_word spelled).1, isName, fun t member => (declared t member).1⟩
      refine ⟨_, Entity.command_made notPoint spelled length _ span,
        Entity.isLineBreak_intercalate areNames, ?_⟩
      intro number
      obtain ⟨refs, ids, spells⟩ :=
        Statement.spells_wordTokens id number 1 notPoint spelled length
      have tokens := Token.lexFrom_intercalate number 1 areNames
      have read : Statement.ofTokens?
          (Token.lex number (" ".intercalate (word :: id :: targets.map Entity.id)).toList) =
            .ok (some (.made kind id refs ⟨number, 1⟩)) := by
        apply Statement.ofTokens?_eq_some_iff.mpr
        exact ⟨_, [], spells, tokens.trans (List.append_nil _).symm⟩
      obtain ⟨e', made, alike⟩ := exists_toEntity_made same ⟨number, 1⟩ span ids arity
        (fun t member => (declared t member).2) isAngle
      exact ⟨e', declared?_eq_some_iff.mpr ⟨_, read, made⟩, alike⟩

/-- Entities that were declared one after the other print as lines which a strict reading
declares again one after the other, up to places. -/
theorem exists_strictLines_print (earlier es : List Entity)
    (h : ∀ (i : Nat) (e : Entity), es[i]? = some e → (Scene.mk (earlier ++ es.take i)).Admits e)
    {s : Scene} (same : s.withoutSpans = (Scene.mk earlier).withoutSpans) (number : Nat) :
    ∃ text, printEntities es = .ok text ∧
      ∃ t, s.strictLines number (Text.lines text.toList) = .ok t ∧
        t.withoutSpans = (Scene.mk (earlier ++ es)).withoutSpans := by
  induction es generalizing earlier s number with
  | nil => exact ⟨"", rfl, s, rfl, by rw [same, List.append_nil]⟩
  | cons e es ih =>
      obtain ⟨line, printed, unbroken, reads⟩ :=
        exists_command_of_admits (by simpa using h 0 e rfl) same
      obtain ⟨e', declared, alike⟩ := reads number
      have pushed : (s.push e').withoutSpans = (Scene.mk (earlier ++ [e])).withoutSpans := by
        rw [withoutSpans_push, same, alike, ← withoutSpans_push]
        rfl
      obtain ⟨rest, printedRest, t, read, agree⟩ :=
        ih (earlier ++ [e]) (fun i e later => by simpa using h (i + 1) e later) pushed (number + 1)
      refine ⟨line ++ "\n" ++ rest, ?_, t, ?_, by simpa using agree⟩
      · rw [printEntities, printed, printedRest]
        rfl
      · have lines : Text.lines (line ++ "\n" ++ rest).toList =
            line.toList :: Text.lines rest.toList := by
          rw [String.toList_append, String.toList_append, List.append_assoc]
          exact Text.lines_append_newline rest.toList unbroken
        rw [lines, strictLines, declared]
        exact read

/-- The scene of any text prints, and the strict reading of the print succeeds and gives the same
entities in the same order, in everything but their places: kinds, ids, references and values.
So printing once more gives the same print. -/
theorem readStrict_print (text : String) :
    ∃ printed t, (read text).scene.print = .ok printed ∧ readStrict printed = .ok t ∧
      t.entities.map Entity.withoutSpan = (read text).scene.entities.map Entity.withoutSpan ∧
      t.print = .ok printed := by
  have declared : ∀ (i : Nat) (e : Entity), (read text).scene.entities[i]? = some e →
      (Scene.mk ([] ++ (read text).scene.entities.take i)).Admits e := declared_read text
  obtain ⟨printed, prints, t, reads, same⟩ :=
    exists_strictLines_print [] _ declared (s := .empty) rfl 1
  have entities : t.entities.map Entity.withoutSpan =
      (read text).scene.entities.map Entity.withoutSpan := congrArg Scene.entities same
  refine ⟨printed, t, prints, reads, entities, ?_⟩
  rw [print, ← printEntities_map_withoutSpan, entities, printEntities_map_withoutSpan, prints]

end Scene

end Straightedge
