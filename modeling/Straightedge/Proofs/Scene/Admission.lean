import Straightedge.Proofs.Result
import Straightedge.Proofs.Scene.Lookup
import Straightedge.Proofs.Statement.Commands
import Straightedge.Scene.Read

/-!
# What a line may declare

The entities that one more line can add to a scene, said without the reader: a
point with two short coordinates, or an entity over the first declarations of its
references with the values that these give it. Whatever a line declares is such
an entity. An id keeps the declaration it was resolved to, however a scene grows.
-/

namespace Straightedge

namespace Scene

/-- An entity as one more line may declare it on top of a scene. -/
inductive Admits (s : Scene) : Entity → Prop where
  | point {id : String} {x y : Nat} {span : Span} (isName : Text.IsName id)
      (first : x < 10 ^ Statement.maxDigits) (second : y < 10 ^ Statement.maxDigits) :
      Admits s { id, shape := .point, values := .ofPoint (.int x) (.int y), span }
  | made {kind : Kind} {id : String} {targets : List Entity} {span : Span}
      (notPoint : kind ≠ .point) (command : kind.keyword?.isSome) (isName : Text.IsName id)
      (arity : targets.length = kind.arity)
      (declared : ∀ t ∈ targets, Text.IsName t.id ∧ s.find? t.id = some t)
      (isAngle : kind = .angleBisector → ∀ t ∈ targets, t.kind = .angle) :
      Admits s
        { id, shape := .ofKind kind (targets.map Entity.id),
          values := Statement.valuesOf kind targets, span }

end Scene

namespace Statement

variable {s : Scene}

theorem resolve_eq_ok_iff {ref : Reference} {t : Entity} :
    resolve s ref = .ok t ↔ s.find? ref.id = some t := by
  unfold resolve
  split <;> simp_all

/-- References resolve one by one to what the scene finds under their ids. -/
theorem mapM_resolve_eq_ok_iff {refs : List Reference} {targets : List Entity} :
    refs.mapM (resolve s) = .ok targets ↔
      refs.map (fun ref => s.find? ref.id) = targets.map some := by
  rw [Result.mapM_eq_ok_iff]
  induction refs generalizing targets with
  | nil => cases targets <;> simp
  | cons ref refs ih =>
      cases targets with
      | nil => simp
      | cons t targets =>
          simp only [List.map_cons, List.cons.injEq, ih, resolve_eq_ok_iff]

/-- Only an angle bisector asks what its target is. -/
theorem check_eq_ok_iff {kind : Kind} {refs : List Reference} {targets : List Entity}
    (length : refs.length = targets.length) (arity : targets.length = kind.arity) :
    check kind refs targets = .ok () ↔
      (kind = .angleBisector → ∀ t ∈ targets, t.kind = .angle) := by
  by_cases bisector : kind = .angleBisector
  · subst bisector
    obtain ⟨target, rfl⟩ := List.length_eq_one_iff.mp arity
    obtain ⟨ref, rfl⟩ := List.length_eq_one_iff.mp length
    by_cases angle : target.kind = .angle <;> simp [check, angle]
  · have : check kind refs targets = .ok () := by
      cases kind <;> first | rfl | exact absurd rfl bisector
    simp [this, bisector]

theorem toEntity_made_eq_ok_iff {kind : Kind} {id : String} {refs : List Reference} {span : Span}
    (arity : refs.length = kind.arity) {e : Entity} :
    (made kind id refs span).toEntity s = .ok e ↔
      ∃ targets, refs.map (fun ref => s.find? ref.id) = targets.map some ∧
        (kind = .angleBisector → ∀ t ∈ targets, t.kind = .angle) ∧
        e = { id, shape := .ofKind kind (targets.map Entity.id), values := valuesOf kind targets,
              span } := by
  change (refs.mapM (resolve s) >>= fun targets => check kind refs targets >>= fun _ =>
    pure _) = _ ↔ _
  simp only [Result.bind_eq_ok_iff, Result.pure_eq_ok_iff, mapM_resolve_eq_ok_iff]
  constructor
  · rintro ⟨targets, resolved, _, checked, rfl⟩
    have length : refs.length = targets.length := by simpa using congrArg List.length resolved
    exact ⟨targets, resolved, (check_eq_ok_iff length (length ▸ arity)).mp checked, rfl⟩
  · rintro ⟨targets, resolved, isAngle, rfl⟩
    have length : refs.length = targets.length := by simpa using congrArg List.length resolved
    exact ⟨targets, resolved, (), (check_eq_ok_iff length (length ▸ arity)).mpr isAngle, rfl⟩

end Statement

/-- Tokens declare an entity exactly when they start with the shape of a statement that resolves
to the entity. -/
theorem Entity.ofTokens?_eq_some_iff {s : Scene} {tokens : List Token} {e : Entity} :
    ofTokens? s tokens = .ok (some e) ↔
      ∃ st, Statement.ofTokens? tokens = .ok (some st) ∧ st.toEntity s = .ok e := by
  unfold ofTokens?
  rw [Result.bind_eq_ok_iff]
  constructor
  · rintro ⟨_ | st, read, h⟩
    · cases h
    · obtain ⟨e, made, same⟩ := Result.bind_eq_ok_iff.mp h
      obtain rfl := Option.some.inj (Result.pure_eq_ok_iff.mp same)
      exact ⟨st, read, made⟩
  · rintro ⟨st, read, made⟩
    exact ⟨some st, read, Result.bind_eq_ok_iff.mpr ⟨e, made, rfl⟩⟩

namespace Scene

variable {s : Scene}

theorem declared?_eq_some_iff {number : Nat} {line : List Char} {e : Entity} :
    s.declared? number line = .ok (some e) ↔
      ∃ st, Statement.ofTokens? (Token.lex number line) = .ok (some st) ∧
        st.toEntity s = .ok e :=
  Entity.ofTokens?_eq_some_iff

theorem lt_of_isInteger {t : Token} (h : t.IsInteger) : t.value < 10 ^ Statement.maxDigits := by
  have below : t.value < 10 ^ t.text.toList.length := Text.decimalValue_lt _
  exact Nat.lt_of_lt_of_le below (Nat.pow_le_pow_right (by decide) h.short)

/-- Whatever a line declares, a scene admits. -/
theorem admits_of_declared? {number : Nat} {line : List Char} {e : Entity}
    (h : s.declared? number line = .ok (some e)) : s.Admits e := by
  obtain ⟨st, read, made⟩ := declared?_eq_some_iff.mp h
  obtain ⟨shape, rest, spells, split⟩ := Statement.ofTokens?_eq_some_iff.mp read
  have isName : ∀ t ∈ shape, t.IsWordToken → Text.IsName t.text := by
    intro t member word
    have inLine : t ∈ Token.lex number line := split ▸ List.mem_append_left rest member
    exact Token.isName_of_mem_lexFrom inLine word
  cases spells with
  | point isKeyword word opens first separates second closes =>
      obtain rfl := Except.ok.inj made
      exact .point (isName _ (by simp) word) (lt_of_isInteger first) (lt_of_isInteger second)
  | @made kind keyword declared refs notPoint isKeyword word words arity =>
      obtain ⟨targets, resolved, isAngle, rfl⟩ :=
        (Statement.toEntity_made_eq_ok_iff (by simpa using arity)).mp made
      have length : targets.length = kind.arity := by
        simpa [arity] using (congrArg List.length resolved).symm
      have found : ∀ t ∈ targets, Text.IsName t.id ∧ s.find? t.id = some t := by
        intro t member
        obtain ⟨ref, inRefs, h⟩ := List.mem_map.mp (resolved ▸ List.mem_map_of_mem member)
        obtain ⟨token, inShape, rfl⟩ := List.mem_map.mp inRefs
        rw [id_of_find? h]
        exact ⟨isName _ (by simp [inShape]) (words token inShape), h⟩
      exact .made notPoint (by simp [isKeyword.spelled]) (isName _ (by simp) word) length found
        isAngle

end Scene

end Straightedge
