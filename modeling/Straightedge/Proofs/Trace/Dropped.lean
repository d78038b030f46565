import Straightedge.Proofs.Dependency.Schedule
import Straightedge.Proofs.Scene.Strict
import Straightedge.Proofs.Statement.Caret
import Straightedge.Proofs.Statement.Grammar
import Straightedge.Trace.Traced

/-!
# What a reading logs

A line of a text has no token, or it declares an entity, which remembers its number,
or it is dropped and a message is logged. So the numbers in the messages and those in
the entities are together those of the lines with tokens. And a message tells what a
strict reading would stop with that does not stop before: one of the text with the
lines emptied that are dropped earlier.
-/

namespace Straightedge

open Text (joinLines Unbroken)

namespace Scene

variable {s t : Scene} {text : String} {first n m : Nat} {line : List Char}
  {ls earlier : List (List Char)} {err : StatementError} {e : Entity}

/-! ## The lines with tokens -/

/-- There are tokens on the line of the given number. -/
def HasTokens (first : Nat) (ls : List (List Char)) (n : Nat) : Prop :=
  ∃ i line, ls[i]? = some line ∧ n = first + i ∧ Token.lex n line ≠ []

theorem not_hasTokens_nil : ¬HasTokens first [] n := by
  rintro ⟨i, line, here, -⟩
  cases here

theorem hasTokens_cons_iff :
    HasTokens first (line :: ls) n ↔
      n = first ∧ Token.lex n line ≠ [] ∨ HasTokens (first + 1) ls n := by
  constructor
  · rintro ⟨_ | i, other, here, rfl, tokens⟩
    · obtain rfl := Option.some.inj here
      exact .inl ⟨rfl, tokens⟩
    · exact .inr ⟨i, other, here, by omega, tokens⟩
  · rintro (⟨rfl, tokens⟩ | ⟨i, other, here, rfl, tokens⟩)
    · exact ⟨0, line, rfl, rfl, tokens⟩
    · exact ⟨i + 1, other, here, by omega, tokens⟩

theorem HasTokens.le (h : HasTokens first ls n) : first ≤ n := by
  obtain ⟨i, -, -, rfl, -⟩ := h
  exact Nat.le_add_right first i

/-- The numbers of lines that declare something and of lines that do not are together those of the
lines with tokens, each of them once and in order. -/
structure Accounts (first : Nat) (ls : List (List Char)) (declaring dropped : List Nat) : Prop where
  declaringAscending : declaring.Pairwise (· < ·)
  droppedAscending : dropped.Pairwise (· < ·)
  apart : ∀ n ∈ declaring, n ∉ dropped
  together : ∀ n, n ∈ declaring ∨ n ∈ dropped ↔ HasTokens first ls n

namespace Accounts

variable {declaring dropped : List Nat}

theorem nil (first : Nat) : Accounts first [] [] [] where
  declaringAscending := .nil
  droppedAscending := .nil
  apart _ member := nomatch member
  together n := by simp [not_hasTokens_nil]

theorem lt_of_mem (rest : Accounts (first + 1) ls declaring dropped)
    (member : n ∈ declaring ∨ n ∈ dropped) : first < n :=
  ((rest.together n).mp member).le

theorem cons_blank (rest : Accounts (first + 1) ls declaring dropped)
    (blank : Token.lex first line = []) : Accounts first (line :: ls) declaring dropped where
  declaringAscending := rest.declaringAscending
  droppedAscending := rest.droppedAscending
  apart := rest.apart
  together n := by
    rw [rest.together, hasTokens_cons_iff, or_iff_right]
    rintro ⟨rfl, tokens⟩
    exact tokens blank

theorem cons_declaring (rest : Accounts (first + 1) ls declaring dropped)
    (tokens : Token.lex first line ≠ []) :
    Accounts first (line :: ls) (first :: declaring) dropped where
  declaringAscending :=
    List.pairwise_cons.mpr ⟨fun n member => rest.lt_of_mem (.inl member), rest.declaringAscending⟩
  droppedAscending := rest.droppedAscending
  apart := by
    refine List.forall_mem_cons.mpr ⟨?_, rest.apart⟩
    intro member
    exact Nat.lt_irrefl first (rest.lt_of_mem (.inr member))
  together n := by
    rw [List.mem_cons, or_assoc, rest.together, hasTokens_cons_iff]
    apply or_congr_left
    constructor
    · rintro rfl
      exact ⟨rfl, tokens⟩
    · exact And.left

theorem cons_dropped (rest : Accounts (first + 1) ls declaring dropped)
    (tokens : Token.lex first line ≠ []) :
    Accounts first (line :: ls) declaring (first :: dropped) where
  declaringAscending := rest.declaringAscending
  droppedAscending :=
    List.pairwise_cons.mpr ⟨fun n member => rest.lt_of_mem (.inr member), rest.droppedAscending⟩
  apart n declares := by
    have later := rest.lt_of_mem (.inl declares)
    rw [List.mem_cons, not_or]
    exact ⟨later.ne', rest.apart n declares⟩
  together n := by
    rw [List.mem_cons, or_left_comm, rest.together, hasTokens_cons_iff]
    apply or_congr_left
    constructor
    · rintro rfl
      exact ⟨rfl, tokens⟩
    · exact And.left

end Accounts

/-- An entity remembers the number of its line. -/
theorem line_of_declared? (h : s.declared? n line = .ok (some e)) : e.span.line = n := by
  obtain ⟨st, read, made⟩ := declared?_eq_some_iff.mp h
  obtain ⟨shape, rest, spells, split⟩ := Statement.ofTokens?_eq_some_iff.mp read
  have here : ∀ t ∈ shape, t.line = n := by
    intro t member
    have inLine : t ∈ Token.lex n line := split ▸ List.mem_append_left rest member
    obtain ⟨before, after, stands⟩ := Token.mem_lex_iff.mp inLine
    exact stands.line
  cases spells with
  | @point keyword =>
      obtain rfl := Except.ok.inj made
      exact here keyword List.mem_cons_self
  | @made kind keyword declared refs notPoint isKeyword isName areNames arity =>
      obtain ⟨targets, -, -, rfl⟩ :=
        (Statement.toEntity_made_eq_ok_iff (by simpa using arity)).mp made
      exact here keyword List.mem_cons_self

theorem numbers_readLines_cons (s : Scene) (first : Nat) (line : List Char)
    (ls : List (List Char)) :
    (s.readLines first (line :: ls)).numbers =
      ((Reading.mk s []).next first line).numbers ++
        ((s.after first line).readLines (first + 1) ls).numbers := by
  rw [readLines, Reading.lines, Reading.lines_eq, Reading.numbers, List.map_append]
  rfl

/-- Every line of a text is blank, declares an entity or is dropped. The induction is along the
lines, each case of which is one of what may become of the first. -/
theorem exists_accounts (s : Scene) (first : Nat) (ls : List (List Char)) :
    ∃ added, (s.readLines first ls).scene.entities = s.entities ++ added ∧
      Accounts first ls (added.map (·.span.line)) (s.readLines first ls).numbers := by
  induction ls generalizing s first with
  | nil => exact ⟨[], (List.append_nil _).symm, .nil first⟩
  | cons line ls ih =>
      obtain ⟨added, entities, accounts⟩ := ih (s.after first line) (first + 1)
      rw [scene_readLines_cons, numbers_readLines_cons]
      have blank : Token.lex first line = [] ↔ s.declared? first line = .ok none :=
        Entity.ofTokens?_eq_none_iff.symm
      rcases declared : s.declared? first line with err | _ | e
      · rw [after_of_error declared] at entities accounts ⊢
        refine ⟨added, entities, ?_⟩
        simp only [Reading.next, declared]
        exact accounts.cons_dropped (by simp [blank, declared])
      · rw [after_of_none declared] at entities accounts ⊢
        refine ⟨added, entities, ?_⟩
        simp only [Reading.next, declared]
        exact accounts.cons_blank (blank.mpr declared)
      · rw [after_of_some declared] at entities accounts ⊢
        refine ⟨e :: added, by rw [entities, entities_push, List.append_assoc]; rfl, ?_⟩
        simp only [Reading.next, declared]
        rw [List.map_cons, line_of_declared? declared]
        exact accounts.cons_declaring (by simp [blank, declared])

/-! ## Strict readings with earlier lines emptied -/

theorem numbers_readLines_append (s : Scene) (first : Nat) (earlier later : List (List Char)) :
    (s.readLines first (earlier ++ later)).numbers =
      (s.readLines first earlier).numbers ++
        ((s.readLines first earlier).scene.readLines (first + earlier.length) later).numbers := by
  rw [readLines_append, Reading.numbers, List.map_append]
  rfl

theorem lt_of_mem_numbers (member : n ∈ (s.readLines first ls).numbers) :
    first ≤ n ∧ n < first + ls.length := by
  obtain ⟨err, line, before, after, rfl, rfl, -⟩ := mem_numbers_iff.mp member
  rw [List.length_append, List.length_cons]
  omega

/-- Of the numbers of dropped lines, those below a line are those of the lines before it. -/
theorem filter_numbers (s : Scene) (first : Nat) (earlier later : List (List Char)) :
    (s.readLines first (earlier ++ later)).numbers.filter (· < first + earlier.length) =
      (s.readLines first earlier).numbers := by
  have before : ∀ m ∈ (s.readLines first earlier).numbers,
      decide (m < first + earlier.length) = true := by
    intro m member
    exact decide_eq_true (lt_of_mem_numbers member).2
  have behind : ∀ m ∈ ((s.readLines first earlier).scene.readLines (first + earlier.length)
      later).numbers, ¬decide (m < first + earlier.length) = true := by
    intro m member
    rw [decide_eq_true_iff]
    exact Nat.not_lt.mpr (lt_of_mem_numbers member).1
  rw [numbers_readLines_append, List.filter_append, List.filter_eq_self.mpr before,
    List.filter_eq_nil_iff.mpr behind, List.append_nil]

theorem strictLines_append (accepted : s.strictLines first earlier = .ok t)
    (later : List (List Char)) :
    s.strictLines first (earlier ++ later) = t.strictLines (first + earlier.length) later := by
  induction earlier generalizing s first with
  | nil =>
      obtain rfl := Except.ok.inj accepted
      rfl
  | cons line earlier ih =>
      have shift : first + (line :: earlier).length = first + 1 + earlier.length := by
        rw [List.length_cons]
        omega
      rw [strictLines] at accepted
      rw [List.cons_append, strictLines, shift]
      rcases declared : s.declared? first line with err | _ | e
      all_goals rw [declared] at accepted
      · cases accepted
      · exact ih accepted
      · exact ih accepted

theorem emptied_append (dropped : List Nat) (first : Nat) (earlier later : List (List Char)) :
    emptied dropped first (earlier ++ later) =
      emptied dropped first earlier ++ emptied dropped (first + earlier.length) later := by
  simp only [emptied, List.mapIdx_append, Nat.add_assoc, Nat.add_comm earlier.length]

/-- With the lines emptied that are dropped before it, a strict reading stops at a line that
fails. -/
theorem strictLines_emptied_of_failsAt (fails : s.FailsAt first ls n err line) :
    s.strictLines first (emptied ((s.readLines first ls).numbers.filter (· < n)) first ls) =
      .error ⟨err, line⟩ := by
  obtain ⟨earlier, later, rfl, rfl, declared⟩ := fails
  rw [filter_numbers, emptied_append, emptied_cons, if_neg]
  · rw [strictLines_append (strictLines_emptied fun _ _ => Iff.rfl), strictLines]
    simp only [emptied, List.length_mapIdx, declared]
  · intro member
    exact Nat.lt_irrefl _ (lt_of_mem_numbers member).2

/-- A text with some of its lines emptied. -/
def withoutLines (dropped : List Nat) (text : String) : String :=
  String.ofList (joinLines (emptied dropped 1 (Text.lines text.toList)))

theorem readStrict_withoutLines (dropped : List Nat) (text : String) :
    readStrict (withoutLines dropped text) =
      empty.strictLines 1 (emptied dropped 1 (Text.lines text.toList)) := by
  have unbroken : ∀ l ∈ Text.lines text.toList, Unbroken l :=
    fun _ => Text.unbroken_of_mem_lines
  rw [readStrict, withoutLines, String.toList_ofList,
    strictLines_lines_joinLines _ _ (unbroken_of_mem_emptied unbroken)]

end Scene

theorem Excerpt.attach?_eq_some {message line cs : List Char}
    (attached : attach? message line = some cs) :
    ∃ col, cs = joinLines [message, shown line, caret col] := by
  unfold attach? at attached
  split at attached
  · cases attached
  · obtain ⟨col, -, made⟩ := Option.bind_eq_some_iff.mp attached
    obtain rfl := Option.some.inj made
    exact ⟨max col 1, by simp [joinLines, shown, caret, indent]⟩

/-- The message of a refusal is that of its error, and the line with a caret may follow. -/
theorem Refusal.message_cases (r : Refusal) :
    r.message = r.error.message ∨ ∃ col, r.message.toList =
      joinLines [r.error.message.toList, Excerpt.shown r.line, Excerpt.caret col] := by
  unfold message
  dsimp only
  split
  · exact .inl rfl
  split
  · rename_i cs attached
    obtain ⟨col, rfl⟩ := Excerpt.attach?_eq_some attached
    exact .inr ⟨col, String.toList_ofList⟩
  · exact .inl rfl

/-! ## The log -/

namespace Abbreviation

/-- A summary tells of every kind in a scene how many entities of it there are. -/
def Summarizes (summary : String) (s : Scene) : Prop :=
  ∃ kinds : List Kind, kinds.Nodup ∧ (∀ k, k ∈ kinds ↔ s.ofKind k ≠ []) ∧
    summary = if kinds = [] then "empty" else
      Value.commas (kinds.map fun k => k.name ++ "=" ++ toString (s.ofKind k).length)

theorem count_kinds (s : Scene) (k : Kind) :
    (s.entities.map (·.kind)).count k = (s.ofKind k).length := by
  rw [List.count_eq_countP, List.countP_map, List.countP_eq_length_filter]
  rfl

theorem exists_summary (s : Scene) :
    ∃ summary, Summarizes summary s ∧
      ofScene s = "Scene(" ++ toString s.size ++ " entities: " ++ summary ++ ")" := by
  let kinds := (s.entities.map (·.kind)).eraseDups
  refine ⟨_, ⟨kinds, nodup_eraseDups _, ?_, rfl⟩, ?_⟩
  · intro k
    rw [List.mem_eraseDups, ← List.count_pos_iff, count_kinds, List.length_pos_iff]
  · have counts : (kindCounts s).map (fun c => c.1.name ++ "=" ++ toString c.2) =
        kinds.map fun k => k.name ++ "=" ++ toString (s.ofKind k).length := by
      simp only [kindCounts, List.map_map, Function.comp_def, count_kinds]
      rfl
    have described : ofScene s = "Scene(" ++ toString s.size ++ " entities: " ++
        (let counts := (kindCounts s).map fun c => c.1.name ++ "=" ++ toString c.2
          if counts.isEmpty then "empty" else Value.commas counts) ++ ")" := rfl
    rw [described, counts]
    simp only [List.isEmpty_map, List.isEmpty_iff]

end Abbreviation

namespace Trace

/-- A call writes messages of the finest level, so a log at this level has all of them. -/
theorem above_call {logger name : String} {a : Arguments} {inner : Log}
    {outcome : Option (Option Value)} (fine : ∀ entry ∈ inner, entry.level = .debug) :
    Log.above Level.debug.rank (call logger name a inner outcome) =
      call logger name a inner outcome := by
  apply List.filter_eq_self.mpr
  intro entry member
  have level : entry.level = .debug := by
    obtain here | ending := List.mem_append.mp member
    · obtain rfl | within := List.mem_cons.mp here
      · rfl
      · exact fine entry within
    · cases outcome with
      | none => cases ending
      | some result =>
          obtain rfl := List.mem_singleton.mp ending
          rfl
  rw [level]
  rfl

/-- A lenient reading accounts for every line of a text. Its log is a message that it begins, one
message for each line that it drops, and a message that it ends, with a summary of the scene. The
lines that are dropped and those that the entities of the scene were read from are together the
lines with tokens, each of them once and in order. And the message of a dropped line tells why a
strict reading fails there when the lines dropped before it are empty, without the excerpt that a
refusal adds. -/
theorem read_accounts (text : String) :
    let scene := (Scene.read text).scene
    let dropped := (Scene.read text).dropped
    let numbers := (Scene.read text).numbers
    (Trace.read false text).1 = .ok scene ∧
    (∃ summary, Abbreviation.Summarizes summary scene ∧
      Log.above Level.debug.rank (Trace.read false text).2 =
        entering readerLogger "parse_scene" (readArguments false text) ::
          (dropped.map fun (k, err) =>
            Log.debug readerLogger s!"Skipping line {k}: {err.message}") ++
          [Log.debug readerLogger ("Exiting parse_scene -> Scene(" ++ toString scene.size ++
            " entities: " ++ summary ++ ")")]) ∧
    Scene.Accounts 1 (Text.lines text.toList) (scene.entities.map (·.span.line)) numbers ∧
    ∀ k err, (k, err) ∈ dropped → ∃ refusal : Refusal,
      Scene.ofText true (Scene.withoutLines (numbers.filter (· < k)) text) = .error refusal ∧
      (refusal.message = err.message ∨ ∃ col, refusal.message.toList =
        joinLines [err.message.toList, Excerpt.shown refusal.line, Excerpt.caret col]) := by
  intro scene dropped numbers
  obtain ⟨summary, summarizes, described⟩ := Abbreviation.exists_summary scene
  obtain ⟨added, entities, accounts⟩ :=
    Scene.exists_accounts .empty 1 (Text.lines text.toList)
  have lines : scene.entities = added := entities
  refine ⟨rfl, ⟨summary, summarizes, ?_⟩, lines ▸ accounts, ?_⟩
  · have ending : exiting readerLogger "parse_scene" (some (.scene scene)) =
        Log.debug readerLogger ("Exiting parse_scene -> Scene(" ++ toString scene.size ++
          " entities: " ++ summary ++ ")") := by
      simp only [exiting, Option.elim, Abbreviation.ofValue, described]
      simp [← String.append_assoc]
    have fine : ∀ entry ∈ dropped.map fun (k, err) => skipping k err, entry.level = .debug := by
      intro entry member
      obtain ⟨⟨k, err⟩, -, rfl⟩ := List.mem_map.mp member
      rfl
    have logged : (Trace.read false text).2 = call readerLogger "parse_scene"
        (readArguments false text) (dropped.map fun (k, err) => skipping k err)
        (some (some (.scene scene))) := rfl
    rw [logged, above_call fine, ← ending]
    rfl
  · intro k err member
    obtain ⟨line, fails⟩ := Scene.mem_dropped_iff.mp member
    refine ⟨⟨err, line⟩, ?_, Refusal.message_cases ⟨err, line⟩⟩
    have strict : ∀ t, Scene.ofText true t = Scene.readStrict t := fun _ => rfl
    rw [strict, Scene.readStrict_withoutLines]
    exact Scene.strictLines_emptied_of_failsAt fails

end Trace

end Straightedge
