import Mathlib.Data.List.TakeWhile
import Straightedge.Document.Fence

/-!
# Opening and closing lines

A fence is read from the left: the spaces before it, the run of its marks, and what
is left. Said from the outside, a line opens a block when it is put together from
at most three spaces, a run of at least three marks that does not go on, and text
without a backtick; its language is the first word of that text. It closes a block
when it is put together from at most three spaces, a run of the same mark that is
long enough, and blanks.
-/

namespace Straightedge.Fence

open Text (isBlank)

variable {c : Char} {cs rest text word line : List Char} {n : Nat} {o : Opener}

/-! ## Runs and words -/

/-- The longest start of a list that satisfies a condition, and what is left, are the two parts
the first of which satisfies it throughout and the second of which does not start with it. -/
theorem takeWhile_dropWhile_iff {α : Type} {p : α → Bool} {xs start rest : List α} :
    xs.takeWhile p = start ∧ xs.dropWhile p = rest ↔
      xs = start ++ rest ∧ (∀ x ∈ start, p x = true) ∧ ∀ x ∈ rest.head?, p x = false := by
  constructor
  · rintro ⟨rfl, rfl⟩
    refine ⟨List.takeWhile_append_dropWhile.symm, fun x => List.mem_takeWhile_imp, ?_⟩
    intro x first
    have stops := List.head?_dropWhile_not p xs
    rwa [Option.mem_def.mp first] at stops
  · rintro ⟨rfl, holds, stops⟩
    rw [List.takeWhile_append_of_pos holds, List.dropWhile_append_of_pos holds]
    cases rest with
    | nil => exact ⟨List.append_nil start, rfl⟩
    | cons x rest =>
        have stopped := stops x rfl
        simp [stopped]

/-- A text is a run of one character, which what follows does not go on. -/
def IsRun (c : Char) (n : Nat) (cs rest : List Char) : Prop :=
  cs = List.replicate n c ++ rest ∧ rest.head? ≠ some c

/-- The run that a text starts with is determined. -/
theorem isRun_iff :
    IsRun c n cs rest ↔ (cs.takeWhile (· == c)).length = n ∧ cs.dropWhile (· == c) = rest := by
  have asList : IsRun c n cs rest ↔
      cs.takeWhile (· == c) = List.replicate n c ∧ cs.dropWhile (· == c) = rest := by
    rw [takeWhile_dropWhile_iff, IsRun]
    refine and_congr_right fun _ => ⟨fun stops => ⟨by simp, ?_⟩, fun ⟨_, stops⟩ first => ?_⟩
    · intro d first
      simpa using fun same : d = c => stops (same ▸ first)
    · simpa using stops c first
  rw [asList]
  refine and_congr_left fun _ => ⟨fun run => by rw [run, List.length_replicate], fun length => ?_⟩
  exact List.eq_replicate_iff.mpr ⟨length, fun d member => by
    simpa using List.mem_takeWhile_imp member⟩

/-- The first word of a text, empty if the text is blank. -/
def FirstWord (text word : List Char) : Prop :=
  ∃ before after, text = before ++ word ++ after ∧ (∀ c ∈ before, isBlank c = true) ∧
    (∀ c ∈ word, isBlank c = false) ∧ (∀ c ∈ after.head?, isBlank c = true) ∧
    (word = [] → after = [])

theorem firstWord_iff :
    FirstWord text word ↔ ((Text.trimStart text).takeWhile fun c => !isBlank c) = word := by
  constructor
  · rintro ⟨before, after, rfl, blank, visible, stops, noWord⟩
    have starts : ∀ c ∈ (word ++ after).head?, isBlank c = false := by
      cases word with
      | nil => simp [noWord]
      | cons d word => simpa using visible d
    have trimmed : Text.trimStart (before ++ word ++ after) = word ++ after :=
      (takeWhile_dropWhile_iff.mpr ⟨List.append_assoc .., blank, starts⟩).2
    rw [trimmed]
    exact (takeWhile_dropWhile_iff.mpr ⟨rfl, by simpa using visible, by simpa using stops⟩).1
  · rintro rfl
    obtain ⟨split, blank, starts⟩ :=
      takeWhile_dropWhile_iff.mp ⟨rfl, (rfl : text.dropWhile isBlank = Text.trimStart text)⟩
    obtain ⟨split', visible, stops⟩ := takeWhile_dropWhile_iff.mp
      ⟨(rfl : (Text.trimStart text).takeWhile (fun c => !isBlank c) = _), rfl⟩
    refine ⟨_, _, ?_, blank, by simpa using visible, by simpa using stops, fun noWord => ?_⟩
    · rw [List.append_assoc, ← split']
      exact split
    · rw [noWord, List.nil_append] at split'
      rw [← split'] at stops ⊢
      rw [← List.head?_eq_none_iff, Option.eq_none_iff_forall_not_mem]
      intro c first
      have visibly := starts c first
      have blankly := stops c first
      rw [visibly] at blankly
      cases blankly

/-! ## Opening lines -/

/-- A line opens a block: at most three spaces, a run of at least three marks, and text without a
backtick, the first word of which is the language. -/
structure Opens (line : List Char) (o : Opener) : Prop where
  mark : o.mark = backtick ∨ o.mark = '~'
  long : 3 ≤ o.length
  split : ∃ indent rest, indent ≤ 3 ∧
    line = List.replicate indent ' ' ++ List.replicate o.length o.mark ++ rest ∧
    rest.head? ≠ some o.mark ∧ backtick ∉ rest ∧ FirstWord rest o.language

theorem unindent?_eq_some_iff :
    unindent? line = some text ↔ ∃ indent ≤ 3, IsRun ' ' indent line text := by
  rw [unindent?, Option.ite_none_right_eq_some, Option.some_inj]
  constructor
  · rintro ⟨short, rfl⟩
    exact ⟨_, short, isRun_iff.mpr ⟨rfl, rfl⟩⟩
  · rintro ⟨indent, short, run⟩
    obtain ⟨rfl, rfl⟩ := isRun_iff.mp run
    exact ⟨short, rfl⟩

theorem Opens.isBlank_mark (h : Opens line o) : isBlank o.mark = false := by
  rcases h.mark with mark | mark <;> rw [mark] <;> decide

/-- The spaces before a run of marks end where the run starts. -/
theorem Opens.isRun_indent {indent length : Nat} (h : Opens line o) (long : o.length ≤ length)
    (rest : List Char) : IsRun ' ' indent
      (List.replicate indent ' ' ++ List.replicate length o.mark ++ rest)
      (List.replicate length o.mark ++ rest) := by
  refine ⟨List.append_assoc .., ?_⟩
  obtain ⟨n, rfl⟩ := Nat.exists_eq_add_of_le' (h.long.trans long)
  intro first
  have space : o.mark = ' ' := Option.some_inj.mp first
  have visible := h.isBlank_mark
  rw [space, Text.isBlank_space] at visible
  cases visible

theorem opener?_eq_some_iff : opener? line = some o ↔ Opens line o := by
  simp only [opener?, Option.bind_eq_bind, Option.bind_eq_some_iff, unindent?_eq_some_iff,
    Option.pure_def, Option.ite_none_right_eq_some, Option.some_inj, Bool.and_eq_true,
    Bool.or_eq_true, beq_iff_eq, decide_eq_true_eq, Bool.not_eq_true', List.contains_eq_mem,
    decide_eq_false_iff_not]
  constructor
  · rintro ⟨text, ⟨indent, short, split, -⟩, mark, -, ⟨⟨isMark, long⟩, plain⟩, rfl⟩
    obtain ⟨run, stops⟩ := isRun_iff.mpr ⟨rfl, (rfl : text.dropWhile (· == mark) = _)⟩
    refine ⟨isMark, long, indent, _, short, ?_, stops, plain, firstWord_iff.mpr rfl⟩
    rw [List.append_assoc, ← run, split]
  · intro h
    obtain ⟨indent, rest, short, rfl, stops, plain, word⟩ := h.split
    obtain ⟨length, left⟩ := isRun_iff.mp (show IsRun o.mark o.length _ rest from ⟨rfl, stops⟩)
    refine ⟨_, ⟨indent, short, h.isRun_indent (Nat.le_refl o.length) rest⟩, o.mark, ?_, ?_⟩
    · obtain ⟨n, more⟩ := Nat.exists_eq_add_of_le' h.long
      rw [more]
      rfl
    · rw [length, left]
      exact ⟨⟨⟨h.mark, h.long⟩, plain⟩, by rw [firstWord_iff.mp word]⟩

/-! ## Closing lines -/

/-- A line closes a block: at most three spaces, a run of the mark that is at least as long as the
one that opened the block, and blanks. -/
def Closes (o : Opener) (line : List Char) : Prop :=
  ∃ indent length blanks, indent ≤ 3 ∧ o.length ≤ length ∧ (∀ c ∈ blanks, isBlank c = true) ∧
    line = List.replicate indent ' ' ++ List.replicate length o.mark ++ blanks

theorem closedBy_iff {opening : List Char} (h : Opens opening o) :
    o.closedBy line = true ↔ Closes o line := by
  rw [Opener.closedBy]
  constructor
  · intro closed
    split at closed
    next => cases closed
    next text unindented =>
      obtain ⟨indent, short, split, -⟩ := unindent?_eq_some_iff.mp unindented
      simp only [Bool.and_eq_true, decide_eq_true_eq, List.all_eq_true] at closed
      obtain ⟨run, -⟩ := isRun_iff.mpr ⟨rfl, (rfl : text.dropWhile (· == o.mark) = _)⟩
      refine ⟨indent, _, _, short, closed.1, closed.2, ?_⟩
      rw [List.append_assoc, ← run, split]
  · rintro ⟨indent, length, blanks, short, long, blank, rfl⟩
    have stops : blanks.head? ≠ some o.mark := by
      intro first
      have blankly := blank _ (List.mem_of_mem_head? first)
      rw [h.isBlank_mark] at blankly
      cases blankly
    obtain ⟨run, left⟩ := isRun_iff.mp (show IsRun o.mark length _ blanks from ⟨rfl, stops⟩)
    rw [unindent?_eq_some_iff.mpr ⟨indent, short, h.isRun_indent long blanks⟩]
    simp only [run, left, Bool.and_eq_true, decide_eq_true_eq, List.all_eq_true]
    exact ⟨long, blank⟩

end Straightedge.Fence
