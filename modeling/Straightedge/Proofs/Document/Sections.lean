import Straightedge.Proofs.Document.Fence
import Straightedge.Proofs.Text.Lines

/-!
# The sections of a document

A document consists of prose lines, none of which opens a block, and of sections: an
opening line, the lines of a body, none of which closes the block, and a closing
line, which only a section at the end may lack. There is exactly one way to arrange
the lines of a document so, and the blocks that are found are its sections. Hence
sections that are put together to a document are found again, whatever fences of
another kind or of shorter runs their bodies hold.
-/

namespace Straightedge.Fence

open Text (Unbroken joinLines endLines)

/-- A part of a document. -/
inductive Item where
  | prose (line : List Char)
  | fenced (opening : List Char) (opener : Opener) (body : List (List Char))
    (closing? : Option (List Char))

namespace Item

/-- The lines of a part. -/
def lines : Item → List (List Char)
  | prose line => [line]
  | fenced opening _ body closing? => opening :: (body ++ closing?.toList)

/-- Prose opens no block; a section opens one, and only its closing line closes it. -/
def Proper : Item → Prop
  | prose line => ∀ o, ¬Opens line o
  | fenced opening o body closing? =>
    Opens opening o ∧ (∀ l ∈ body, ¬Closes o l) ∧ ∀ l ∈ closing?, Closes o l

/-- A section has its closing line. -/
def Closed : Item → Prop
  | prose _ => True
  | fenced _ _ _ closing? => closing? ≠ none

/-- The block of a section. -/
def block? : Item → Option Block
  | prose _ => none
  | fenced _ o body _ => some ⟨o.language, body⟩

/-- The body of a section in a language. -/
def bodyIn? (language : String) : Item → Option String
  | prose _ => none
  | fenced _ o body _ =>
    if o.language = language.toList then some (String.ofList (joinLines body)) else none

end Item

/-- Prose and sections, all but the last of which have their closing lines. -/
structure Arranged (items : List Item) : Prop where
  proper : ∀ item ∈ items, item.Proper
  closed : ∀ item ∈ items.dropLast, item.Closed

/-- The lines of the parts of a document. -/
def linesOf (items : List Item) : List (List Char) := items.flatMap Item.lines

variable {item : Item} {items : List Item} {ls : List (List Char)}

theorem linesOf_cons (item : Item) (items : List Item) :
    linesOf (item :: items) = item.lines ++ linesOf items := rfl

theorem arranged_nil : Arranged [] := ⟨nofun, nofun⟩

theorem arranged_cons_iff :
    Arranged (item :: items) ↔ item.Proper ∧ (items ≠ [] → item.Closed) ∧ Arranged items := by
  cases items with
  | nil => exact ⟨fun h => ⟨h.proper item (.head _), nofun, arranged_nil⟩,
      fun ⟨proper, _, _⟩ => ⟨by simpa using proper, nofun⟩⟩
  | cons next items =>
      constructor
      · rintro ⟨proper, closed⟩
        rw [List.dropLast_cons_cons, List.forall_mem_cons] at closed
        rw [List.forall_mem_cons] at proper
        exact ⟨proper.1, fun _ => closed.1, proper.2, closed.2⟩
      · rintro ⟨proper, closed, others⟩
        refine ⟨List.forall_mem_cons.mpr ⟨proper, others.proper⟩, ?_⟩
        rw [List.dropLast_cons_cons]
        exact List.forall_mem_cons.mpr ⟨closed (List.cons_ne_nil next items), others.closed⟩

/-- The parts that the lines of a document are arranged to. -/
def cut : List (List Char) → List Item
  | [] => []
  | line :: rest =>
    match opener? line with
    | none => .prose line :: cut rest
    | some o =>
      let isBody (l : List Char) : Bool := !o.closedBy l
      .fenced line o (rest.takeWhile isBody) (rest.dropWhile isBody).head? ::
        cut ((rest.dropWhile isBody).drop 1)
termination_by lines => lines.length
decreasing_by
  · simp
  · have := (List.dropWhile_sublist (fun l => !o.closedBy l) (l := rest)).length_le
    simp only [List.length_cons, List.length_drop]
    omega

/-- The body of a block ends at the first line that closes it. -/
theorem body_iff {opening : List Char} {o : Opener} {rest body left : List (List Char)}
    (opens : Opens opening o) :
    (rest.takeWhile fun l => !o.closedBy l) = body ∧
        (rest.dropWhile fun l => !o.closedBy l) = left ↔
      rest = body ++ left ∧ (∀ l ∈ body, ¬Closes o l) ∧ ∀ l ∈ left.head?, Closes o l := by
  simp only [takeWhile_dropWhile_iff, Bool.not_eq_true', Bool.eq_false_iff, ne_eq, not_not,
    closedBy_iff opens]

theorem linesOf_cut (ls : List (List Char)) : linesOf (cut ls) = ls := by
  fun_induction cut ls with
  | case1 => rfl
  | case2 line rest none ih => rw [linesOf_cons, ih]; rfl
  | case3 line rest o opens isBody ih =>
      have closing : (rest.dropWhile isBody).head?.toList ++ (rest.dropWhile isBody).drop 1 =
          rest.dropWhile isBody := by
        cases rest.dropWhile isBody <;> rfl
      rw [linesOf_cons, ih, Item.lines, List.cons_append, List.append_assoc, closing,
        List.takeWhile_append_dropWhile]

theorem arranged_cut (ls : List (List Char)) : Arranged (cut ls) := by
  fun_induction cut ls with
  | case1 => exact arranged_nil
  | case2 line rest none ih =>
      refine arranged_cons_iff.mpr ⟨fun o opens => ?_, fun _ => trivial, ih⟩
      rw [opener?_eq_some_iff.mpr opens] at none
      cases none
  | case3 line rest o opener isBody ih =>
      have opens := opener?_eq_some_iff.mp opener
      obtain ⟨-, inside, closes⟩ := (body_iff opens).mp ⟨rfl, (rfl : rest.dropWhile isBody = _)⟩
      refine arranged_cons_iff.mpr ⟨⟨opens, inside, closes⟩, fun more unclosed => ?_, ih⟩
      rw [List.head?_eq_none_iff] at unclosed
      rw [unclosed, List.drop_nil, cut] at more
      exact more rfl

/-- Parts that are arranged are found again. -/
theorem cut_linesOf (h : Arranged items) : cut (linesOf items) = items := by
  induction items with
  | nil => rw [linesOf, List.flatMap_nil, cut]
  | cons item items ih =>
      obtain ⟨proper, closed, others⟩ := arranged_cons_iff.mp h
      rw [linesOf_cons]
      cases item with
      | prose line =>
          have none : opener? line = none := Option.eq_none_iff_forall_ne_some.mpr fun o opener =>
            proper o (opener?_eq_some_iff.mp opener)
          simp only [Item.lines, List.singleton_append, cut, none, ih others]
      | fenced opening o body closing? =>
          obtain ⟨opens, inside, closes⟩ := proper
          obtain ⟨first, left⟩ : (closing?.toList ++ linesOf items).head? = closing? ∧
              (closing?.toList ++ linesOf items).drop 1 = linesOf items := by
            cases closing? with
            | some closing => exact ⟨rfl, rfl⟩
            | none =>
                obtain rfl : items = [] := by_contra fun more => closed more rfl
                exact ⟨rfl, rfl⟩
          obtain ⟨bodyFound, rest⟩ := (body_iff opens).mpr ⟨rfl, inside, by rwa [first]⟩
          simp only [Item.lines, List.cons_append, List.append_assoc, cut,
            opener?_eq_some_iff.mpr opens, bodyFound, rest, first, left, ih others]

/-- The blocks of a document are its sections. -/
theorem blocks_eq (ls : List (List Char)) : blocks ls = (cut ls).filterMap Item.block? := by
  fun_induction cut ls with
  | case1 => rw [blocks]; rfl
  | case2 line rest none ih =>
      simp only [blocks, none]
      exact ih
  | case3 line rest o opener isBody ih =>
      simp only [blocks, opener]
      exact congrArg _ ih

/-- The bodies of the sections in a language. -/
def bodies (language : String) (items : List Item) : List String :=
  items.filterMap (Item.bodyIn? language)

theorem bodiesOf_eq (language document : String) :
    bodiesOf language document = bodies language (cut (Text.lines document.toList)) := by
  rw [bodiesOf, blocks_eq, List.filter_filterMap, List.map_filterMap, bodies]
  refine congrArg (List.filterMap · _) (funext fun item => ?_)
  cases item with
  | prose line => rfl
  | fenced opening o body closing? => simp [Item.block?, Item.bodyIn?, Option.filter]

/-- The lines of a document are arranged to prose and sections in exactly one way, and the bodies
found in a language are those of the sections whose opening lines name it, in order. So the bodies
of prose and sections that are put together to a document are found again, whether a line feed ends
each line or joins it to the next; only an empty line at the end needs one of its own. -/
theorem bodiesOf_sections (language document : String) :
    (∃! items, Arranged items ∧ linesOf items = Text.lines document.toList) ∧
      (∀ items, Arranged items → linesOf items = Text.lines document.toList →
        bodiesOf language document = bodies language items) ∧
      ∀ items, Arranged items → (∀ l ∈ linesOf items, Unbroken l) →
        bodiesOf language (String.ofList (endLines (linesOf items))) = bodies language items ∧
          ((linesOf items).getLast? ≠ some [] →
            bodiesOf language (String.ofList (joinLines (linesOf items))) =
              bodies language items) := by
  have found : ∀ items, Arranged items → ∀ document : String,
      linesOf items = Text.lines document.toList →
        bodiesOf language document = bodies language items := by
    intro items arranged document same
    rw [bodiesOf_eq, ← same, cut_linesOf arranged]
  refine ⟨⟨cut (Text.lines document.toList), ⟨arranged_cut _, linesOf_cut _⟩, ?_⟩,
    fun items arranged same => found items arranged document same, ?_⟩
  · rintro items ⟨arranged, same⟩
    rw [← same, cut_linesOf arranged]
  · intro items arranged unbroken
    refine ⟨found items arranged _ ?_, fun visible => found items arranged _ ?_⟩
    · rw [String.toList_ofList, Text.lines_endLines unbroken]
    · have joined := Text.lines_joinLines unbroken
      rw [if_neg visible, List.append_nil] at joined
      rw [String.toList_ofList, joined]

/-- Fences of the other mark and shorter runs stay in a body, and a section at the end may lack its
closing line. -/
example :
    bodiesOf "geometry" ("~~~py\n```geometry\n~~~\n" ++
      "````geometry x\n```\n~~~~~\n````\n" ++ "```geometry\n") = ["```\n~~~~~", ""] := by
  cbv

end Straightedge.Fence
