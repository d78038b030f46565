import Straightedge.Proofs.Text.Basic

/-!
# Cutting and joining lines

The lines of a text hold no break. Lines without a break that are each ended by a
line feed are the lines of the result; lines that are joined by line feeds are so
up to one empty line at the end, which leaves no trace in the text. A line feed
between two texts keeps their lines apart, whatever the first of them ends with.
-/

namespace Straightedge.Text

/-- A text that no break cuts. -/
def Unbroken (line : List Char) : Prop := ∀ c ∈ line, isLineBreak c = false

instance : DecidablePred Unbroken := List.decidableBAll fun c => isLineBreak c = false

theorem unbroken_of_mem_lines {cs line : List Char} (h : line ∈ lines cs) : Unbroken line := by
  fun_induction lines cs generalizing line with
  | case1 => cases h
  | case2 cs ih =>
      rcases List.mem_cons.mp h with rfl | later
      · exact fun c member => nomatch member
      · exact ih later
  | case3 c cs _ broken ih =>
      rcases List.mem_cons.mp h with rfl | later
      · exact fun c member => nomatch member
      · exact ih later
  | case4 c cs _ unbroken last ih =>
      obtain rfl := List.mem_singleton.mp h
      exact List.forall_mem_singleton.mpr (by simpa using unbroken)
  | case5 c cs _ unbroken first rest split ih =>
      rw [split] at ih
      rcases List.mem_cons.mp h with rfl | later
      · exact List.forall_mem_cons.mpr ⟨by simpa using unbroken, ih List.mem_cons_self⟩
      · exact ih (List.mem_cons_of_mem first later)

theorem lines_of_unbroken {line : List Char} (unbroken : Unbroken line) (nonempty : line ≠ []) :
    lines line = [line] := by
  induction line with
  | nil => exact absurd rfl nonempty
  | cons c line ih =>
      obtain ⟨here, others⟩ := List.forall_mem_cons.mp unbroken
      rw [lines_cons_of_unbroken here]
      cases line with
      | nil => rfl
      | cons d line => rw [ih others (List.cons_ne_nil d line)]

/-- Lines that are each ended by a line feed. -/
def endLines (ls : List (List Char)) : List Char := ls.flatMap (· ++ ['\n'])

theorem lines_endLines {ls : List (List Char)} (unbroken : ∀ l ∈ ls, Unbroken l) :
    lines (endLines ls) = ls := by
  induction ls with
  | nil => rfl
  | cons line ls ih =>
      obtain ⟨here, others⟩ := List.forall_mem_cons.mp unbroken
      have split : endLines (line :: ls) = line ++ '\n' :: endLines ls := by
        rw [endLines, List.flatMap_cons, List.append_assoc]
        rfl
      rw [split, lines_append_newline _ here, ih others]

/-- Joining by line feeds keeps all lines but an empty one at the end. -/
theorem lines_joinLines {ls : List (List Char)} (unbroken : ∀ l ∈ ls, Unbroken l) :
    lines (joinLines ls) ++ (if ls.getLast? = some [] then [[]] else []) = ls := by
  induction ls with
  | nil => rfl
  | cons line ls ih =>
      obtain ⟨here, others⟩ := List.forall_mem_cons.mp unbroken
      cases ls with
      | nil =>
          by_cases empty : line = []
          · subst empty
            rfl
          · rw [joinLines, lines_of_unbroken here empty]
            simp [empty]
      | cons next ls =>
          rw [joinLines, lines_append_newline _ here, List.cons_append, List.getLast?_cons_cons,
            ih others]
          exact List.cons_ne_nil next ls

/-! ## A line feed between two texts -/

variable {c : Char} {cs : List Char}

/-- A break ends a line, unless a pair starts with it. -/
theorem lines_cons_of_break (broken : isLineBreak c = true)
    (noPair : ∀ tail, c = '\r' → cs ≠ '\n' :: tail) : lines (c :: cs) = [] :: lines cs := by
  rw [lines]
  · rw [if_pos broken]
  · exact noPair

/-- A line feed that follows on a text makes a pair only with a carriage return that is alone. -/
theorem noPair_append (notLone : ¬(c = '\r' ∧ cs = []))
    (noPair : ∀ tail, c = '\r' → cs ≠ '\n' :: tail) (rest : List Char) :
    ∀ tail, c = '\r' → cs ++ '\n' :: rest ≠ '\n' :: tail := by
  intro tail isReturn split
  cases cs with
  | nil => exact notLone ⟨isReturn, rfl⟩
  | cons d cs =>
      obtain ⟨rfl, -⟩ := List.cons.inj split
      exact noPair cs isReturn rfl

theorem lines_ne_nil (nonempty : cs ≠ []) : lines cs ≠ [] := by
  fun_cases lines cs with
  | case1 => exact absurd rfl nonempty
  | case2 | case3 | case4 | case5 => exact List.cons_ne_nil _ _

/-- A line feed ends a line whatever is before it. With a carriage return it makes one break, so
the cases are those of the first text. -/
theorem lines_append_cons_newline (cs rest : List Char) :
    lines (cs ++ '\n' :: rest) = lines (cs ++ ['\n']) ++ lines rest := by
  fun_induction lines cs with
  | case1 => simp [lines, isLineBreak]
  | case2 cs ih => simp only [List.cons_append, lines, ih]
  | case3 c cs noPair broken ih =>
      by_cases lone : c = '\r' ∧ cs = []
      · obtain ⟨rfl, rfl⟩ := lone
        simp [lines]
      · have apart := noPair_append lone noPair
        rw [List.cons_append, List.cons_append, lines_cons_of_break broken (apart rest),
          lines_cons_of_break broken (apart []), ih, List.cons_append]
  | case4 c cs _ unbroken _ ih | case5 c cs _ unbroken _ _ _ ih =>
      have plain : isLineBreak c = false := by simpa using unbroken
      rw [List.cons_append, List.cons_append, lines_cons_of_unbroken plain,
        lines_cons_of_unbroken plain, ih]
      cases ended : lines (cs ++ ['\n']) with
      | nil => exact absurd ended (lines_ne_nil (by simp))
      | cons line ls => rfl

/-- A line feed at the end of a text ends its last line or, where a break has ended that already,
an empty one. -/
theorem lines_append_newline_cases (cs : List Char) :
    lines (cs ++ ['\n']) = lines cs ∨ lines (cs ++ ['\n']) = lines cs ++ [[]] := by
  fun_induction lines cs with
  | case1 => exact .inr rfl
  | case2 cs ih =>
      simp only [List.cons_append, lines]
      exact ih.imp (congrArg _) (congrArg _)
  | case3 c cs noPair broken ih =>
      by_cases lone : c = '\r' ∧ cs = []
      · obtain ⟨rfl, rfl⟩ := lone
        exact .inl rfl
      · rw [List.cons_append, lines_cons_of_break broken (noPair_append lone noPair [])]
        exact ih.imp (congrArg _) (congrArg _)
  | case4 c cs _ unbroken last ih =>
      have plain : isLineBreak c = false := by simpa using unbroken
      obtain rfl : cs = [] := by
        by_contra more
        exact lines_ne_nil more last
      exact .inl (lines_append_newline [] (List.forall_mem_singleton.mpr plain))
  | case5 c cs _ unbroken first rest last ih =>
      have plain : isLineBreak c = false := by simpa using unbroken
      rw [List.cons_append, lines_cons_of_unbroken plain]
      obtain same | more := ih
      · rw [same, last]
        exact .inl rfl
      · rw [more, last]
        exact .inr rfl

/-- After a carriage return a line feed ends no line of its own; after a form feed it does. -/
example :
    lines "a\r\nb".toList = lines "a\r".toList ++ lines "b".toList ∧
      lines "a\x0c\nb".toList = lines "a\x0c".toList ++ [[]] ++ lines "b".toList := by
  decide +kernel

end Straightedge.Text
