import Mathlib.Algebra.Group.Nat.Defs
import Mathlib.Data.List.Basic
import Mathlib.Data.List.Induction
import Straightedge.Text.Blank
import Straightedge.Text.Digit
import Straightedge.Text.Lines
import Straightedge.Text.Word

/-!
# Words, numbers and lines that survive printing

A word keeps clear of everything that would cut it: no word character is blank,
ends a line or opens a comment. A number is printed in ASCII digits, whatever
script it was read from, and the printed digits read back as the same number. A
printed number is never longer than the digits it was read from, so the limit on
digits that holds when a number is read still holds when it is read again.
-/

namespace Straightedge.Text

/-- All blank characters by their code points, line breaks included. -/
def blanks : List Nat :=
  List.range' 0x09 5 ++ List.range' 0x1C 5 ++ [0x85, 0xA0, 0x1680] ++ List.range' 0x2000 11 ++
    [0x2028, 0x2029, 0x202F, 0x205F, 0x3000]

theorem mem_blanks_of_isBlank {c : Char} (h : isBlank c = true) : c.toNat ∈ blanks := by
  simp only [isBlank, Bool.or_eq_true, Bool.and_eq_true, decide_eq_true_eq, beq_iff_eq] at h
  simp only [blanks, List.mem_append, List.mem_range'_1, List.mem_cons, List.not_mem_nil, or_false]
  omega

/-- A line break separates words as any other blank does. -/
theorem isBlank_of_isLineBreak {c : Char} (h : isLineBreak c = true) : isBlank c = true := by
  simp only [isLineBreak, Bool.or_eq_true, Bool.and_eq_true, decide_eq_true_eq, beq_iff_eq] at h
  simp only [isBlank, Bool.or_eq_true, Bool.and_eq_true, decide_eq_true_eq, beq_iff_eq]
  omega

private theorem isWord_of_mem_blanks : ∀ n ∈ blanks, isWord (Char.ofNat n) = false := by
  decide +kernel

theorem isBlank_of_isWord {c : Char} (h : isWord c = true) : isBlank c = false := by
  rw [Bool.eq_false_iff]
  intro blank
  have := isWord_of_mem_blanks c.toNat (mem_blanks_of_isBlank blank)
  rw [Char.ofNat_toNat, h] at this
  exact Bool.noConfusion this

theorem isLineBreak_of_isWord {c : Char} (h : isWord c = true) : isLineBreak c = false := by
  rw [Bool.eq_false_iff]
  intro broken
  have := isBlank_of_isLineBreak broken
  rw [isBlank_of_isWord h] at this
  exact Bool.noConfusion this

theorem ne_hash_of_isWord {c : Char} (h : isWord c = true) : c ≠ '#' := by
  rintro rfl
  exact absurd h (by decide)

/-- The text of a word: at least one character, and word characters only. -/
structure IsName (s : String) : Prop where
  nonempty : s.toList ≠ []
  word : ∀ c ∈ s.toList, isWord c = true

theorem IsName.unbroken {s : String} (h : IsName s) : ∀ c ∈ s.toList, isLineBreak c = false := by
  intro c member
  exact isLineBreak_of_isWord (h.word c member)

/-! ## Digits -/

theorem toNat_of_isDigit {c : Char} (h : c.isDigit = true) : 0x30 ≤ c.toNat ∧ c.toNat ≤ 0x39 := by
  simp only [Char.isDigit, Bool.and_eq_true, decide_eq_true_eq] at h
  exact ⟨UInt32.le_iff_toNat_le.mp h.1, UInt32.le_iff_toNat_le.mp h.2⟩

theorem isWord_of_isDigit {c : Char} (h : c.isDigit = true) : isWord c = true := by
  obtain ⟨low, high⟩ := toNat_of_isDigit h
  have ascii : c.toNat < 0x80 := by omega
  simp only [isWord, if_pos ascii, Bool.or_eq_true, Bool.and_eq_true, decide_eq_true_eq]
  exact .inl (.inl (.inl ⟨UInt32.le_iff_toNat_le.mpr low, UInt32.le_iff_toNat_le.mpr high⟩))

/-- The ASCII digits come first in the table. -/
theorem digitValue?_of_isDigit {c : Char} (h : c.isDigit = true) :
    digitValue? c = some (c.toNat - '0'.toNat) := by
  obtain ⟨low, high⟩ := toNat_of_isDigit h
  have first : zeros.find? (fun z => z ≤ c.toNat && c.toNat ≤ z + 9) = some 0x30 := by
    simp [zeros, low, high]
  rw [digitValue?, first]
  rfl

theorem isDigit_of_isDigit {c : Char} (h : c.isDigit = true) : isDigit c = true := by
  rw [isDigit, digitValue?_of_isDigit h]
  rfl

/-- Digits of any script stand for a number below the power of ten of their count. -/
theorem decimalValue_lt (cs : List Char) : decimalValue cs < 10 ^ cs.length := by
  induction cs using List.reverseRecOn with
  | nil => simp
  | append_singleton cs c ih =>
      have digit : (digitValue? c).getD 0 ≤ 9 := by
        cases h : digitValue? c with
        | none => simp
        | some d => exact digitValue?_le_nine h
      rw [decimalValue_concat, List.length_append, List.length_singleton, Nat.pow_succ]
      omega

/-- On ASCII digits the table gives the usual value. -/
theorem decimalValue_eq_ofDigitChars {cs : List Char} (h : ∀ c ∈ cs, c.isDigit = true) :
    decimalValue cs = Nat.ofDigitChars 10 cs 0 := by
  rw [decimalValue, Nat.ofDigitChars_eq_foldl]
  apply List.foldl_ext
  intro n c member
  rw [digitValue?_of_isDigit (h c member), Option.getD_some, Nat.mul_comm]

/-- The digits that a number is printed with. -/
def digitsOf (n : Nat) : List Char := Nat.toDigits 10 n

theorem isDigit_of_mem_digitsOf {n : Nat} {c : Char} (h : c ∈ digitsOf n) : c.isDigit = true :=
  Nat.isDigit_of_mem_toDigits (by decide) (by decide) h

/-- A printed number reads back as itself. -/
@[simp] theorem decimalValue_digitsOf (n : Nat) : decimalValue (digitsOf n) = n := by
  rw [decimalValue_eq_ofDigitChars fun _ => isDigit_of_mem_digitsOf]
  exact Nat.ofDigitChars_ten_toDigits

/-- A number read from digits is printed with at most as many. -/
theorem length_digitsOf_le {n limit : Nat} (positive : 0 < limit) (h : n < 10 ^ limit) :
    (digitsOf n).length ≤ limit :=
  (Nat.length_toDigits_le_iff (by decide) positive).mpr h

/-! ## Lines -/

/-- A character that is no break starts a line or continues the first one. -/
theorem lines_cons_of_unbroken {c : Char} {cs : List Char} (unbroken : isLineBreak c = false) :
    lines (c :: cs) =
      match lines cs with
      | [] => [[c]]
      | first :: rest => (c :: first) :: rest := by
  rw [lines]
  · rw [unbroken]
    rfl
  · rintro tail rfl
    exact absurd unbroken (by decide)

/-- A line that holds no break ends at the line feed after it. -/
theorem lines_append_newline {line : List Char} (rest : List Char)
    (h : ∀ c ∈ line, isLineBreak c = false) :
    lines (line ++ '\n' :: rest) = line :: lines rest := by
  induction line with
  | nil => simp [lines, isLineBreak]
  | cons c line ih =>
      rw [List.cons_append, lines_cons_of_unbroken (h c List.mem_cons_self),
        ih fun d member => h d (List.mem_cons_of_mem c member)]

end Straightedge.Text
