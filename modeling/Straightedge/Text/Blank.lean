/-!
# Blank characters

White space is the set of 29 Unicode characters that separate words: the six
space controls of ASCII, the four information separators, the plain space, and
the spaces and separators beyond ASCII. A line made of blanks only declares
nothing, and blanks at the end of a line are not shown when it is quoted.
-/

namespace Straightedge.Text

/-- White space of Unicode, controls and information separators included. -/
def isBlank (c : Char) : Bool :=
  let n := c.toNat
  (0x09 ≤ n && n ≤ 0x0D) || (0x1C ≤ n && n ≤ 0x20) || n == 0x85 || n == 0xA0 || n == 0x1680 ||
    (0x2000 ≤ n && n ≤ 0x200A) || n == 0x2028 || n == 0x2029 || n == 0x202F || n == 0x205F ||
    n == 0x3000

@[simp] theorem isBlank_space : isBlank ' ' = true := by decide

/-- Drop the blanks a text starts with. -/
def trimStart (cs : List Char) : List Char := cs.dropWhile isBlank

/-- Drop the blanks a text ends with. -/
def trimEnd : List Char → List Char
  | [] => []
  | c :: cs =>
    match trimEnd cs with
    | [] => if isBlank c then [] else [c]
    | d :: ds => c :: d :: ds

@[simp] theorem trimEnd_nil : trimEnd [] = [] := rfl

/-- Trimming leaves nothing exactly when every character is blank. -/
theorem trimEnd_eq_nil_iff (cs : List Char) : trimEnd cs = [] ↔ cs.all isBlank := by
  induction cs with
  | nil => simp
  | cons c cs ih =>
    rw [trimEnd]
    split <;> simp_all

end Straightedge.Text
