import Straightedge.Text.Printable

/-!
# Quoted text

A quoted text stands between single quotes, or between double quotes when it
holds a single quote and no double one. Inside, the backslash and the quote in
use are escaped by a backslash, the usual three controls have short escapes,
and every other unprintable character is written by its code point in two,
four or eight hexadecimal digits.
-/

namespace Straightedge.Text

/-- The quote a text is put in. -/
def quoteFor (cs : List Char) : Char :=
  if cs.contains '\'' && !cs.contains '"' then '"' else '\''

/-- The last `width` hexadecimal digits of a number, in lower case. -/
def hexDigits : Nat → Nat → List Char
  | 0, _ => []
  | width + 1, n => hexDigits width (n / 16) ++ [Nat.digitChar (n % 16)]

@[simp] theorem length_hexDigits (width n : Nat) : (hexDigits width n).length = width := by
  induction width generalizing n with
  | zero => rfl
  | succ width ih => simp [hexDigits, ih]

/-- One character as it stands between the given quotes. -/
def escape (quote c : Char) : List Char :=
  if c == quote || c == '\\' then ['\\', c]
  else if c == '\n' then ['\\', 'n']
  else if c == '\t' then ['\\', 't']
  else if c == '\r' then ['\\', 'r']
  else if isPrintable c then [c]
  else if c.toNat < 0x100 then '\\' :: 'x' :: hexDigits 2 c.toNat
  else if c.toNat < 0x10000 then '\\' :: 'u' :: hexDigits 4 c.toNat
  else '\\' :: 'U' :: hexDigits 8 c.toNat

/-- A text in quotes. -/
def quoteChars (cs : List Char) : List Char :=
  let quote := quoteFor cs
  quote :: cs.flatMap (escape quote) ++ [quote]

/-- A string in quotes. -/
def quote (s : String) : String := String.ofList (quoteChars s.toList)

@[simp] theorem toList_quote (s : String) : (quote s).toList = quoteChars s.toList := by
  simp [quote]

/-- A quoted text is never shorter than the text and its two quotes. -/
theorem length_le_length_quoteChars (cs : List Char) :
    cs.length + 2 ≤ (quoteChars cs).length := by
  have one : ∀ q c, 1 ≤ (escape q c).length := by
    intro q c
    unfold escape
    repeat' split
    all_goals simp
  have all : ∀ q (ds : List Char), ds.length ≤ (ds.flatMap (escape q)).length := by
    intro q ds
    induction ds with
    | nil => simp
    | cons d ds ih =>
      have := one q d
      simp only [List.flatMap_cons, List.length_append, List.length_cons]
      omega
  have := all (quoteFor cs) cs
  simp only [quoteChars, List.length_append, List.length_cons, List.length_nil]
  omega

end Straightedge.Text
