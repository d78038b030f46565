/-!
# Reading UTF-8

Bytes are read as Unicode text, or refused at the first sequence that is no
shortest encoding of a character. The refusal tells where the sequence starts,
how many of its bytes were acceptable before it broke, and which of three
things went wrong; surrogates and code points above the last plane are broken
at their second byte.
-/

namespace Straightedge.Text.Utf8

/-- Why a byte sequence is no character. -/
inductive Cause where
  | startByte
  | continuationByte
  | endOfData
  deriving DecidableEq, Repr

/-- A byte sequence that is no character: its position, its first byte and its length. -/
structure Fault where
  position : Nat
  first : Nat
  length : Nat
  cause : Cause
  deriving DecidableEq, Repr

/-- How the cause is worded. -/
def Cause.message : Cause → String
  | .startByte => "invalid start byte"
  | .continuationByte => "invalid continuation byte"
  | .endOfData => "unexpected end of data"

/-- The report of a refusal: one byte is shown, several are located. -/
def Fault.message (f : Fault) : String :=
  let hex := String.ofList [Nat.digitChar (f.first / 16), Nat.digitChar (f.first % 16)]
  if f.length = 1 then
    s!"'utf-8' codec can't decode byte 0x{hex} in position {f.position}: {f.cause.message}"
  else
    s!"'utf-8' codec can't decode bytes in position {f.position}-{f.position + f.length - 1}: " ++
      f.cause.message

/-- How many bytes follow a first byte, and the range its second byte must lie in. -/
def follow? (first : Nat) : Option (Nat × Nat × Nat) :=
  if first < 0xC2 then none
  else if first < 0xE0 then some (1, 0x80, 0xBF)
  else if first < 0xF0 then
    some (2, if first = 0xE0 then 0xA0 else 0x80, if first = 0xED then 0x9F else 0xBF)
  else if first < 0xF5 then
    some (3, if first = 0xF0 then 0x90 else 0x80, if first = 0xF4 then 0x8F else 0xBF)
  else none

/-- Read `missing` more bytes of a character; `taken` of its bytes are read already and
the next one must lie between `lo` and `hi`. The rest comes with the code point. -/
def continue? (lo hi : Nat) : (missing taken code : Nat) → List Nat →
    Except (Cause × Nat) (Nat × List Nat)
  | 0, _, code, rest => .ok (code, rest)
  | _ + 1, taken, _, [] => .error (.endOfData, taken)
  | missing + 1, taken, code, byte :: rest =>
    if lo ≤ byte ∧ byte ≤ hi then
      continue? 0x80 0xBF missing (taken + 1) (code * 64 + (byte - 0x80)) rest
    else .error (.continuationByte, taken)

/-- The bits of the code point that a first byte holds when `missing` bytes follow it. -/
def leadBits (missing first : Nat) : Nat :=
  match missing with
  | 1 => first - 0xC0
  | 2 => first - 0xE0
  | _ => first - 0xF0

/-- Decode from a position on. The fuel is the number of bytes left. -/
def decodeFrom : (fuel position : Nat) → List Nat → Except Fault (List Char)
  | 0, _, _ => .ok []
  | _ + 1, _, [] => .ok []
  | fuel + 1, position, first :: rest =>
    if first < 0x80 then
      (Char.ofNat first :: ·) <$> decodeFrom fuel (position + 1) rest
    else
      match follow? first with
      | none => .error ⟨position, first, 1, .startByte⟩
      | some (missing, lo, hi) =>
        match continue? lo hi missing 1 (leadBits missing first) rest with
        | .error (cause, length) => .error ⟨position, first, length, cause⟩
        | .ok (code, rest) =>
          (Char.ofNat code :: ·) <$> decodeFrom fuel (position + missing + 1) rest

/-- The text that bytes encode. -/
def decode (bytes : List Nat) : Except Fault (List Char) :=
  decodeFrom bytes.length 0 bytes

end Straightedge.Text.Utf8
