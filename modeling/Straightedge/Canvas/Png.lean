import Straightedge.Canvas.Artwork

/-!
# Blank pictures

A picture file in the PNG format that shows the bare background of a surface.
Turning outlines into pixels is the work of a plotting canvas and not done here,
so the picture has one colour: every pixel is the first entry of a palette, one
bit each, in rows that are stored without compression.
-/

namespace Straightedge.Png

/-- A number as four bytes, the highest first. -/
def word (n : UInt32) : List UInt8 :=
  [(n >>> 24).toUInt8, (n >>> 16).toUInt8, (n >>> 8).toUInt8, n.toUInt8]

/-- A number of at most two bytes, the lowest first. -/
def halfWord (n : Nat) : List UInt8 := [UInt8.ofNat n, UInt8.ofNat (n / 256)]

/-- One step of the cyclic redundancy check: take in a bit. -/
def crcBit (c : UInt32) : UInt32 :=
  if (c &&& 1) == 1 then (0xEDB88320 : UInt32) ^^^ (c >>> 1) else c >>> 1

/-- Take in a byte. -/
def crcByte (c : UInt32) (b : UInt8) : UInt32 := Nat.repeat crcBit 8 (c ^^^ b.toUInt32)

/-- The cyclic redundancy check of some bytes. -/
def crc (bytes : List UInt8) : UInt32 := (bytes.foldl crcByte 0xFFFFFFFF) ^^^ 0xFFFFFFFF

/-- The two sums of the Adler checksum after some bytes. -/
def adlerSums (bytes : List UInt8) : UInt32 × UInt32 :=
  bytes.foldl (fun (a, b) byte =>
    let a := (a + byte.toUInt32) % 65521
    (a, (b + a) % 65521)) (1, 0)

/-- The Adler checksum of some bytes. -/
def adler (bytes : List UInt8) : UInt32 :=
  let (a, b) := adlerSums bytes
  (b <<< 16) ||| a

/-- A chunk of a file: its length, its name, its bytes and their check. -/
def chunk (name : String) (bytes : List UInt8) : List UInt8 :=
  let body := name.toUTF8.toList ++ bytes
  word (UInt32.ofNat bytes.length) ++ body ++ word (crc body)

/-- A stored block of so many zero bytes. -/
def storedZeros (last : Bool) (n : Nat) : List UInt8 :=
  (if last then 1 else 0) :: halfWord n ++ halfWord (65535 - n) ++ List.replicate n 0

/-- So many zero bytes, stored in blocks of a fixed size and a last one of the rest. -/
def stored (n : Nat) : List UInt8 :=
  ((List.replicate (n / 65535) (storedZeros false 65535)).flatten ++ storedZeros true (n % 65535))

/-- A compressed stream that stores so many zero bytes. -/
def stream (n : Nat) : List UInt8 :=
  [0x78, 0x01] ++ stored n ++ word (adler (List.replicate n 0))

/-- The value of a hexadecimal digit. -/
def hexValue (c : Char) : Nat :=
  if c.isDigit then c.toNat - 48 else c.toLower.toNat - 87

/-- The red, green and blue of a colour given by six hexadecimal digits; black otherwise. -/
def colorBytes (color : String) : List UInt8 :=
  match color.toList with
  | ['#', a, b, c, d, e, f] =>
    [(a, b), (c, d), (e, f)].map fun (high, low) => UInt8.ofNat (hexValue high * 16 + hexValue low)
  | _ => [0, 0, 0]

/-- A picture of one colour. -/
def blank (width height : Nat) (color : String) : List UInt8 :=
  [0x89, 0x50, 0x4E, 0x47, 0x0D, 0x0A, 0x1A, 0x0A] ++
    chunk "IHDR" (word (UInt32.ofNat width) ++ word (UInt32.ofNat height) ++ [1, 3, 0, 0, 0]) ++
    chunk "PLTE" (colorBytes color) ++
    chunk "IDAT" (stream (height * ((width + 7) / 8 + 1))) ++
    chunk "IEND" []

/-- The picture of the background of a surface. -/
def ofArtwork (a : Artwork) : List UInt8 :=
  let side (n : Num) : Nat := (n.round.toOption.getD 0).toNat
  blank (side a.width) (side a.height) a.background

@[simp] theorem length_word (n : UInt32) : (word n).length = 4 := rfl

/-- A chunk is twelve bytes longer than what it holds, if its name has four. -/
theorem length_chunk (name : String) (bytes : List UInt8) (h : name.toUTF8.toList.length = 4) :
    (chunk name bytes).length = bytes.length + 12 := by
  simp only [chunk, List.length_append, length_word, h]
  omega

end Straightedge.Png
