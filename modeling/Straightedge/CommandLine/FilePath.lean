/-!
# File paths

Paths are kept as their parts between slashes, without empty parts and without
parts that stand for the directory itself. The extension of a name starts at its
last dot, unless that is its first or its last character.
-/

namespace Straightedge.CommandLine

/-- A path as its parts, and whether it starts at the root. -/
structure FilePath where
  absolute : Bool
  parts : List String
  deriving DecidableEq, Repr

namespace FilePath

/-- Read a path. -/
def ofText (text : String) : FilePath where
  absolute := text.toList.head? == some '/'
  parts := ((text.splitOn "/").filter fun p => p != "" && p != ".")

/-- Write a path. -/
def toText (p : FilePath) : String :=
  let body := String.intercalate "/" p.parts
  if p.absolute then "/" ++ body else if p.parts.isEmpty then "." else body

/-- A path inside a directory. -/
def child (p : FilePath) (name : String) : FilePath := { p with parts := p.parts ++ [name] }

/-- The last part of a path. -/
def name (p : FilePath) : String := p.parts.getLast?.getD ""

/-- The name without its extension, and the extension with its dot. -/
def splitName (p : FilePath) : String × String :=
  let cs := p.name.toList
  let extension := (cs.reverse.takeWhile (· != '.')).reverse
  let stem := cs.take (cs.length - extension.length - 1)
  if extension.isEmpty || stem.isEmpty || !cs.contains '.' then (p.name, "")
  else (String.ofList stem, String.ofList ('.' :: extension))

/-- The name without its extension. -/
def stem (p : FilePath) : String := p.splitName.1

/-- The extension of the name, with its dot. -/
def extension (p : FilePath) : String := p.splitName.2

end FilePath

end Straightedge.CommandLine
