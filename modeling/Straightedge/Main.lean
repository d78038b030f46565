import Straightedge.Canvas.Png
import Straightedge.CommandLine.Run

/-!
# The program

Reads the file that the command line names, runs the request on its contents and
carries out the report: log lines and failures go to the error stream, printed
lines to the output, and every picture to its file.
-/

namespace Straightedge.CommandLine

/-- How the program is called. -/
def usage : String :=
  "usage: straightedge [-h] [--log-level LOG_LEVEL] [--output-dir OUTPUT_DIR] [--show] " ++
    "[--strict] [--resolve-dependencies] path"

/-- The bytes of a file, if it is there. -/
def readContent (path : String) : IO (Option (List Nat)) := do
  try
    let bytes ← IO.FS.readBinFile path
    return some (bytes.toList.map UInt8.toNat)
  catch _ => return none

/-- Write a picture, with the directories above it. -/
def writePicture (path : FilePath) (a : Artwork) : IO Unit := do
  let directory : FilePath := { path with parts := path.parts.dropLast }
  IO.FS.createDirAll directory.toText
  IO.FS.writeBinFile path.toText ⟨(Png.ofArtwork a).toArray⟩

/-- Carry out a report. -/
def Report.carryOut (report : Report) : IO UInt32 := do
  for e in report.log do
    IO.eprintln s!"{e.level.name}:{e.logger}:{e.message}"
  for (path, a) in report.pictures do
    writePicture path a
  for line in report.printed do
    IO.println line
  if let some failure := report.failure then
    IO.eprintln failure.message
  return UInt32.ofNat report.exitCode

end Straightedge.CommandLine

open Straightedge.CommandLine in
/-- Run the program. -/
def main (args : List String) : IO UInt32 := do
  match read args with
  | .run request => (request.run (← readContent request.path)).carryOut
  | .misuse =>
    IO.eprintln usage
    return 2
  | .help =>
    IO.println usage
    return 0
