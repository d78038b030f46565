import Straightedge.CommandLine.Arguments
import Straightedge.CommandLine.FilePath
import Straightedge.Document.View
import Straightedge.Scene.Print
import Straightedge.Text.Utf8
import Straightedge.Trace.Traced

/-!
# Running the command line

The program reads one file: a document with fenced scenes, or a single scene if
the extension says so. Every scene gets a view; its entities are logged, and on
request a picture of each view is written into a directory. What happens is
worked out from the contents of the file alone, as a report of the log, the
printed lines, the pictures and the exit code.
-/

namespace Straightedge.CommandLine

/-- Why a run failed. -/
inductive Failure where
  | missingFile (path : String)
  | encoding (f : Text.Utf8.Fault)
  | refused (r : Refusal)
  | faulted (f : Fault)

/-- How a failure is worded. -/
def Failure.message : Failure → String
  | missingFile path => "[Errno 2] No such file or directory: " ++ Text.quote path
  | encoding f => f.message
  | refused r => r.message
  | faulted f => f.message

/-- What a run did. -/
structure Report where
  exitCode : Nat := 0
  failure : Option Failure := none
  log : Log := []
  printed : List String := []
  /-- The pictures to write, with their paths. -/
  pictures : List (FilePath × Artwork) := []

/-- The part that runs the command line. -/
def mainLogger : String := "geoscene.__main__"

/-- The part that finds scenes in documents. -/
def documentLogger : String := "geoscene.host"

/-- The extensions of files that hold a single scene. -/
def sceneExtensions : List String := [".geo", ".geometry", ".txt"]

/-- An error that ends a run, with the log written up to there. -/
abbrev Run := StateT Log (Except (Failure × Log))

/-- Write messages. -/
def write (entries : Log) : Run Unit := modify (· ++ entries)

/-- Write a message for the user. -/
def inform (logger message : String) : Run Unit := write [⟨.info, logger, message⟩]

/-- End the run. -/
def fail {α : Type} (f : Failure) : Run α := fun log => .error (f, log)

/-- The scenes that a file holds. -/
def scenes (path : FilePath) (text : String) : Run (List String) := do
  if sceneExtensions.contains path.extension.toLower then return [text]
  let bodies := Fence.bodiesOf Fence.sceneLanguage text
  inform documentLogger s!"Found {bodies.length} {Fence.sceneLanguage} block(s)"
  return bodies

/-- The text of a file, with all line breaks as line feeds. -/
def decode (path : FilePath) (content : Option (List Nat)) : Run String :=
  match content with
  | none => fail (.missingFile path.toText)
  | some bytes =>
    match Text.Utf8.decode bytes with
    | .ok cs => return String.ofList (Text.unifyNewlines cs)
    | .error f => fail (.encoding f)

/-- Open a view on a scene, with the log of its reading and its first frame. -/
def openView (request : Request) (source : String) : Run View := do
  let (result, log) := Trace.read request.strict source
  write log
  match result with
  | .error r => fail (.refused r)
  | .ok s =>
    let options : Options := { resolve := request.resolve }
    let a := Trace.frameArguments "MatplotlibSurface" s (some options) (some .default)
    match View.open? source request.strict (.switch 0) options .default with
    | .error (.refused r) => fail (.refused r)
    | .error (.faulted f) => do
      write (Trace.frame a (some f))
      fail (.faulted f)
    | .ok v => do
      write (Trace.frame a none)
      return v

/-- Open a view on each scene, the first of which has the given number. -/
def openViews (request : Request) (number : Nat) : List String → Run (List View)
  | [] => return []
  | source :: rest => do
    let v ← openView request source
    let s := v.controller.scene
    match s.print with
    | .error f => fail (.faulted f)
    | .ok text => inform mainLogger s!"Block {number}: {s.size} entities\n{text}"
    return v :: (← openViews request (number + 1) rest)

/-- The pictures of views: none unless a directory is given. -/
def pictures (request : Request) (path : FilePath) (views : List View) :
    List (FilePath × Artwork) :=
  match request.outputDir with
  | none => []
  | some dir =>
    if dir.isEmpty then []
    else
      views.zipIdx.map fun (v, i) =>
        ((FilePath.ofText dir).child s!"{path.stem}-{i}.png", v.controller.surface)

/-- The views on a file; none when it holds no scene. -/
def viewsOf (request : Request) (path : FilePath) (content : Option (List Nat)) :
    Run (Option (List View)) := do
  inform mainLogger s!"Reading geometry from {path.toText}"
  let text ← decode path content
  match ← scenes path text with
  | [] => do
    write [⟨.error, mainLogger, s!"No geometry blocks found in {path.toText}"⟩]
    return none
  | sources => some <$> openViews request 0 sources

/-- Run a request on the contents of its file; none stands for a file that is not there. -/
def Request.run (request : Request) (content : Option (List Nat)) : Report :=
  let path := FilePath.ofText request.path
  let rank := (Level.threshold? request.logLevel.toUpper).getD Level.info.rank
  match viewsOf request path content [] with
  | .error (failure, log) => { exitCode := 1, failure := some failure, log := log.above rank }
  | .ok (none, log) => { exitCode := 1, log := log.above rank }
  | .ok (some views, log) =>
    let pictures := pictures request path views
    { log := log.above rank, pictures,
      printed := pictures.zipIdx.map fun ((p, _), i) => s!"Block {i} written to {p.toText}" }

/-- Run the program on its arguments; `content` gives the bytes of a file, if it is there. -/
def run (args : List String) (content : String → Option (List Nat)) : Report :=
  match read args with
  | .run request => request.run (content request.path)
  | .misuse => { exitCode := 2 }
  | .help => {}

end Straightedge.CommandLine
