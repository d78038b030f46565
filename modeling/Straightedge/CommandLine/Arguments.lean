import Straightedge.Text.Digit

/-!
# Command line arguments

One argument is the file to read; all others are options. A long option may be
shortened as long as no other option starts the same way, and its value may
follow it directly after an equals sign. What looks like a negative number or
holds a space is never an option. After `--` nothing is an option either; the
mark itself must stand next to the file.
-/

namespace Straightedge.CommandLine

/-- What the command line asks for. -/
structure Request where
  path : String
  logLevel : String := "INFO"
  outputDir : Option String := none
  interactive : Bool := false
  strict : Bool := false
  resolve : Bool := false
  deriving DecidableEq, Repr

/-- The options. -/
inductive Flag where
  | help
  | logLevel
  | outputDir
  | showWindows
  | strict
  | resolve
  deriving DecidableEq, Repr

/-- The spellings of the options. -/
def spellings : List (List Char × Flag) :=
  [("-h".toList, .help), ("--help".toList, .help), ("--log-level".toList, .logLevel),
    ("--output-dir".toList, .outputDir), ("--show".toList, .showWindows),
    ("--strict".toList, .strict), ("--resolve-dependencies".toList, .resolve)]

/-- Whether an option takes a value. -/
def Flag.takesValue : Flag → Bool
  | logLevel | outputDir => true
  | _ => false

/-- What a single argument can be. -/
inductive Word where
  | plain (text : String)
  /-- An option, with the value that follows it after an equals sign, if any. -/
  | option (flag : Flag) (value : Option String)
  /-- The short option, with more letters right behind it. -/
  | letters (more : List Char)
  /-- Something that looks like an option and is none. -/
  | unknown
  /-- The start of several options. -/
  | ambiguous
  deriving DecidableEq, Repr

/-- Whether a text reads as a negative number; a line feed at its end does not count. -/
def isNegativeNumber (cs : List Char) : Bool :=
  let cs := if cs.getLast? == some '\n' then cs.dropLast else cs
  match cs with
  | '-' :: rest =>
    let whole := rest.takeWhile Text.isDigit
    match rest.dropWhile Text.isDigit with
    | [] => !whole.isEmpty
    | '.' :: fraction => !fraction.isEmpty && fraction.all Text.isDigit
    | _ => false
  | _ => false

/-- A text cut at its first equals sign, if it has one. -/
def splitValue (cs : List Char) : List Char × Option String :=
  match cs.dropWhile (· != '=') with
  | _ :: value => (cs.takeWhile (· != '='), some (String.ofList value))
  | [] => (cs, none)

/-- The options that a text may be short for. -/
def candidates (start : List Char) : List Flag :=
  (spellings.filter fun s => start.isPrefixOf s.1).map (·.2)

/-- An argument that starts with a dash and is no option in full. -/
def Word.ofStart (cs : List Char) : Word :=
  match cs with
  | '-' :: 'h' :: more => .letters more
  | _ =>
    let (start, value) := splitValue cs
    match if "--".toList.isPrefixOf cs then candidates start else [] with
    | [flag] => .option flag value
    | _ :: _ :: _ => .ambiguous
    | [] =>
      if isNegativeNumber cs || cs.contains ' ' then .plain (String.ofList cs) else .unknown

/-- What an argument is. -/
def Word.ofText (text : String) : Word :=
  let cs := text.toList
  let (name, value) := splitValue cs
  if cs.head? != some '-' || cs.length = 1 then .plain text
  else if let some flag := List.lookup cs spellings then .option flag none
  else if let (some flag, some value) := (List.lookup name spellings, value) then
    .option flag (some value)
  else .ofStart cs

/-- What the arguments amount to. -/
inductive Reading where
  | run (request : Request)
  /-- The arguments make no sense. -/
  | misuse
  /-- Only an explanation is asked for. -/
  | help
  deriving DecidableEq, Repr

/-- What has been read so far: the file, once it was given, and whether something was left
over that nobody asked for. -/
structure Draft where
  path : Option String := none
  extra : Bool := false
  request : Request := { path := "" }

namespace Draft

/-- Take a plain argument: the first is the file, every other one is left over. -/
def plain (d : Draft) (text : String) : Draft :=
  if d.path.isNone then { d with path := some text } else { d with extra := true }

/-- Set an option with a value. -/
def setValue (d : Draft) (flag : Flag) (value : String) : Draft :=
  match flag with
  | .logLevel => { d with request := { d.request with logLevel := value } }
  | .outputDir => { d with request := { d.request with outputDir := some value } }
  | _ => d

/-- Set an option without a value. -/
def setFlag (d : Draft) (flag : Flag) : Draft :=
  match flag with
  | .showWindows => { d with request := { d.request with interactive := true } }
  | .strict => { d with request := { d.request with strict := true } }
  | .resolve => { d with request := { d.request with resolve := true } }
  | _ => d

/-- The request, if the file was given and nothing is left over. -/
def finish (d : Draft) : Reading :=
  match d.path, d.extra with
  | some path, false => .run { d.request with path }
  | _, _ => .misuse

/-- Whether letters behind the short option leave it what it is: a dash, or an equals sign
behind a repetition, makes no sense there. -/
def areHelp : List Char → Bool
  | '-' :: _ => false
  | 'h' :: '=' :: _ => false
  | 'h' :: more => areHelp more
  | _ => true

/-- Read what follows the mark that ends options. -/
def readPlain (d : Draft) (args : List String) : Reading := (args.foldl plain d).finish

/-- Read arguments from the left. -/
def read (d : Draft) : List String → Reading
  | [] => d.finish
  | "--" :: rest => if d.path.isSome then .misuse else d.readPlain rest
  | arg :: rest =>
    match Word.ofText arg, rest with
    | .plain text, "--" :: rest =>
      if d.path.isSome then .misuse else (d.plain text).readPlain rest
    | .plain text, rest => (d.plain text).read rest
    | .unknown, rest => { d with extra := true : Draft }.read rest
    | .ambiguous, _ => .misuse
    | .letters more, _ => if areHelp more then .help else .misuse
    | .option .help none, _ => .help
    | .option flag (some value), rest =>
      if flag.takesValue then (d.setValue flag value).read rest else .misuse
    | .option flag none, value :: rest =>
      if !flag.takesValue then (d.setFlag flag).read (value :: rest)
      else
        match Word.ofText value with
        | .plain _ => (d.setValue flag value).read rest
        | _ => .misuse
    | .option flag none, [] => if flag.takesValue then .misuse else (d.setFlag flag).finish

end Draft

/-- Whether an argument is the start of several options, up to the mark that ends options. -/
def isAmbiguous (args : List String) : Bool :=
  (args.takeWhile (· != "--")).any fun a => Word.ofText a == .ambiguous

/-- Read the command line. -/
def read (args : List String) : Reading :=
  if isAmbiguous args then .misuse else ({} : Draft).read args

end Straightedge.CommandLine
