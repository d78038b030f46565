import Straightedge.Trace.Abbreviation

/-!
# Logs and traced calls

A log is a list of messages, each with a level and the name of the part that
wrote it. A traced call writes one message when it is entered, with its
arguments, and one when it returns, with its result unless that is withheld; a
call that fails writes the first message only.
-/

namespace Straightedge

/-- How serious a message is. -/
inductive Level where
  | debug
  | info
  | warning
  | error
  | critical
  deriving DecidableEq, Repr

namespace Level

/-- The name of a level. -/
def name : Level → String
  | debug => "DEBUG"
  | info => "INFO"
  | warning => "WARNING"
  | error => "ERROR"
  | critical => "CRITICAL"

/-- The rank of a level. -/
def rank : Level → Nat
  | debug => 10
  | info => 20
  | warning => 30
  | error => 40
  | critical => 50

/-- The least rank that a named threshold lets through. -/
def threshold? : String → Option Nat
  | "NOTSET" => some 0
  | "DEBUG" => some debug.rank
  | "INFO" => some info.rank
  | "WARNING" | "WARN" => some warning.rank
  | "ERROR" => some error.rank
  | "CRITICAL" | "FATAL" => some critical.rank
  | _ => none

end Level

/-- A message of a log. -/
structure LogEntry where
  level : Level
  logger : String
  message : String
  deriving DecidableEq, Repr

/-- Messages in the order in which they were written. -/
abbrev Log := List LogEntry

namespace Log

/-- The messages that a threshold lets through. -/
def above (threshold : Nat) (log : Log) : Log := log.filter fun e => threshold ≤ e.level.rank

/-- A message of the finest level. -/
def debug (logger message : String) : LogEntry := ⟨.debug, logger, message⟩

end Log

namespace Trace

/-- The arguments of a call: those by position and those by name. -/
structure Arguments where
  positional : List Value := []
  named : List (String × Value) := []

/-- What a trace shows of arguments. -/
def Arguments.describe (a : Arguments) : String :=
  let positional := a.positional.map (Abbreviation.ofValue {})
  let named := a.named.map fun (name, v) => name ++ "=" ++ Abbreviation.ofValue {} v
  let parts :=
    (if positional.isEmpty then [] else ["args=[" ++ Value.commas positional ++ "]"]) ++
    (if named.isEmpty then [] else ["kwargs=\x7b" ++ Value.commas named ++ "\x7d"])
  if parts.isEmpty then "no-args" else Value.commas parts

/-- The message of a call that is entered. -/
def entering (logger name : String) (a : Arguments) : LogEntry :=
  Log.debug logger s!"Entering {name} ({a.describe})"

/-- The message of a call that returns; the result is shown unless it is withheld. -/
def exiting (logger name : String) (result : Option Value) : LogEntry :=
  Log.debug logger <|
    "Exiting " ++ name ++ (result.elim "" fun v => " -> " ++ Abbreviation.ofValue {} v)

/-- The log of a call that writes `inner` on its way; without an outcome it failed. -/
def call (logger name : String) (a : Arguments) (inner : Log) (outcome : Option (Option Value)) :
    Log :=
  entering logger name a :: inner ++
    match outcome with
    | some result => [exiting logger name result]
    | none => []

end Trace

end Straightedge
