import TypeStubs.Log

/-!
# Where records go

Records from a level on are written to the console, and to a file if there is one.
-/

namespace TypeStubs

/-- Where records are written, and from which level on. -/
structure LogSetup where
  level : Level
  /-- Records go to a file as well. -/
  toFile : Bool := false
  deriving DecidableEq, Repr

namespace LogSetup

/-- The level for a verbosity; verbose wins over quiet. -/
def levelFor (verbose quiet : Bool) : Level :=
  if verbose then .debug else if quiet then .warning else .info

def ofVerbosity (verbose quiet toFile : Bool) : LogSetup := ⟨levelFor verbose quiet, toFile⟩

/-- The number of places to which a record is written. -/
def handlerCount (s : LogSetup) : Nat := if s.toFile then 2 else 1

def admits (s : LogSetup) (r : Record) : Bool := s.level.rank ≤ r.level.rank

/-- The line that stands for the trace of an error. -/
def traceLine : String := "<traceback>"

/-- A message with the trace of its error, which is written at the lowest level only. -/
def body (s : LogSetup) (r : Record) : String :=
  r.message ++ (if r.traced && s.level = .debug then "\n" ++ traceLine else "") ++ "\n"

def consoleText (s : LogSetup) (r : Record) : String :=
  if s.admits r then "[genstubs] " ++ r.level.name ++ " " ++ s.body r else ""

/-- A record in the file, without the time of its writing. -/
def fileText (s : LogSetup) (r : Record) : String :=
  if s.admits r then r.level.name ++ " " ++ r.logger ++ ": " ++ s.body r else ""

def console (s : LogSetup) (log : Array Record) : String :=
  String.join (log.toList.map s.consoleText)

def file (s : LogSetup) (log : Array Record) : String := String.join (log.toList.map s.fileText)

end LogSetup

/-- The record of an error that ended some work. -/
def Record.ofFailure (logger : Option String) (message cause : String) : Record where
  level := .error
  logger := loggerName logger
  message := message ++ ": " ++ cause
  traced := true

end TypeStubs
