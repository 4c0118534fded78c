import TypeStubs.Fault

/-!
# Log records

Work that may fail carries a log: what was logged before a fault stays logged.
-/

namespace TypeStubs

/-- The weight of a record. -/
inductive Level where
  | debug
  | info
  | warning
  | error
  | critical
  deriving DecidableEq, Repr

namespace Level

def name : Level → String
  | debug => "DEBUG"
  | info => "INFO"
  | warning => "WARNING"
  | error => "ERROR"
  | critical => "CRITICAL"

/-- Levels as numbers, from the lightest on. -/
def rank : Level → Nat
  | debug => 10
  | info => 20
  | warning => 30
  | error => 40
  | critical => 50

end Level

/-- One logged message. -/
structure Record where
  level : Level
  logger : String
  message : String
  /-- The record comes with the trace of an error. -/
  traced : Bool := false
  deriving DecidableEq, Repr

/-- The name of the logger from which all others descend. -/
def mainLogger : String := "genstubs"

/-- The full name of a logger; no name or an empty one means the main logger. -/
def loggerName (name : Option String) : String :=
  match name with
  | none => mainLogger
  | some n => if n.isEmpty then mainLogger else mainLogger ++ "." ++ n

abbrev Logged := StateM (Array Record)

/-- Work with a log that may fail. -/
abbrev Attempt := ExceptT Fault Logged

def note (level : Level) (logger message : String) : Logged Unit :=
  modify (·.push { level, logger := loggerName (some logger), message })

/-- What reading something gives, and what is logged on the way. It does not depend on what was
logged before. -/
structure Reading (α : Type) where
  outcome : Except Fault α
  log : List Record

namespace Reading

variable {α : Type}

/-- A reading that logs nothing. -/
def ofExcept (r : Except Fault α) : Reading α := ⟨r, []⟩

instance : Monad Reading where
  pure a := ofExcept (.ok a)
  bind x f :=
    match x.outcome with
    | .error e => ⟨.error e, x.log⟩
    | .ok a => ⟨(f a).outcome, x.log ++ (f a).log⟩

def note (level : Level) (logger message : String) : Reading Unit :=
  ⟨.ok (), [{ level, logger := loggerName (some logger), message }]⟩

/-- A reading whose faults are told in another way. -/
def mapFault (f : Fault → Fault) (x : Reading α) : Reading α := ⟨x.outcome.mapError f, x.log⟩

end Reading

namespace Attempt

variable {α : Type}

def perform (a : Attempt α) (log : Array Record) : Except Fault α × Array Record := a.run.run log

/-- The outcome of an attempt as a value. -/
def caught (a : Attempt α) : Attempt (Except Fault α) := ExceptT.mk (Except.ok <$> a.run)

/-- An attempt that logs nothing. -/
def ofExcept (r : Except Fault α) : Attempt α := ExceptT.mk (pure r)

def ofReading (x : Reading α) : Attempt α := do
  modify fun (log : Array Record) => log ++ x.log
  ofExcept x.outcome

end Attempt

end TypeStubs
