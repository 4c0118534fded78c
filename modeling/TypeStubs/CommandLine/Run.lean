import TypeStubs.CommandLine.Reader
import TypeStubs.Log.Console
import TypeStubs.Project.Generation

/-!
# Running the program

The program reports on its two outputs and ends with an exit code. Faults that a user can mend end
it with a message; others end it as they are.
-/

namespace TypeStubs.CommandLine

/-- How the program ended. -/
structure Exit where
  /-- The exit code, unless the program simply came to its end. -/
  code : Option Nat := none
  output : String := ""
  errors : String := ""
  deriving DecidableEq, Repr

def line (s : String) : String := s ++ "\n"

def unlines (ss : List String) : String := String.join (ss.map line)

/-- The exit of a program that does not start. -/
def Refusal.exit : Refusal → Exit
  | help => { code := some 0 }
  | complaint program c => { code := some 2, errors := line (program ++ ": error: " ++ c.message) }

namespace Draft

def request (d : Draft) : Request where
  path := d.path
  modules := d.modules
  outputDirectory := d.outputDirectory
  check := d.check
  enabled := d.compilers

def logSetup (d : Draft) : LogSetup := .ofVerbosity d.verbose d.quiet false

end Draft

namespace Command

def name : Command → String
  | generate => "generate"
  | list => "list"
  | serve => "serve"

/-- The message with which a fault ends a command, if it does. -/
def faultText? (c : Command) (f : Fault) : Option String :=
  if f.family.isValue || f.family = .missingProject || f.family = .missingFile then
    some (line f.message)
  else if f.family = .settings || f.family = .generation then
    some (unlines ["genstubs " ++ c.name ++ " failed: " ++ f.message,
      "Run with --verbose for more details."])
  else none

end Command

/-- A path as it is shown: from the working directory if it is below it. -/
def shownPath (d : Disk) (p : Path) : String :=
  match Path.below? ⟨.root, d.workingDirectory⟩ p with
  | some parts => (Path.mk .relative parts).text
  | none => p.text

def failureLines (g : Generation) : List String :=
  g.failures.map fun f => "error: " ++ f.className ++ ": " ++ f.message

/-- The lines on what became of the files. -/
def outcomeLines (d : Disk) (g : Generation) : List String :=
  match g.outcome with
  | .written _ =>
    ["Generated " ++ toString g.files.length ++ " stub file(s) in " ++
      shownPath d g.outputDirectory]
  | .checked v =>
    if v.isUpToDate then ["Stubs in " ++ shownPath d g.outputDirectory ++ " are up to date"]
    else
      (v.stale ++ v.missing ++ v.obsolete).map (fun p => "out of date: " ++ shownPath d p) ++
        ["Run \x60genstubs generate\x60 to refresh the stubs."]

def report (d : Disk) (g : Generation) : Exit where
  code := if g.isClean then none else some 1
  output := unlines (outcomeLines d g)
  errors := unlines (failureLines g)

def candidateReport (pairs : List (String × String)) : Exit where
  output := unlines (pairs.map fun p => p.1 ++ "\t" ++ p.2)

variable {C : Type}

def Command.work (c : Command) (e : Environment C) (d : Draft) : DiskWork Exit := do
  match c with
  | .generate =>
    let g ← e.generate d.request
    return report (← DiskWork.disk) g
  | .list => return candidateReport (← e.listCandidates d.request)
  | .serve => return { code := some 1, errors := line Fault.noServer.message }

/-- Runs a command. Records stand on the console before the report. -/
def Command.run (c : Command) (e : Environment C) (d : Draft) (disk : Disk) :
    Except Fault Exit × Disk :=
  let (result, w) := (c.work e d).run.run ⟨disk, #[]⟩
  let records := d.logSetup.console w.log
  let exit := match result with
    | .ok x => .ok { x with errors := records ++ x.errors }
    | .error f =>
      match c.faultText? f with
      | some text => .ok { code := some 1, errors := records ++ text }
      | none => .error f
  (exit, w.disk)

def run (e : Environment C) (words : List String) (disk : Disk) : Except Fault Exit × Disk :=
  match read words with
  | .error refusal => (.ok refusal.exit, disk)
  | .ok (command, draft) => command.run e draft disk

end TypeStubs.CommandLine
