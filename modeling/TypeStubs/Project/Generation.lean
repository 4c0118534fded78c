import TypeStubs.Compiler.Plugin
import TypeStubs.Disk.StubDirectory
import TypeStubs.Project.Module
import TypeStubs.Project.Settings

/-!
# Generation

A run reads the settings of a project, imports its modules, lets the compilers build the tree, and
either writes the rendered stubs or compares them with those on disk.
-/

namespace TypeStubs

/-- What a run works with besides the disk. -/
structure Environment (C : Type) where
  reflection : Reflection C
  plugins : List (Plugin C)
  modules : ModuleTable
  /-- The reader of settings texts. -/
  load : Loader
  compile : PatternCompiler
  /-- The compilers to run in place of those found by name. -/
  compilers : Option (List (Compiler C)) := none

/-- What is asked of a run. -/
structure Request where
  path : String := "."
  modules : List String := []
  outputDirectory : Option String := none
  /-- Compare with what is on disk and write nothing. -/
  check : Bool := false
  /-- The names of the compilers to run, where none means those of the settings. -/
  enabled : List String := []

/-- What became of the files. -/
inductive Outcome where
  | written (w : Written)
  | checked (v : Verified)

/-- The result of a run. -/
structure Generation where
  outputDirectory : Path
  files : Files
  failures : List Failure
  outcome : Outcome

def Generation.isClean (g : Generation) : Bool :=
  g.failures.isEmpty &&
    match g.outcome with
    | .written _ => true
    | .checked v => v.isUpToDate

def noteRun (level : Level) (message : String) : DiskWork Unit :=
  DiskWork.note level runLogger message

/-- A list without the later of equal items. -/
def withoutRepeats (names : List String) : List String :=
  names.foldl (fun done n => if done.contains n then done else done ++ [n]) []

def importModules (t : ModuleTable) (names : List String) : DiskWork Unit := do
  if names.isEmpty then
    noteRun .debug "No modules requested; inspecting already-loaded classes only"
  for name in names do
    noteRun .debug ("Importing " ++ name)
    DiskWork.reads fun _ => t.importModule name

namespace Environment

variable {C : Type} (e : Environment C)

/-- Reads the settings of a project and imports its modules. -/
def prepare (request : Request) : DiskWork Settings := do
  let root ← DiskWork.reads fun d => do
    return d.resolve (← d.expandHome (Path.ofText request.path))
  if !(← DiskWork.reads (·.exists? root)) then throw (.noProject root.text)
  let settings ← DiskWork.reads (·.settings e.load root)
  importModules e.modules (withoutRepeats (settings.modules ++ request.modules))
  return settings

/-- The names of the compilers to run, if they are limited at all. -/
def enabledNames (settings : Settings) (request : Request) : Option (List String) :=
  if !request.enabled.isEmpty then some request.enabled
  else if !settings.enabled.isEmpty then some settings.enabled
  else none

def builtIn (settings : Settings) : Except Fault GeneratorCompiler :=
  GeneratorCompiler.ofSettings e.compile settings.rootClass settings.builtinNamespaces

def select (settings : Settings) (request : Request) : Except Fault (List (Compiler C)) :=
  match e.compilers with
  | some ks => .ok ks
  | none =>
    (Compiler.discover (e.builtIn settings) e.plugins (enabledNames settings request)).map
      fun found => found.map Prod.snd

/-- The directory into which a run writes. -/
def outputOf (settings : Settings) (request : Request) (d : Disk) : Except Fault Path :=
  match request.outputDirectory with
  | none => .ok settings.output
  | some s => (d.expandHome (Path.ofText s)).map settings.root.join

/-- Logs how the files on disk differ. -/
def noteDifferences (v : Verified) : DiskWork Unit := do
  for p in v.stale do
    noteRun .warning ("Stub out of date: " ++ p.text)
    noteRun .debug ((v.diffs.lookup p).getD "")
  for p in v.missing do noteRun .warning ("Stub missing: " ++ p.text)
  for p in v.obsolete do noteRun .warning ("Stub no longer generated: " ++ p.text)

def writtenReport (w : Written) (directory : Path) : String :=
  "Wrote " ++ toString w.written.length ++ " stub file(s), removed " ++ toString w.removed.length ++
    ", " ++ toString w.unchanged.length ++ " unchanged in " ++ directory.text

/-- Compares the files with those on disk, or writes them. -/
def settle (check : Bool) (directory : Path) (files : Files) : DiskWork Outcome := do
  if check then
    let v ← DiskWork.reads fun d => StubDirectory.verify d directory files
    noteDifferences v
    return .checked v
  else
    let w ← StubDirectory.write directory files
    noteRun .info (writtenReport w directory)
    return .written w

def generate (request : Request) : DiskWork Generation := do
  let settings ← e.prepare request
  let directory ← DiskWork.reads (outputOf settings request)
  let compilers ← DiskWork.reads fun _ => e.select settings request
  let built ← DiskWork.ofAttempt
    (BoundCompiler.build (Compiler.bound e.reflection compilers))
  let files ← DiskWork.ofAttempt built.tree.render
  noteRun .debug ("Rendered " ++ toString files.length ++ " stub file(s)")
  let outcome ← settle request.check directory files
  return ⟨directory, files, built.failures, outcome⟩

/-- The candidates of one compiler, each with the name of the compiler. -/
def candidatesOf (k : Compiler C) : DiskWork (List (String × String)) := do
  let cs ← DiskWork.ofAttempt (k.candidates e.reflection)
  return cs.map fun c => (k.title, e.reflection.described c)

def listCandidates (request : Request) : DiskWork (List (String × String)) := do
  let settings ← e.prepare request
  let compilers ← DiskWork.reads fun _ => e.select settings request
  return (← compilers.mapM e.candidatesOf).flatten

end Environment

end TypeStubs
