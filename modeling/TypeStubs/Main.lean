import TypeStubs.CommandLine.Run
import TypeStubs.Registry.Live
import TypeStubs.Scaffold.BuiltIn
import TypeStubs.Text.CharacterName
import TypeStubs.Yaml.Data

/-!
# The program

The part of the file system that a command may touch is read into a disk, the command is run on
it, and what it changed is written back.
-/

namespace TypeStubs.CommandLine

/-- What is at a location of the file system. -/
def probe (l : Location) : IO (Option Entry) := do
  let place := (← IO.currentDir) / (Path.mk .root l).text
  if ← place.isDir then return some .directory
  else if ← place.pathExists then
    return some (.file (← IO.FS.readBinFile place).toList)
  else return none

/-- The locations on the way to a location, itself included, without the root. -/
def way (l : Location) : List Location := (List.range l.length).map fun i => l.take (i + 1)

def probeAll (ls : List Location) : IO (List (Location × Entry)) := do
  let found ← ls.eraseDups.mapM fun l => do return (l, ← probe l)
  return found.filterMap fun p => p.2.map fun e => (p.1, e)

/-- Everything below a directory of the file system. -/
partial def walk (l : Location) : IO (List (Location × Entry)) := do
  let place := (← IO.currentDir) / (Path.mk .root l).text
  if ← place.isDir then
    let names := (← place.readDir).toList.map fun e => l ++ [e.fileName]
    let here ← probeAll names
    return here ++ (← names.mapM walk).flatten
  else return []

/-- A disk without entries. -/
def emptyDisk : IO Disk := do
  let here := Path.ofText (← IO.currentDir).toString
  let home := (← IO.getEnv "HOME").getD "/root"
  return ⟨[], here.parts, (Path.ofText home).parts⟩

def addEntries (d : Disk) (entries : List (Location × Entry)) : Disk :=
  entries.foldl (fun d p => d.put p.1 p.2) d

/-- The locations that are looked at before the settings are known. -/
def settingsPlaces (d : Disk) (draft : Draft) : List Location :=
  match d.expandHome (Path.ofText draft.path) with
  | .ok p =>
    let l := (d.resolve p).parts
    way (l ++ [Settings.fileName]) ++ way (l.dropLast ++ [Settings.fileName])
  | .error _ => []

/-- The output directory of a command, if the settings can be read. -/
def outputPlace? (d : Disk) (draft : Draft) : Option Location :=
  let found : Except Fault Path := do
    let settings ← d.settings Yaml.load (d.resolve (← d.expandHome (Path.ofText draft.path)))
    Environment.outputOf settings draft.request d
  match found with
  | .ok p => some (d.resolve p).parts
  | .error _ => none

/-- Reads what a command may touch. -/
def loadDisk (draft : Draft) : IO Disk := do
  let d ← emptyDisk
  let d := addEntries d (← probeAll (way d.workingDirectory ++ settingsPlaces d draft))
  match outputPlace? d draft with
  | none => return d
  | some l => return addEntries (addEntries d (← probeAll (way l))) (← walk l)

/-- Writes one entry that is new or has changed. -/
def storeEntry (l : Location) (e : Entry) : IO Unit := do
  let place := (← IO.currentDir) / (Path.mk .root l).text
  match e with
  | .directory => IO.FS.createDirAll place
  | .file bytes => IO.FS.writeBinFile place ⟨bytes.toArray⟩
  | .device => return ()

def dropEntry (l : Location) (e : Entry) : IO Unit := do
  let place := (← IO.currentDir) / (Path.mk .root l).text
  match e with
  | .directory => IO.FS.removeDirAll place
  | _ => if ← place.pathExists then IO.FS.removeFile place

/-- Writes what a command has changed. -/
def storeDisk (before after : Disk) : IO Unit := do
  for (l, e) in after.entries do
    if before.entries.lookup l != some e then storeEntry l e
  for (l, e) in before.entries do
    if (after.entries.lookup l).isNone then dropEntry l e

/-- The environment of the program: the built-in generators and no plugins. -/
def standardEnvironment : Environment Nat where
  reflection := Live.reflection Scaffold.builtIn .standard
  plugins := []
  modules := .withModules []
  load := Yaml.load
  compile := Pattern.compile Text.basicCode?

/-- Prints what a program has to say and gives its exit code. -/
def finish (result : Except Fault Exit) : IO UInt32 := do
  match result with
  | .ok x =>
    IO.print x.output
    IO.eprint x.errors
    return (x.code.getD 0).toUInt32
  | .error f =>
    IO.eprintln f.message
    return 1

end TypeStubs.CommandLine

open TypeStubs TypeStubs.CommandLine

/-- Runs the program with the words of a command line. -/
def main (words : List String) : IO UInt32 := do
  match CommandLine.read words with
  | .error refusal => finish (.ok refusal.exit)
  | .ok (command, draft) =>
    let disk ← loadDisk draft
    let (result, after) := command.run standardEnvironment draft disk
    storeDisk disk after
    finish result
