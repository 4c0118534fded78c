import TypeStubs.Diff.Unified
import TypeStubs.Disk.Basic
import TypeStubs.Render

/-!
# Directories of generated stubs

A directory holds generated files, which begin with the header, among files of other origin. Only
generated files are ever taken away, and with them directories that become empty.
-/

namespace TypeStubs

/-- A disk with a log of what was done. -/
structure Workspace where
  disk : Disk
  log : Array Record

/-- Work on a disk that may fail. What was done before a fault stays done. -/
abbrev DiskWork := ExceptT Fault (StateM Workspace)

namespace DiskWork

def disk : DiskWork Disk := return (← get).disk

def reads {α : Type} (f : Disk → Except Fault α) : DiskWork α := do
  ExceptT.mk (pure (f (← get).disk))

def writes (f : Disk → Except Fault Disk) : DiskWork Unit := do
  let d ← reads f
  modify fun w => { w with disk := d }

/-- Changes the disk as far as the change comes. -/
def alters (f : Disk → Except Fault Unit × Disk) : DiskWork Unit := do
  let (r, d) := f (← get).disk
  modify fun w => { w with disk := d }
  ExceptT.mk (pure r)

def note (level : Level) (logger message : String) : DiskWork Unit :=
  modify fun w => { w with
    log := w.log.push { level, logger := loggerName (some logger), message } }

def ofAttempt {α : Type} (a : Attempt α) : DiskWork α := do
  let w ← get
  let (r, log) := a.run.run w.log
  set { w with log }
  ExceptT.mk (pure r)

end DiskWork

/-- What was done to the files of a directory. -/
structure Written where
  written : List Path
  removed : List Path
  unchanged : List Path
  deriving Repr

/-- How the files of a directory differ from what is generated. -/
structure Verified where
  stale : List Path
  missing : List Path
  obsolete : List Path
  diffs : List (Path × String)
  deriving Repr

namespace Verified

def isUpToDate (v : Verified) : Bool := v.stale.isEmpty && v.missing.isEmpty && v.obsolete.isEmpty

end Verified

namespace StubDirectory

def logger : String := "stubs.writer"

/-- The number of bytes in which the end of the first line has to come up. -/
def firstRead : Nat := 8192

/-- The first line of a file, if the file can be read so far. -/
def firstLine? (bytes : List UInt8) : Option (List Char) :=
  let isWhole := bytes.length ≤ firstRead
  let start := bytes.take firstRead
  match Text.Utf8.decodeStart start with
  | .error _ => none
  | .ok cs =>
    let cs := Text.unifyNewlines cs
    if cs.contains '\n' then some (cs.takeWhile (· != '\n'))
    else if isWhole && (Text.Utf8.decodeAll start).isOk then some cs
    else none

def isGenerated (bytes : List UInt8) : Bool := firstLine? bytes == some header.toList

/-- Does the name of a file end as those of stub files do? -/
def isStubName (names : Location) : Bool :=
  match names.getLast? with
  | some name => stubSuffix.toList.isSuffixOf name.toList
  | none => false

/-- The generated files below a directory in the order of their paths. -/
def generatedFiles (d : Disk) (dir : Path) : Except Fault (List Path) := do
  if !(← d.isDirectory dir) then return []
  let l ← d.locate dir
  let found := (d.below l).filterMap fun (names, e) =>
    match e with
    | .file bytes =>
      if isStubName names && isGenerated bytes then some { dir with parts := dir.parts ++ names }
      else none
    | _ => none
  return found.mergeSort Path.le

def target (dir relative : Path) : Path := dir.join relative

/-- Takes away a directory and those above it for as long as they are empty and below the root;
`fuel` is at least the depth. -/
def prune (root : Path) : Nat → Path → DiskWork Unit
  | 0, _ => return
  | fuel + 1, current => do
    match Path.below? root ((← DiskWork.disk).resolve current) with
    | none | some [] => return
    | some _ =>
      let names ← DiskWork.reads fun d => return d.children (← d.locate current)
      if names.isEmpty then
        DiskWork.writes (·.removeDirectory current)
        prune root fuel current.parent

/-- Puts one file in place unless it is there with the same text. The flag says whether it was
written. -/
def place (dir : Path) (file : Path × String) : DiskWork Bool := do
  let path := target dir file.1
  let there ← DiskWork.reads (·.exists? path)
  let same ←
    if there then do
      let text ← DiskWork.reads (·.readText path)
      pure (text == file.2)
    else pure false
  if same then return false
  else
    DiskWork.alters (·.makeDirectories path.parent)
    DiskWork.writes (·.writeText path file.2)
    DiskWork.note .debug logger ("Wrote " ++ path.text)
    return true

/-- Takes away one file with the directories that become empty. -/
def discard (dir path : Path) : DiskWork Unit := do
  DiskWork.writes (·.removeFile path)
  DiskWork.note .debug logger ("Removed obsolete stub " ++ path.text)
  prune ((← DiskWork.disk).resolve dir) path.parts.length path.parent

/-- Puts one file in place and notes what was done. -/
def placeNoting (dir : Path) (done : Written) (file : Path × String) : DiskWork Written := do
  let path := target dir file.1
  if ← place dir file then return { done with written := done.written ++ [path] }
  else return { done with unchanged := done.unchanged ++ [path] }

def discardNoting (dir : Path) (done : Written) (path : Path) : DiskWork Written := do
  discard dir path
  return { done with removed := done.removed ++ [path] }

def targets (dir : Path) (files : Files) : List Path := files.map fun f => target dir f.1

/-- Generated files that are none of the given ones. -/
def obsolete (d : Disk) (dir : Path) (files : Files) : Except Fault (List Path) :=
  (generatedFiles d dir).map fun found => found.filter fun p => !(targets dir files).contains p

/-- Puts all files in place, then takes away generated files that are none of them. -/
def write (dir : Path) (files : Files) : DiskWork Written := do
  let done ← (Files.sorted files).foldlM (placeNoting dir) ⟨[], [], []⟩
  let old ← DiskWork.reads (obsolete · dir files)
  old.foldlM (discardNoting dir) done

/-- The difference between the text on disk and the one generated. -/
def difference (relative : Path) (current text : String) : String :=
  Diff.unified (Text.lines current) (Text.lines text) (relative.text ++ " (on disk)")
    (relative.text ++ " (generated)")

def compare (d : Disk) (dir : Path) (v : Verified) (file : Path × String) :
    Except Fault Verified := do
  let path := target dir file.1
  if !(← d.exists? path) then return { v with missing := v.missing ++ [path] }
  let current ← d.readText path
  if current = file.2 then return v
  else
    return { v with
      stale := v.stale ++ [path]
      diffs := v.diffs ++ [(path, difference file.1 current file.2)] }

/-- Compares the directory with what is generated. -/
def verify (d : Disk) (dir : Path) (files : Files) : Except Fault Verified := do
  let v ← (Files.sorted files).foldlM (compare d dir) ⟨[], [], [], []⟩
  return { v with obsolete := ← obsolete d dir files }

end StubDirectory

end TypeStubs
