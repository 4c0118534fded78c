import TypeStubs.Path
import TypeStubs.Text.Lines
import TypeStubs.Log

/-!
# Disks

A disk holds files and directories by their location, the list of names on the way from the root.
The root is always a directory. There are no links, so two dots always lead back.
-/

namespace TypeStubs

abbrev Location := List String

/-- What may stand at a location. -/
inductive Entry where
  | directory
  | file (bytes : List UInt8)
  /-- A device, which swallows what is written and holds nothing. -/
  | device
  deriving DecidableEq, Repr

/-- The entries other than the root, and the directories from which relative paths and paths
beginning with a tilde start. -/
structure Disk where
  entries : List (Location × Entry)
  workingDirectory : Location
  home : Location

namespace Disk

def at? (d : Disk) (l : Location) : Option Entry :=
  if l.isEmpty then some .directory else d.entries.lookup l

def put (d : Disk) (l : Location) (e : Entry) : Disk :=
  { d with entries :=
      if (d.entries.lookup l).isSome then
        d.entries.map fun p => if p.1 = l then (l, e) else p
      else d.entries ++ [(l, e)] }

def erase (d : Disk) (l : Location) : Disk :=
  { d with entries := d.entries.filter (·.1 != l) }

/-- Takes away the entry at a location and all below it. -/
def eraseTree (d : Disk) (l : Location) : Disk :=
  { d with entries := d.entries.filter fun p => !l.isPrefixOf p.1 }

/-- The entries below a location, by the names on the way from it. -/
def below (d : Disk) (l : Location) : List (Location × Entry) :=
  d.entries.filterMap fun p =>
    if l.isPrefixOf p.1 && p.1.length != l.length then some (p.1.drop l.length, p.2) else none

def children (d : Disk) (l : Location) : List String :=
  (d.below l).filterMap fun p =>
    match p.1 with
    | [name] => some name
    | _ => none

/-- A path that starts at the root. -/
def absolute (d : Disk) (p : Path) : Path :=
  if p.isAbsolute then p else ⟨.root, d.workingDirectory ++ p.parts⟩

/-- A path from the root without two-dot parts. -/
def resolve (d : Disk) (p : Path) : Path := (d.absolute p).resolved

/-- The longest name a disk takes, in bytes. -/
def longestName : Nat := 255

def enter (d : Disk) (l : Location) (name : String) : Except Fault Location :=
  match d.at? l with
  | none => .error .noFile
  | some .directory =>
    if longestName < name.utf8ByteSize then .error .nameTooLong
    else if name = ".." then .ok l.dropLast
    else .ok (l ++ [name])
  | some _ => .error .notDirectory

/-- The location of a path. All but its last part must be there. -/
def locate (d : Disk) (p : Path) : Except Fault Location :=
  let parts := (d.absolute p).parts
  if parts.any fun s => s.toList.contains (Char.ofNat 0) then .error .nullInPath
  else parts.foldlM d.enter []

def stat (d : Disk) (p : Path) : Except Fault Entry := do
  match d.at? (← d.locate p) with
  | some e => return e
  | none => throw .noFile

/-- What is known of a path: a missing or unreachable entry is none. -/
def peek (d : Disk) (p : Path) : Except Fault (Option Entry) :=
  match d.stat p with
  | .ok e => .ok (some e)
  | .error f =>
    match f with
    | .noFile | .notDirectory | .nullInPath => .ok none
    | f => .error f

def exists? (d : Disk) (p : Path) : Except Fault Bool := (d.peek p).map Option.isSome

def isDirectory (d : Disk) (p : Path) : Except Fault Bool :=
  (d.peek p).map (· == some .directory)

def readBytes (d : Disk) (p : Path) : Except Fault (List UInt8) := do
  match ← d.stat p with
  | .file bytes => return bytes
  | .device => return []
  | .directory => throw .isDirectory

/-- Writes a file; its directory must be there. -/
def writeBytes (d : Disk) (p : Path) (bytes : List UInt8) : Except Fault Disk := do
  let l ← d.locate p
  match d.at? l with
  | some .directory => throw .isDirectory
  | some .device => return d
  | _ => return d.put l (.file bytes)

/-- Makes one directory in a directory that is there. -/
def makeOne (d : Disk) (p : Path) : Except Fault Disk := do
  let l ← d.locate p
  match d.at? l with
  | some _ => throw .fileExists
  | none => return d.put l .directory

/-- Makes a directory unless it is there. -/
def makeUnlessThere (d : Disk) (p : Path) : Except Fault Disk :=
  match d.makeOne p with
  | .ok d => .ok d
  | .error f => do if ← d.isDirectory p then return d else throw f

/-- The disk after a change of it, or the same disk if the change fails. -/
def after (d : Disk) : Except Fault Disk → Except Fault Unit × Disk
  | .ok d => (.ok (), d)
  | .error f => (.error f, d)

/-- Makes a directory and those above it that are missing; `missing` counts the parts that may be
taken off the path. What was made before a fault stays. -/
def makeAll (d : Disk) : Nat → Path → Except Fault Unit × Disk
  | 0, p => d.after (d.makeUnlessThere p)
  | missing + 1, p =>
    match d.makeOne p with
    | .ok d => (.ok (), d)
    | .error .noFile =>
      match d.makeAll missing p.parent with
      | (.ok _, d) => d.after (d.makeUnlessThere p)
      | (.error f, d) => (.error f, d)
    | .error f => d.after do if ← d.isDirectory p then return d else throw f

def makeDirectories (d : Disk) (p : Path) : Except Fault Unit × Disk := d.makeAll p.parts.length p

/-- Makes a directory with those above it, or fails and makes none. -/
def makeDirectory (d : Disk) (p : Path) : Except Fault Disk :=
  match d.makeDirectories p with
  | (.ok _, d) => .ok d
  | (.error f, _) => .error f

def removeFile (d : Disk) (p : Path) : Except Fault Disk := do
  let l ← d.locate p
  match d.at? l with
  | some .directory => throw .isDirectory
  | some _ => return d.erase l
  | none => throw .noFile

/-- Takes away a directory that has been found empty. -/
def removeDirectory (d : Disk) (p : Path) : Except Fault Disk := do return d.erase (← d.locate p)

/-- The text of a file with the three newline forms made one. -/
def decodeText (bytes : List UInt8) : Except Fault String :=
  match Text.Utf8.decodeAll bytes with
  | .ok cs => .ok (String.ofList (Text.unifyNewlines cs))
  | .error f => .error (.undecodable f)

def readText (d : Disk) (p : Path) : Except Fault String := do decodeText (← d.readBytes p)

def writeText (d : Disk) (p : Path) (text : String) : Except Fault Disk :=
  d.writeBytes p (Text.Utf8.encode text.toList)

end Disk

end TypeStubs
