import TypeStubs.Decimal.Numeral
import TypeStubs.Disk.Basic
import TypeStubs.Loader
import TypeStubs.Text.Blank
import TypeStubs.Value.Text

/-!
# Project settings

A project may hold a settings file. What is missing from it, or has a type that makes no sense
there, takes its default.
-/

namespace TypeStubs

structure Settings where
  /-- The directory of the project. -/
  root : Path
  modules : List String := []
  outputDirectory : Option Path := none
  /-- The names of the compilers to run, where none means all of them. -/
  enabled : List String := []
  rootClass : Option String := none
  builtinNamespaces : List String := []
  deriving DecidableEq, Repr

namespace Settings

def fileName : String := ".genstubs.yml"

/-- Where stubs go if the settings do not say. -/
def defaultOutput : Path := Path.ofText "typings/genstubs"

def output (s : Settings) : Path := s.outputDirectory.getD (s.root.join defaultOutput)

/-- A setting that is one word: texts, numbers and truth values are. A whole number with too many
digits cannot be written. -/
def word? : Value → Except Fault (Option String)
  | .text s => .ok (some s)
  | .int i => if Decimal.isTooLong i then .error .numberTooLong else .ok (some (Value.int i).plain)
  | .float d => .ok (some (Value.float d).plain)
  | .bool b => .ok (some (Value.bool b).plain)
  | _ => .ok none

/-- A setting that is a list of words. One text is a list of its own; what is no word is left
out. -/
def words : Value → Except Fault (List String)
  | .text s => .ok [s]
  | .list items => (items.mapM word?).map fun ws => ws.filterMap id
  | .tuple items => (items.mapM word?).map fun ws => ws.filterMap id
  | .bytes bs => .ok (bs.map fun b => toString b.toNat)
  | _ => .ok []

def entryOf (entries : List (Value × Value)) (name : String) : Value :=
  (Value.lookup? (.text name) entries).getD .null

def sectionOf (settings : List (Value × Value)) (name : String) : List (Value × Value) :=
  match entryOf settings name with
  | .map entries => entries
  | _ => []

/-- The output directory that the settings give. An empty one counts as none. -/
def outputOf (root : Path) (v : Value) : Except Fault (Option Path) :=
  (word? v).map fun w => (w.filter (!·.isEmpty)).map fun s => root.join (Path.ofText s)

/-- The settings that a map gives. -/
def ofEntries (root : Path) (entries : List (Value × Value)) : Except Fault Settings := do
  let compilers := sectionOf entries "compilers"
  let generators := sectionOf entries "generators"
  let outputDirectory ← outputOf root (entryOf entries "output_dir")
  let enabled ← words (entryOf compilers "enabled")
  let rootClass ← word? (entryOf generators "root_class")
  let builtinNamespaces ← words (entryOf generators "builtin_namespaces")
  let modules ← words (entryOf entries "modules")
  return { root, modules, outputDirectory, enabled, rootClass, builtinNamespaces }

/-- The settings that a value gives. One that does not count as true gives none. -/
def ofValue (root : Path) (v : Value) : Except Fault Settings :=
  if !v.isTruthy then .ok { root }
  else
    match v with
    | .map entries => ofEntries root entries
    | _ => .error .settingsNotMap

def ofText (load : Loader) (root : Path) (text : String) : Except Fault Settings := do
  if (Text.strip text).isEmpty then return { root }
  ofValue root (← (load text).mapError LoadFault.fault)

end Settings

namespace Disk

/-- The home directory that a tilde with a user name stands for; without a name it is the own. -/
def homeOf? (d : Disk) (user : String) : Option Location :=
  if user.isEmpty then some d.home else if user = "root" then some ["root"] else none

/-- A path with a home directory for a tilde at its beginning. -/
def expandHome (d : Disk) (p : Path) : Except Fault Path :=
  match p.anchor, p.parts with
  | .relative, first :: rest =>
    match Text.afterStart? "~" first with
    | none => .ok p
    | some user =>
      match d.homeOf? user with
      | some home => .ok ⟨.root, home ++ rest⟩
      | none => .error .noHome
  | _, _ => .ok p

/-- The settings file for a path: the one in a directory, or beside a file. -/
def settingsFile (d : Disk) (p : Path) : Except Fault Path := do
  let p ← d.expandHome p
  if ← d.isDirectory p then return d.resolve (p.child Settings.fileName)
  else if p.name? = some Settings.fileName then return d.resolve p
  else return d.resolve (p.parent.child Settings.fileName)

/-- The settings for a path, as `load` reads the settings file. -/
def settings (load : Loader) (d : Disk) (p : Path) : Except Fault Settings := do
  let file ← d.settingsFile p
  let root := file.parent
  if ← d.exists? file then Settings.ofText load root (← d.readText file) else return { root }

end Disk

end TypeStubs
