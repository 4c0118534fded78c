import TypeStubs.Compiler.Basic
import TypeStubs.Text.Case

/-!
# Plugins

Compilers are looked up by name, whatever the case of its letters. The built-in compiler comes
first, then the plugins in order; of several with one name the first counts.
-/

namespace TypeStubs

/-- What a plugin leads to once it is loaded. -/
inductive PluginTarget (C : Type) where
  /-- A compiler that is ready. -/
  | ready (k : Compiler C)
  /-- A kind of compilers. Making one with the settings may fail. -/
  | kind (made : Except Fault (Compiler C))
  /-- Something to call. The call may fail, and what it gives need not be a compiler. -/
  | factory (shown : String) (made : Except Fault (Option (Compiler C)))
  /-- Something that makes no compiler. -/
  | other (shown : String)

/-- A plugin. Loading it may fail with a message. -/
structure Plugin (C : Type) where
  name : String
  loaded : Except String (PluginTarget C)

abbrev NamedCompilers (C : Type) := List (String × Compiler C)

variable {C : Type}

namespace Plugin

def target (p : Plugin C) : Except Fault (PluginTarget C) :=
  match p.loaded with
  | .ok t => .ok t
  | .error message => .error (.brokenPlugin p.name message)

def compilerOf : PluginTarget C → Except Fault (Compiler C)
  | .ready k => .ok k
  | .kind made => made
  | .factory shown made => do
    match ← made with
    | some k => return k
    | none => throw (.notACompiler shown)
  | .other shown => .error (.notACompiler shown)

end Plugin

namespace Compiler

/-- The name under which a compiler is looked up. -/
def key (name : String) : String := Text.lower name

/-- Is a name asked for? Without a list of names every name is. -/
def isWanted (wanted : Option (List String)) (k : String) : Bool :=
  match wanted with
  | none => true
  | some keys => keys.contains k

def isNeeded (wanted : Option (List String)) (found : NamedCompilers C) (name : String) : Bool :=
  (found.lookup (key name)).isNone && isWanted wanted (key name)

def takeBuiltIn (builtIn : Except Fault GeneratorCompiler) (wanted : Option (List String)) :
    Except Fault (NamedCompilers C) :=
  if isNeeded wanted ([] : NamedCompilers C) GeneratorCompiler.name then do
    return [(key GeneratorCompiler.name, .generators (← builtIn))]
  else return []

/-- Takes a plugin. It is loaded in any case. -/
def takePlugin (wanted : Option (List String)) (found : NamedCompilers C) (p : Plugin C) :
    Except Fault (NamedCompilers C) := do
  let target ← p.target
  if isNeeded wanted found p.name then
    return found ++ [(key p.name, ← Plugin.compilerOf target)]
  else return found

/-- Inserts a name into a sorted list unless it is there. -/
def insertName (name : String) : List String → List String
  | [] => [name]
  | n :: rest =>
    if name = n then n :: rest
    else if name < n then name :: n :: rest
    else n :: insertName name rest

def unknownNames (wanted : List String) (found : NamedCompilers C) : List String :=
  (wanted.filter fun k => (found.lookup k).isNone).foldl (fun names k => insertName k names) []

/-- The compilers with the names asked for, or all of them. -/
def discover (builtIn : Except Fault GeneratorCompiler) (plugins : List (Plugin C))
    (enabled : Option (List String)) : Except Fault (NamedCompilers C) := do
  let wanted := enabled.map fun names => names.map key
  let found ← plugins.foldlM (takePlugin wanted) (← takeBuiltIn builtIn wanted)
  match unknownNames (wanted.getD []) found with
  | [] => return found
  | names => throw (.unknownCompilers names)

end Compiler

end TypeStubs
