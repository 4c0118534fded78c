import TypeStubs.Fault
import TypeStubs.Text.Split

/-!
# Modules

A module can be imported if it and all the packages above it are there.
-/

namespace TypeStubs

/-- The modules that can be imported, and which of them are packages. -/
structure ModuleTable where
  packages : List String
  plain : List String

namespace ModuleTable

/-- Packages that are always there. -/
def standardPackages : List String :=
  ["genstubs", "genstubs.scaffold", "genstubs.registry", "genstubs.compilers", "genstubs.stubs",
   "genstubs.service", "json"]

/-- Other modules that are always there. -/
def standardPlain : List String :=
  ["genstubs.models", "genstubs.config", "genstubs.cli", "genstubs.logging",
   "genstubs.orchestrator", "genstubs.scaffold.base", "genstubs.scaffold.named",
   "genstubs.registry.base", "genstubs.registry.runtime", "genstubs.registry.static",
   "genstubs.compilers.base", "genstubs.compilers.generators", "genstubs.compilers.inference",
   "genstubs.stubs.render", "genstubs.stubs.tree", "genstubs.stubs.writer",
   "genstubs.service.app", "json.decoder", "json.encoder", "json.scanner", "json.tool"]

/-- The modules that are always there together with those of a project. -/
def withModules (names : List String) : ModuleTable := ⟨standardPackages, standardPlain ++ names⟩

def has (t : ModuleTable) (name : String) : Bool :=
  t.packages.contains name || t.plain.contains name

/-- Why a module cannot be imported, if it cannot; its name is given by its parts, the last one
first. The packages above it are imported before it. -/
def faultOf? (t : ModuleTable) : List String → Option ImportFault
  | [] => some .emptyName
  | last :: above =>
    let name := String.intercalate "." (last :: above).reverse
    let parent := String.intercalate "." above.reverse
    if t.has name then none
    else if above.isEmpty then some (.unknown name)
    else
      match faultOf? t above with
      | some f => some f
      | none =>
        if t.packages.contains parent then some (.unknown name) else some (.notPackage name parent)

/-- Why a module cannot be imported, if it cannot. -/
def fault? (t : ModuleTable) (name : String) : Option ImportFault :=
  if name.isEmpty then some .emptyName
  else if Text.startsWith "." name then some (.relative name)
  else t.faultOf? (Text.segments name).reverse

def importModule (t : ModuleTable) (name : String) : Except Fault Unit :=
  match t.fault? name with
  | none => .ok ()
  | some f => .error (.importFailed name f)

end ModuleTable

end TypeStubs
