import TypeStubs.Compiler.Namespace
import TypeStubs.Registry.Payload
import TypeStubs.Text.Quoted
import TypeStubs.TreeWork

/-!
# Stubs for generators

Every class below the root generator that is not built in is a candidate. Its stub holds what it
declares on top of its nearest built-in ancestor.
-/

namespace TypeStubs

open Text

/-- The settings of the generator compiler: the root of all generators, and the namespaces whose
classes are built in. -/
structure GeneratorCompiler where
  root : String
  namespaces : List Namespace

/-- The members a class adds to a base. -/
structure Contribution where
  arguments : List ArgumentSpec
  options : List (String × ArgumentSpec)
  deriving DecidableEq, Repr

namespace Contribution

def isEmpty (c : Contribution) : Bool := c.arguments.isEmpty && c.options.isEmpty

end Contribution

/-- Creates the place of a class in the tree. Its module is there before the path is taken apart. -/
def TreeWork.openClass {C : Type} (r : Reflection C) (c : C) : TreeWork Site := do
  match r.classPath c with
  | none => throw .anonymousStub
  | some path =>
    if !path.value.isTruthy then throw .emptyClassPath
    changes (·.openModule (r.moduleOf c))
    match path.text? with
    | none => throw path.value.splitFault
    | some s =>
      let site := Site.ofPath (r.moduleOf c) s
      changes (·.change site id)
      return site

namespace GeneratorCompiler

def scaffoldRoot : String := "genstubs.scaffold.base.Generator"

def name : String := "generators"

def logger : String := "compilers.generators"

/-- The patterns of the built-in namespaces: those given, or else the scaffold's. -/
def sources (namespaces : List String) : List String :=
  if namespaces.isEmpty then [Namespace.scaffold] else namespaces

/-- A compiler with the given settings, where an empty one stands for the scaffold's. -/
def ofSettings (compile : PatternCompiler) (root : Option String) (namespaces : List String) :
    Except Fault GeneratorCompiler := do
  return {
    root := match root with
      | none => scaffoldRoot
      | some r => if r.isEmpty then scaffoldRoot else r
    namespaces := ← (sources namespaces).mapM (Namespace.ofPattern compile) }

def isBuiltin (g : GeneratorCompiler) (name : String) : Bool := g.namespaces.any (·.holds name)

/-- Is a class built in? Names that are no texts cannot be looked at. -/
def isBuiltinLabel (g : GeneratorCompiler) (l : Label) : Except Fault Bool :=
  match l.text? with
  | some s => .ok (g.isBuiltin s)
  | none => .error .wrongType

variable {C : Type} (g : GeneratorCompiler) (r : Reflection C)

/-- A class with its name if it is a candidate below `root`. -/
def candidate? (root c : C) : Except Fault (Option (String × C)) := do
  match r.name c with
  | none => return none
  | some l =>
    if ← g.isBuiltinLabel l then return none
    else if ← r.isSubtype c root then return some ((l.text?).getD "", c)
    else return none

/-- The candidates in the order of their names; without the root there are none. -/
def selected : Except Fault (List C) :=
  match r.lookup g.root with
  | none => .ok []
  | some root => do
    let found ← r.allClasses.mapM (g.candidate? r root)
    return ((found.filterMap id).mergeSort fun a b => a.1 ≤ b.1).map Prod.snd

/-- Finds the candidates; that the root is missing is logged. -/
def candidates : Attempt (List C) := do
  if (r.lookup g.root).isNone then
    note .debug logger ("Root generator " ++ g.root ++ " is not loaded; nothing to compile")
  Attempt.ofExcept (g.selected r)

def firstBuiltin? : List C → Except Fault (Option C)
  | [] => .ok none
  | c :: rest =>
    match r.name c with
    | none => firstBuiltin? rest
    | some l =>
      match g.isBuiltinLabel l with
      | .error e => .error e
      | .ok true => .ok (some c)
      | .ok false => firstBuiltin? rest

def baseClass (c : C) : Except Fault C := do
  match ← g.firstBuiltin? r (← r.ancestors c) with
  | some b => return b
  | none =>
    throw (.noBuiltinAncestor (r.described c)
      (String.intercalate ", " (g.namespaces.map (·.source))) g.root)

/-- The members a class has and its base has not. The order of arguments is of no account. -/
def contribution (c base : C) : Reading Contribution := do
  let baseArguments ← r.arguments base
  let arguments := (← r.arguments c).filter fun a => !baseArguments.contains a
  let baseOptions ← r.options base
  let options := (← r.options c).filter fun o => baseOptions.lookup o.1 != some o.2
  return ⟨arguments, options⟩

/-- Faults in reading declarations are reported for the class. -/
def unreadable (c : C) (f : Fault) : Fault :=
  if f.family.isValue || f.family = .type then .unreadableDeclaration (r.described c) f else f

/-- The message for a name that is declared both as an argument and as an option. -/
def clashMessage (owner name : String) : String :=
  owner ++ " declares both an argument and an option named " ++ quoted name ++
    "; the option's accessor is kept"

def warnedName (c : C) : String :=
  match r.name c with
  | some l => l.plain
  | none => "None"

/-- Sets the accessor of an option, with a warning if one of the arguments has its name. -/
def emitOption (c : C) (site : Site) (arguments : List ArgumentSpec)
    (o : String × ArgumentSpec) : TreeWork Unit := do
  if arguments.any (·.name == o.1) then
    TreeWork.note .warning logger (clashMessage (warnedName r c) o.1)
  TreeWork.setAccessor site o.1 o.2.accessorType

/-- Sets one accessor for each member of a class at its site: arguments first, then options. -/
def emit (c : C) (site : Site) (added : Contribution) : TreeWork Unit := do
  added.arguments.forM fun a => TreeWork.setAccessor site a.name a.accessorType
  added.options.forM (emitOption r c site added.arguments)

/-- Adds the members of a candidate to the tree. -/
def process (c : C) : TreeWork Unit := do
  let base ← TreeWork.ofExcept (g.baseClass r c)
  let added ← TreeWork.reads ((contribution r c base).mapFault (unreadable r c))
  if added.isEmpty then return
  emit r c (← TreeWork.openClass r c) added

end GeneratorCompiler

end TypeStubs
