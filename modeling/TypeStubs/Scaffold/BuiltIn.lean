import TypeStubs.Scaffold.Creation

/-!
# Built-in generators

The root of all generators, one that targets a named resource, and one whose resource has typed
attributes.
-/

namespace TypeStubs.Scaffold

/-- What is needed to create a class. -/
structure ClassForm where
  module : String
  path : String
  bases : List Nat
  body : List (String × Attribute)

def bound (kind : MemberKind) (name : String) (type : TypeTag) (default : Option Value) :
    String × Attribute :=
  (name, .value (.member (declare kind (.text type.word) .null default)))

/-- A switch that is off, or on, unless it is given. -/
def switch (name : String) (on : Bool) : String × Attribute :=
  bound .option name .boolean (some (.bool on))

def baseModule : String := "genstubs.scaffold.base"

def namedModule : String := "genstubs.scaffold.named"

def namedId : Nat := 2

/-- The position of the generator for resources with attributes. -/
def modelId : Nat := 3

/-- The built-in generators in the order of their creation. -/
def builtInForms : List ClassForm :=
  [{ module := baseModule
     path := "Generator"
     bases := [Universe.objectId]
     body := [(argumentsName, .value (.tuple [])), (optionsName, .value (.map [])),
       switch "pretend" false, switch "quiet" false, (hookName, .computed .collecting),
       (constructorName, .computed .constructing), ("values", .computed .values)] },
   { module := namedModule
     path := "NamedGenerator"
     bases := [Universe.generatorId]
     body := [bound .argument "name" .string none, switch "skip_namespace" false,
       switch "force" false, ("file_name", .computed .fileName)] },
   { module := namedModule
     path := "ModelGenerator"
     bases := [namedId]
     body := [bound .argument "attributes" .array (some (.list [])), switch "timestamps" true,
       bound .option "parent" .string none, ("parsed_attributes", .computed .parsedAttributes)] }]

def rootOnly : Universe where
  classes := #[⟨.text "builtins", "object", "object", [], [], []⟩]
  modules := []

/-- Modules of the program in which the built-in classes can be found. -/
def builtInModules : List (String × List (String × Nat)) :=
  let generator := ("Generator", Universe.generatorId)
  let named := ("NamedGenerator", namedId)
  let model := ("ModelGenerator", modelId)
  [("builtins", [("object", Universe.objectId)]), (baseModule, [generator]),
   (namedModule, [generator, named, model]), ("genstubs.scaffold", [generator, named, model])]

/-- Creates a built-in class. The root of all generators is not told of itself, so it has its own
declarations collected when it is there. -/
def createBuiltIn (u : Universe) (form : ClassForm) : Except Fault Universe := do
  let (u, c) ← u.create (.text form.module) form.path form.bases form.body
  if c = Universe.generatorId then u.collectInto c else return u

/-- The universe before any class is declared. -/
def builtIn : Universe :=
  match builtInForms.foldlM createBuiltIn rootOnly with
  | .ok u => { u with modules := builtInModules }
  | .error _ => rootOnly

end TypeStubs.Scaffold
