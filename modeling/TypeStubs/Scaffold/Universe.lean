import TypeStubs.Registry.Payload
import TypeStubs.Scaffold.Ancestry
import TypeStubs.Scaffold.Declaration

/-!
# Live classes

A universe holds classes in the order of their creation, each later than its bases. Class bodies
bind names to values, to nested classes and to functions. A generator collects its declarations into
its own body.
-/

namespace TypeStubs.Scaffold

/-- The functions and properties of the built-in classes. -/
inductive Computed where
  | values
  | fileName
  | parsedAttributes
  /-- Fills a new generator with its values. -/
  | constructing
  /-- Collects the declarations of a new generator class. -/
  | collecting
  deriving DecidableEq, Repr

/-- What a class body binds a name to. -/
inductive Attribute where
  | value (v : Value)
  | nested (c : Nat)
  | computed (k : Computed)

structure LiveClass where
  module : Value
  path : String
  shortName : String
  bases : List Nat
  /-- The ancestors, nearest first, without the class itself. -/
  ancestry : List Nat
  body : List (String × Attribute)

/-- The classes there are, and the modules in which some of them can be found by name. -/
structure Universe where
  classes : Array LiveClass
  modules : List (String × List (String × Nat))

namespace LiveClass

/-- A class about which nothing is known. -/
def blank : LiveClass := ⟨.null, "", "", [], [], []⟩

def bind {α : Type} (name : String) (a : α) : List (String × α) → List (String × α)
  | [] => [(name, a)]
  | (n, b) :: rest => if n = name then (n, a) :: rest else (n, b) :: bind name a rest

/-- The class as it is shown, without the angle brackets around it. -/
def label (c : LiveClass) : String :=
  match c.module with
  | .text m =>
    if m = "builtins" then "class '" ++ c.path ++ "'" else "class '" ++ m ++ "." ++ c.path ++ "'"
  | _ => "class '" ++ c.shortName ++ "'"

def shown (c : LiveClass) : String := "<" ++ c.label ++ ">"

end LiveClass

namespace Universe

def objectId : Nat := 0

def generatorId : Nat := 1

def get (u : Universe) (c : Nat) : LiveClass := (u.classes[c]?).getD .blank

/-- The row of a class: itself and its ancestors. -/
def row (u : Universe) (c : Nat) : List Nat := c :: (u.get c).ancestry

/-- What a name means on a class: its own binding, or that of the nearest ancestor. -/
def attribute? (u : Universe) (c : Nat) (name : String) : Option (Nat × Attribute) :=
  (u.row c).findSome? fun d => ((u.get d).body.lookup name).map (d, ·)

def isGenerator (u : Universe) (c : Nat) : Bool := (u.row c).contains generatorId

def change (u : Universe) (c : Nat) (f : LiveClass → LiveClass) : Universe :=
  { u with classes := u.classes.modify c f }

/-- Binds a name in the body of a class. -/
def bind (u : Universe) (c : Nat) (name : String) (a : Attribute) : Universe :=
  u.change c fun k => { k with body := LiveClass.bind name a k.body }

end Universe

/-- A declaration takes the name it is bound to. -/
def attach (name : String) : Value → Value
  | .member d => .member { d with name := some name }
  | v => v

/-- The first two items of what should be a pair. -/
def asPair (index : Nat) (v : Value) : Except Fault (Value × Value) :=
  match v.items? with
  | none => .error .wrongType
  | some [a, b] => .ok (a, b)
  | some items => .error (.notAPair index items.length)

/-- Puts pairs into a map one after another; `index` is the number of the first. -/
def entriesOfPairs (index : Nat) (done : List (Value × Value)) :
    List Value → Except Fault (List (Value × Value))
  | [] => .ok done
  | v :: rest =>
    match asPair index v with
    | .error e => .error e
    | .ok (k, x) =>
      if k.isHashable then entriesOfPairs (index + 1) (Value.putEntry k x done) rest
      else .error .wrongType

/-- A map made from a map or from pairs. -/
def asMapping : Value → Except Fault (List (Value × Value))
  | .map entries => .ok entries
  | v =>
    match v.items? with
    | none => .error .wrongType
    | some items => entriesOfPairs 0 [] items

def declarations (body : List (String × Attribute)) : List (String × Declaration) :=
  body.filterMap fun (name, a) =>
    match a with
    | .value (.member d) => some (name, d)
    | _ => none

/-- Adds an argument: it takes the place of the first one of its name, or else comes last. -/
def putArgument (name : String) (d : Declaration) : List Value → Except Fault (List Value)
  | [] => .ok [.member d]
  | v :: rest =>
    match v.attribute? "name" with
    | none => .error .noAttribute
    | some n =>
      if n.sameKey (.text name) then .ok (.member d :: rest)
      else (putArgument name d rest).map (v :: ·)

/-- Collects the members of a body on top of inherited arguments and options. -/
def collect (body : List (String × Attribute)) (arguments : List Value)
    (options : List (Value × Value)) : Except Fault (List Value × List (Value × Value)) :=
  let put := fun ((arguments, options) : List Value × List (Value × Value)) (name, d) =>
    match d.kind with
    | .argument => (putArgument name d arguments).map (·, options)
    | .option => .ok (arguments, Value.putEntry (.text name) (.member d) options)
  (declarations body).foldlM put (arguments, options)

/-- The value of an attribute; nested classes and computed members are no values. -/
def Attribute.value? : Attribute → Option Value
  | .value v => some v
  | _ => none

/-- The attribute that holds collected arguments. -/
def argumentsName : String := "arguments"

/-- The attribute that holds collected options. -/
def optionsName : String := "class_options"

/-! The names under which the language itself looks for functions: to tell the ancestors of a class
that there is a new one below them, to make an instance and to fill it, and to read and set its
attributes. -/

def hookName : String := "__init_subclass__"

def makerName : String := "__new__"

def constructorName : String := "__init__"

def readerName : String := "__getattribute__"

def setterName : String := "__setattr__"

namespace Universe

/-- What an attribute of a class gives to go through, nothing at all if it is not bound. -/
def inheritedItems (u : Universe) (c : Nat) : Except Fault (List Value) :=
  match u.attribute? c argumentsName with
  | none => .ok []
  | some (_, a) =>
    match a.value? with
    | some v => v.asItems
    | none => .error .wrongType

def inheritedOptions (u : Universe) (c : Nat) : Except Fault (List (Value × Value)) :=
  match u.attribute? c optionsName with
  | none => .ok []
  | some (_, a) =>
    match a.value? with
    | some v => asMapping v
    | none => .error .wrongType

/-- Collects the declarations of a generator class into its own body. -/
def collectInto (u : Universe) (c : Nat) : Except Fault Universe := do
  let arguments ← u.inheritedItems c
  let options ← u.inheritedOptions c
  let (arguments, options) ← collect (u.get c).body arguments options
  return (u.bind c argumentsName (.value (.tuple arguments))).bind c optionsName
    (.value (.map options))

def moduleBody? (u : Universe) (module : String) : Option (List (String × Nat)) :=
  u.modules.lookup module

def follow (u : Universe) (c : Nat) : List String → Option Nat
  | [] => some c
  | name :: rest =>
    match u.attribute? c name with
    | some (_, .nested d) => u.follow d rest
    | _ => none

def find? (u : Universe) (module : String) (path : List String) : Option Nat :=
  match path with
  | [] => none
  | head :: rest =>
    (u.moduleBody? module).bind fun names => (names.lookup head).bind (u.follow · rest)

/-- Makes a class known by its name: at the top of its module, or in the class it is nested in. A
nested class whose outer class is not known stays unknown. -/
def register (u : Universe) (module : String) (c : Nat) : Universe :=
  let names := (u.moduleBody? module).getD []
  let u := { u with modules := LiveClass.bind module names u.modules }
  let path := Text.segments (u.get c).path
  match path.dropLast, path.getLast? with
  | [], some name =>
    { u with modules := LiveClass.bind module (LiveClass.bind name c names) u.modules }
  | outer, some name =>
    match u.find? module outer with
    | some d => u.bind d name (.nested c)
    | none => u
  | _, none => u

/-- The ways to cut a dotted name into a module and a path, the longest module first. -/
def cuts (parts : List String) : List (String × List String) :=
  (List.range (parts.length - 1)).reverse.map fun i =>
    (String.intercalate "." (parts.take (i + 1)), parts.drop (i + 1))

def lookup (u : Universe) (name : String) : Option Nat :=
  (cuts (Text.segments name)).findSome? fun (module, path) => u.find? module path

/-- The direct subclasses of a class in the order of creation. -/
def subclasses (u : Universe) (c : Nat) : List Nat :=
  (List.range u.classes.size).filter fun d => (u.get d).bases.contains c

/-- Visits classes from a stack. A class is visited once, and its subclasses go on top of the
stack, the latest uppermost. -/
def visit (u : Universe) : Nat → List Nat → List Nat → List Nat
  | 0, seen, _ => seen.reverse
  | _, seen, [] => seen.reverse
  | fuel + 1, seen, c :: stack =>
    if seen.contains c then visit u fuel seen stack
    else visit u fuel (c :: seen) ((u.subclasses c).reverse ++ stack)

/-- The number of links from classes to their bases. -/
def links (u : Universe) : Nat := u.classes.foldl (fun n c => n + c.bases.length) 0

/-- Every class, from the root on. -/
def allClasses (u : Universe) : List Nat := u.visit (u.links + 2) [] [objectId]

/-- Sets an attribute of a class. The root of all classes takes none. -/
def setAttribute (u : Universe) (c : Nat) (name : String) (v : Value) : Except Fault Universe :=
  if c = objectId then .error .wrongType
  else
    match name, v.text? with
    | "__module__", _ => .ok (u.change c fun k => { k with module := v })
    | "__qualname__", some s => .ok (u.change c fun k => { k with path := s })
    | "__qualname__", none => .error .wrongType
    | "__name__", some s =>
      if s.toList.contains (Char.ofNat 0) then .error .nullInName
      else .ok (u.change c fun k => { k with shortName := s })
    | "__name__", none => .error .wrongType
    | _, _ => .ok (u.bind c name (.value v))

end Universe

end TypeStubs.Scaffold
