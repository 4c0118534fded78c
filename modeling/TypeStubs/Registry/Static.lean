import TypeStubs.Registry.Reflection

/-!
# Classes given by data

A registry of synthetic classes with single inheritance. Classes are known by their position in a
store, so that two classes of one name stay apart. A base is any class of the store, and chains of
bases may run into a cycle.
-/

namespace TypeStubs

abbrev ClassId := Nat

/-- A stand-in for a class. Its name is the path inside its module. -/
structure SyntheticClass where
  module : String
  name : Option Label
  base : Option ClassId
  arguments : List ArgumentSpec
  options : List (String × ArgumentSpec)

namespace SyntheticClass

/-- The module and the name joined by a dot; without a module the name alone. -/
def qualifiedName (c : SyntheticClass) : Option Label :=
  c.name.map fun name =>
    if c.module.isEmpty then name else .text (c.module ++ "." ++ name.plain)

def described (c : SyntheticClass) : String :=
  match c.qualifiedName with
  | some l => if l.value.isTruthy then l.plain else "<anonymous>"
  | none => "<anonymous>"

def shown (c : SyntheticClass) : String := "SyntheticClass(" ++ c.described ++ ")"

/-- A class about which nothing is known. -/
def blank : SyntheticClass := ⟨"", none, none, [], []⟩

end SyntheticClass

/-- A store of classes, those that are registered in order, and the last one of each name. -/
structure StaticRegistry where
  store : Array SyntheticClass
  registered : List ClassId
  byName : List (Value × ClassId)

namespace StaticRegistry

/-- The registry without classes. -/
def empty : StaticRegistry := ⟨#[], [], []⟩

def get (r : StaticRegistry) (i : ClassId) : SyntheticClass := (r.store[i]?).getD .blank

/-- Sets the class that a name stands for. -/
def setName (name : Value) (i : ClassId) : List (Value × ClassId) → List (Value × ClassId)
  | [] => [(name, i)]
  | (n, j) :: rest => if n.sameKey name then (n, i) :: rest else (n, j) :: setName name i rest

/-- The class a name stands for. -/
def named? (name : Value) (names : List (Value × ClassId)) : Option ClassId :=
  (names.find? fun p => p.1.sameKey name).map Prod.snd

/-- Registers a class of the store under its name. -/
def add (r : StaticRegistry) (i : ClassId) : Except Fault StaticRegistry :=
  let registered := r.registered ++ [i]
  match (r.get i).qualifiedName with
  | none => .ok { r with registered }
  | some l =>
    if l.value.isHashable then .ok { r with registered, byName := setName l.value i r.byName }
    else .error .wrongType

/-- Puts a new class into the store and registers it. -/
def insert (r : StaticRegistry) (c : SyntheticClass) : Except Fault (StaticRegistry × ClassId) :=
  let i := r.store.size
  (add { r with store := r.store.push c } i).map (·, i)

/-- Places a qualified name: in a given module, or else in the one before its last dot. -/
def place (name : Option String) (module : Option String) : String × Option Label :=
  match name, module with
  | none, module => (module.getD "", none)
  | some n, some m => (m, some (.text ((Text.afterStart? (m ++ ".") n).getD n)))
  | some n, none =>
    let (owner, last) := Text.cutAtLast '.' n
    (owner.getD "", some (.text last))

def define (r : StaticRegistry) (name : Option String) (base : Option ClassId)
    (arguments : List ArgumentSpec) (options : List (String × ArgumentSpec))
    (module : Option String) : Except Fault (StaticRegistry × ClassId) :=
  let (owner, label) := place name module
  r.insert ⟨owner, label, base, arguments, options⟩

def setBase (r : StaticRegistry) (i : ClassId) (base : Option ClassId) : StaticRegistry :=
  { r with store := r.store.modify i fun c => { c with base } }

/-- The registry of the same store in which the given classes are registered in order. -/
def rebuild (r : StaticRegistry) (order : List ClassId) : Except Fault StaticRegistry :=
  order.foldlM add { r with registered := [], byName := [] }

/-- Follows bases from a class on. What was passed is held in reverse; the class the walk started
from and those passed already must not come up again. -/
def climb (r : StaticRegistry) (start : ClassId) :
    Nat → List ClassId → Option ClassId → Except Fault (List ClassId)
  | _, passed, none => .ok passed.reverse
  | 0, _, some i => .error (.inheritanceCycle (r.get i).shown)
  | fuel + 1, passed, some i =>
    if i = start ∨ i ∈ passed then .error (.inheritanceCycle (r.get i).shown)
    else climb r start fuel (i :: passed) (r.get i).base

/-- The ancestors of a class, nearest first. -/
def ancestors (r : StaticRegistry) (i : ClassId) : Except Fault (List ClassId) :=
  r.climb i (r.store.size + 1) [] (r.get i).base

def isSubtype (r : StaticRegistry) (i j : ClassId) : Except Fault Bool :=
  (r.ancestors i).map (·.contains j)

def lookup (r : StaticRegistry) (name : String) : Option ClassId := named? (.text name) r.byName

def reflection (r : StaticRegistry) : Reflection ClassId where
  allClasses := r.registered
  name i := (r.get i).qualifiedName
  moduleOf i := (r.get i).module
  ancestors := r.ancestors
  isSubtype := r.isSubtype
  arguments i := pure (r.get i).arguments
  options i := pure (r.get i).options
  lookup := r.lookup
  shown i := (r.get i).shown

end StaticRegistry

end TypeStubs
