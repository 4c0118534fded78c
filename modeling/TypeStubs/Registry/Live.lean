import TypeStubs.Scaffold.Universe

/-!
# Reflection over live classes

Declarations are read from two class attributes: one to go through for arguments, and a map of
options. What has the wrong shape counts as no declaration.
-/

namespace TypeStubs

open Scaffold

/-- The class attributes from which declarations are read. -/
structure AttributeNames where
  arguments : String
  options : String

namespace AttributeNames

/-- The attributes into which generators collect. -/
def standard : AttributeNames := ⟨argumentsName, optionsName⟩

end AttributeNames

namespace Live

def logger : String := "registry.runtime"

/-- A local class is marked by this in its path. -/
def localMark : String := "<locals>"

def holdsWord (word : List Char) : List Char → Bool
  | [] => word.isEmpty
  | c :: cs => word.isPrefixOf (c :: cs) || holdsWord word cs

/-- The module and the path of a class; local classes and classes of no module have no name. -/
def qualifiedName (c : LiveClass) : Option Label :=
  match c.module.text? with
  | none => none
  | some _ =>
    if holdsWord localMark.toList c.path.toList then none
    else some (.text (c.module.plain ++ "." ++ c.path))

/-- The module of a class as text; what does not count as true is no module. -/
def moduleOf (c : LiveClass) : String := if c.module.isTruthy then c.module.plain else ""

/-- The argument declarations of an attribute, or none if one cannot go through it. -/
def argumentItems? : Option Attribute → Option (List Value)
  | none => some []
  | some (.value v) =>
    match v with
    | .null | .text _ | .tag _ | .bytes _ | .map _ => some []
    | v => v.items?
  | some _ => none

def arguments (u : Universe) (names : AttributeNames) (c : Nat) : Reading (List ArgumentSpec) :=
  match argumentItems? ((u.attribute? c names.arguments).map Prod.snd) with
  | some items => Reading.ofExcept (items.mapM fun item => ArgumentSpec.ofDeclaration item .null)
  | none => do
    Reading.note .debug logger
      ("Ignoring non-iterable " ++ names.arguments ++ " on " ++ (u.get c).shown)
    return []

def options (u : Universe) (names : AttributeNames) (c : Nat) :
    Reading (List (String × ArgumentSpec)) :=
  match (u.attribute? c names.options).map Prod.snd with
  | some (.value (.map entries)) => Reading.ofExcept (readOptions entries)
  | _ => pure []

/-- The live classes as a universe to reflect over. -/
def reflection (u : Universe) (names : AttributeNames) : Reflection Nat where
  allClasses := u.allClasses
  name c := qualifiedName (u.get c)
  moduleOf c := moduleOf (u.get c)
  ancestors c := .ok (u.get c).ancestry
  isSubtype c d := .ok (c != d && (u.get c).ancestry.contains d)
  arguments := arguments u names
  options := options u names
  lookup := u.lookup
  shown c := (u.get c).shown

end Live

end TypeStubs
