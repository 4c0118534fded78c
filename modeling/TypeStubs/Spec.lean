import TypeStubs.Fault
import TypeStubs.Value.Text

/-!
# Normalised declarations

Declarations come as maps, as members of generator classes or as objects with attributes. All of
them are read into one form; of a default only its presence matters.
-/

namespace TypeStubs

namespace Declared

def hasDefault {α : Type} (d : Declared α) : Bool := d.default.isSome

end Declared

namespace Value

def ofName (name : Option String) : Value :=
  match name with
  | none => null
  | some n => text n

def memberAttribute? (d : Declaration) (key : String) : Option Value :=
  match key with
  | "name" => some (ofName d.name)
  | "type" => some d.type
  | "required" => some (bool d.required)
  | "has_default" => some (bool d.hasDefault)
  | "default" => d.default
  | "kind" => some (text d.kind.word)
  | _ => none

/-- The attributes of a value; plain data have none. -/
def attribute? (v : Value) (key : String) : Option Value :=
  match v with
  | tag t => if key == "name" then some (text t.constantName) else none
  | object _ attributes => named? key attributes
  | member d => memberAttribute? d key
  | _ => none

/-- What a declaration says under a key: maps are read by entry, all else by attribute. -/
def read (v : Value) (key : String) : Value :=
  match v with
  | map entries => (lookup? (text key) entries).getD null
  | v => (v.attribute? key).getD null

end Value

namespace TypeTag

/-- The tag a value names; what is neither a tag nor a text means `other`. -/
def ofValue : Value → TypeTag
  | .tag t => t
  | .text s => ofText s
  | _ => other

end TypeTag

/-- The normalised declaration of one positional argument or named option. -/
structure ArgumentSpec where
  name : String
  type : TypeTag
  required : Bool
  hasDefault : Bool
  deriving DecidableEq, Repr

namespace ArgumentSpec

/-- A default is there if the declaration says so, or else if it gives one that is not null. -/
def readsDefault (declaration : Value) : Bool :=
  match declaration.read "has_default" with
  | .null => !(declaration.read "default").isNull
  | v => v.isTruthy

/-- Reads a declaration. A given name comes before the declaration's own. -/
def ofDeclaration (declaration name : Value) : Except Fault ArgumentSpec :=
  let name := if name.isNull then declaration.read "name" else name
  if !name.isTruthy then .error .unnamedDeclaration
  else
    .ok {
      name := name.plain
      type := TypeTag.ofValue (declaration.read "type")
      required := (declaration.read "required").isTruthy
      hasDefault := readsDefault declaration }

end ArgumentSpec

end TypeStubs
