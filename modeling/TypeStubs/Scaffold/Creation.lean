import TypeStubs.Scaffold.Instance
import TypeStubs.Text.Identifier

/-!
# Class statements

A new class comes below its bases. Its ancestors are told of it, and that is how generators come to
collect their declarations: the root of all generators has them do so, unless a nearer ancestor
stands in its way.
-/

namespace TypeStubs.Scaffold

/-- The bindings of a class body, made one after another. Declarations take the names they are bound
to. -/
def boundBody (body : List (String × Attribute)) : List (String × Attribute) :=
  (body.map fun (name, a) => (name, match a with
    | .value v => .value (attach name v)
    | a => a)).foldl (fun b (name, a) => LiveClass.bind name a b) []

/-- The names that a value lists as slots: the one that it is, or those that it holds. -/
def slotNames? (v : Value) : Option (List String) :=
  match v.text? with
  | some name => some [name]
  | none => v.items?.bind fun items => items.mapM Value.text?

/-- Slots must be identifiers that the body does not bind. -/
def slotsFault? (body : List (String × Attribute)) : Option Fault :=
  let names := match body.lookup "__slots__" with
    | none => some []
    | some (.value v) => slotNames? v
    | some _ => none
  match names with
  | none => some .wrongType
  | some names =>
    if names.all Text.isIdentifier then
      (names.find? fun name => (body.lookup name).isSome).map .slotBound
    else some .wrongType

/-- A path that is bound must be a text, and no body binds a cell. -/
def pathFault? (body : List (String × Attribute)) : Option Fault :=
  let fits := match body.lookup "__qualname__" with
    | none => true
    | some (.value v) => v.text?.isSome
    | some _ => false
  if fits && (body.lookup "__classcell__").isNone then none else some .wrongType

/-- What a class statement refuses in the name and in the body of a class. -/
def formFault? (name : String) (body : List (String × Attribute)) : Option Fault :=
  match slotsFault? body with
  | some f => some f
  | none => if name.toList.contains (Char.ofNat 0) then some .nullInName else pathFault? body

namespace Universe

/-- Tells ancestors, from the nearest on, of a new class below them: is it to collect its
declarations? The root of all generators passes the news on before it has them collected. A nested
class in the place of a function is called, and nothing comes of it. -/
def tell (u : Universe) : List Nat → Except Fault Bool
  | [] => .ok false
  | c :: rest =>
    match (u.get c).body.lookup hookName with
    | none => u.tell rest
    | some (.computed .collecting) => (u.tell rest).map fun _ => true
    | some (.nested d) => (instantiate u d none none).map fun _ => false
    | some _ => .error .wrongType

def lastPart (path : String) : String := (Text.cutAtLast '.' path).2

/-- Creates a class. The path is the one that the class has in the end. -/
def create (u : Universe) (module : Value) (path : String) (bases : List Nat)
    (body : List (String × Attribute)) : Except Fault (Universe × Nat) := do
  let shortName := lastPart path
  let body := boundBody body
  if let some f := formFault? shortName body then throw f
  let bases := if bases.isEmpty then [objectId] else bases
  match ancestry? bases u.row with
  | none => throw .wrongType
  | some ancestry =>
    let c := u.classes.size
    let u := { u with
      classes := u.classes.push ⟨module, path, shortName, bases, ancestry, body⟩ }
    if ← u.tell ancestry then return (← u.collectInto c, c) else return (u, c)

end Universe

end TypeStubs.Scaffold
