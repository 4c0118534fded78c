import TypeStubs.Scaffold.Universe
import TypeStubs.Text.Case

/-!
# Instances of generators

A generator is made from positional values and named options. What was given, or else a default,
is bound to the name of the member; members that are neither required nor defaulted stay unbound.
-/

namespace TypeStubs.Scaffold

/-- An instance of a class. Only generators have bound values. -/
structure Instance where
  cls : Nat
  values : Option (List (Value × Value))

/-- The attribute in which an instance keeps its values. -/
def valuesSlot : String := "_values"

/-- Where the value of an attribute is kept. -/
inductive Location where
  /-- Bound in the instance under a key. -/
  | bound (key : Value)
  /-- Bound in the body of a class. -/
  | body (c : Nat) (name : String)
  /-- Made anew each time. -/
  | fresh

namespace Instance

/-- The bound values; an instance that is no generator has none. -/
def bindings (i : Instance) : Except Fault (List (Value × Value)) :=
  match i.values with
  | some entries => .ok entries
  | none => .error .noAttribute

def replacePair (a b image : Char) : List Char → List Char
  | x :: y :: rest =>
    if x = a ∧ y = b then image :: replacePair a b image rest
    else x :: replacePair a b image (y :: rest)
  | rest => rest

def fileNameOf (name : String) : String :=
  let cs := replacePair ':' ':' '/' name.toList
  Text.lower (String.ofList (cs.map fun c => if c = '-' then '_' else c))

/-- Reads an attribute that is bound in a class body to data: a declaration stands for the value
that is bound under its name. -/
def readBound (i : Instance) (c : Nat) (name : String) : Value → Except Fault (Value × Location)
  | .member d => do
    let key := Value.ofName d.name
    return ((Value.lookup? key (← i.bindings)).getD .null, .bound key)
  | v => .ok (v, .body c name)

/-- Reads an attribute that is not computed. -/
def readPlain (u : Universe) (i : Instance) (name : String) : Except Fault (Value × Location) :=
  match name, i.values with
  | "_values", some entries => .ok (.map entries, .fresh)
  | _, _ =>
    match u.attribute? i.cls name with
    | some (c, .value v) => i.readBound c name v
    | some (_, .nested d) => .ok (.object (u.get d).label [], .fresh)
    | some (_, .computed _) => .error .noAttribute
    | none =>
      if name = "__module__" then .ok ((u.get i.cls).module, .fresh) else .error .noAttribute

/-- Reads an attribute with the place where its value is kept. -/
def read (u : Universe) (i : Instance) (name : String) : Except Fault (Value × Location) :=
  match u.attribute? i.cls name with
  | some (_, .computed .values) => return (.map (← i.bindings), .fresh)
  | some (_, .computed .fileName) => do
    let (v, _) ← i.readPlain u "name"
    return (.text (fileNameOf v.plain), .fresh)
  | some (_, .computed _) => .ok (.object "method" [], .fresh)
  | _ => i.readPlain u name

def get (u : Universe) (i : Instance) (name : String) : Except Fault Value :=
  (i.read u name).map Prod.fst

/-- The values of an instance, by the attribute of that name. -/
def valuesOf (u : Universe) (i : Instance) : Except Fault Value := i.get u "values"

/-- Reads `field:type`; without a type a field is a string. -/
def parseField (item : Value) : String × String :=
  let (field, type) := Text.cutAtFirst ':' item.plain
  (field, match type with
    | some t => if t.isEmpty then "string" else t
    | none => "string")

/-- The fields of a generator with attributes, and their types. -/
def parsedAttributes (u : Universe) (i : Instance) : Except Fault (List (String × String)) :=
  match u.attribute? i.cls "parsed_attributes" with
  | some (_, .computed .parsedAttributes) => do
    let (v, _) ← i.read u "attributes"
    return (← (v.orElse (.list [])).asItems).map parseField
  | some _ => .error .wrongType
  | none => .error .noAttribute

end Instance

/-- A copy of the default, which has to be of a kind that can be copied. -/
def resolveDefault (declaration : Value) : Except Fault Value :=
  match declaration with
  | .member d =>
    let v := d.default.getD .null
    if v.isCopyable then .ok v else .error .wrongType
  | v => .error (v.methodFault "resolve_default")

/-- An attribute that has to be there. -/
def need (v : Value) (name : String) : Except Fault Value :=
  match v.attribute? name with
  | some x => .ok x
  | none => .error .noAttribute

/-- Binds a value; the key must be fit for a map. -/
def bindValue (key value : Value) (values : List (Value × Value)) :
    Except Fault (List (Value × Value)) :=
  if key.isHashable then .ok (Value.putEntry key value values) else .error .wrongType

/-- Binds the value for a member: the one supplied, or else its default. Without either, it must
not be required. -/
def bindMember (key : Except Fault Value) (member : Value) (supplied : Option Value)
    (missing : String → Fault) (values : List (Value × Value)) :
    Except Fault (List (Value × Value)) := do
  match supplied with
  | some v => bindValue (← key) v values
  | none =>
    if (← need member "has_default").isTruthy then
      let v ← resolveDefault member
      bindValue (← key) v values
    else if (← need member "required").isTruthy then throw (missing (← key).plain)
    else return values

def bindArguments : List Value → List Value → List (Value × Value) →
    Except Fault (List (Value × Value))
  | [], _, values => .ok values
  | a :: rest, given, values => do
    let values ← bindMember (need a "name") a given.head? .missingArgument values
    bindArguments rest (given.drop 1) values

def bindOptions (supplied : List (Value × Value)) (options values : List (Value × Value)) :
    Except Fault (List (Value × Value)) :=
  options.foldlM (fun values (name, option) =>
    bindMember (.ok name) option (Value.lookup? name supplied) .missingOption values) values

/-- The fault for options that are not declared, if there are any. -/
def unknownFault? (supplied : List (Value × Value)) (known : List Value) : Option Fault :=
  let unknown := (supplied.map Prod.fst).filter fun k => !known.any (·.sameKey k)
  if unknown.isEmpty then none
  else
    match unknown.mapM Value.text? with
    | some names => some (.unknownOptions (names.mergeSort fun a b => a ≤ b))
    | none => some .wrongType

/-- The named options that were supplied. -/
def suppliedOptions (options : Option Value) : Except Fault (List (Value × Value)) :=
  match options with
  | none => .ok []
  | some v => if v.isTruthy then asMapping v else .ok []

/-- The fault of calling what is no function. A declaration is read first, from an instance that has
no values yet. -/
def callFault : Attribute → Fault
  | .value (.member _) => .noAttribute
  | _ => .wrongType

/-- The fault of reading the attributes of an instance through what is no function. To read a
declaration takes an attribute of the instance, and so on. -/
def readingFault : Attribute → Fault
  | .value (.member _) => .endlessReading
  | _ => .wrongType

def initialValues (u : Universe) (c : Nat) (args options : Option Value) :
    Except Fault (List (Value × Value)) := do
  let bare : Instance := ⟨c, none⟩
  let given ← match args with
    | none => pure []
    | some v => v.asItems
  if let some (_, a) := u.attribute? c readerName then throw (readingFault a)
  let arguments ← (← bare.get u argumentsName).asItems
  if arguments.length < given.length then
    throw (.tooManyArguments (u.get c).shortName arguments.length given.length)
  let values ← bindArguments arguments given []
  let supplied ← suppliedOptions options
  let declared ← bare.get u optionsName
  let known ← declared.asItems
  if !known.all Value.isHashable then throw .wrongType
  match unknownFault? supplied known with
  | some f => throw f
  | none => bindOptions supplied (← declared.asEntries) values

/-- Makes an instance. Where the language looks for a function of its own, nothing else will do. A
class without a constructor takes neither arguments nor options. -/
def instantiate (u : Universe) (c : Nat) (args options : Option Value) : Except Fault Instance :=
  if (u.attribute? c makerName).isSome then .error .wrongType
  else
    match u.attribute? c constructorName with
    | some (_, .computed .constructing) => do
      let values ← initialValues u c args options
      match u.attribute? c setterName with
      | some (_, a) => .error (callFault a)
      | none => return ⟨c, some values⟩
    | some (_, a) => .error (callFault a)
    | none =>
      if args.isSome || options.isSome then .error .wrongType else .ok ⟨c, none⟩

/-- Appends to the list that an attribute of an instance holds. A list in a class body is shared by
all that see it. -/
def appendTo (u : Universe) (i : Instance) (name : String) (item : Value) :
    Except Fault (Universe × Instance) := do
  match ← i.read u name with
  | (.list items, .bound key) =>
    let longer := Value.list (items ++ [item])
    return (u, { i with values := i.values.map (Value.putEntry key longer) })
  | (.list items, .body c name) => return (u.bind c name (.value (.list (items ++ [item]))), i)
  | (v, _) => throw (v.methodFault "append")

end TypeStubs.Scaffold
