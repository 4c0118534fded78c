import TypeStubs.Registry.Static

/-!
# Payloads of classes

A payload holds a list of class entries in any order. An entry names its module, the class, its
base, its arguments and its options; bases are linked when all entries are registered.
-/

namespace TypeStubs

namespace Value

/-- The fault of calling a method that plain data do not have. An object may have an attribute of
that name, which then cannot be called. -/
def methodFault (v : Value) (method : String) : Fault :=
  if (v.attribute? method).isSome then .wrongType else .noAttribute

/-- The fault of taking a value that is no text apart at dots. Bytes have pieces too, but no text
is to be found in them. -/
def splitFault : Value → Fault
  | bytes _ => .wrongType
  | v => v.methodFault "split"

/-- The value, or another one if it does not count as true. -/
def orElse (v other : Value) : Value := if v.isTruthy then v else other

def asEntries (v : Value) : Except Fault (List (Value × Value)) :=
  match v with
  | map entries => .ok entries
  | v => .error (v.methodFault "items")

/-- The items one meets in going through a value. -/
def asItems (v : Value) : Except Fault (List Value) :=
  match v.items? with
  | some items => .ok items
  | none => .error .wrongType

end Value

def putOption (name : String) (spec : ArgumentSpec) :
    List (String × ArgumentSpec) → List (String × ArgumentSpec)
  | [] => [(name, spec)]
  | (n, s) :: rest => if n = name then (n, spec) :: rest else (n, s) :: putOption name spec rest

/-- Reads options: each declaration takes the name of its key. -/
def readOptions (entries : List (Value × Value)) :
    Except Fault (List (String × ArgumentSpec)) :=
  entries.foldlM (fun options (key, declaration) => do
    let spec ← ArgumentSpec.ofDeclaration declaration (.text key.plain)
    return putOption key.plain spec options) []

namespace StaticRegistry

/-- Reads the entry of one class, its base left open. -/
def readEntry (entries : List (Value × Value)) : Except Fault SyntheticClass := do
  let get (key : String) : Value := (Value.lookup? (.text key) entries).getD .null
  let items ← ((get "arguments").orElse (.list [])).asItems
  let arguments ← items.mapM fun item => ArgumentSpec.ofDeclaration item .null
  let options ← readOptions (← ((get "options").orElse (.map [])).asEntries)
  return {
    module := ((get "module").orElse (.text "")).plain
    name := (get "name").present?.map Label.ofValue
    base := none
    arguments
    options }

/-- Registers the classes of the entries and remembers the base each one names. -/
def readEntries (items : List Value) : Except Fault (StaticRegistry × List (ClassId × Value)) :=
  items.foldlM (fun (r, pending) item => do
    match item with
    | .map entries =>
      let c ← readEntry entries
      let (r, i) ← r.insert c
      return (r, pending ++ [(i, (Value.lookup? (.text "base") entries).getD .null)])
    | _ => throw .classEntryNotMap) (StaticRegistry.empty, [])

/-- Links a class to the base it names; an empty name links nothing. -/
def link (r : StaticRegistry) (i : ClassId) (base : Value) : Except Fault StaticRegistry :=
  if !base.isTruthy then .ok r
  else
    match r.lookup base.plain with
    | some j => .ok (r.setBase i (some j))
    | none => .error (.unknownBase base.literal (r.get i).described)

def ofPayload (payload : Value) : Except Fault StaticRegistry := do
  match payload with
  | .map entries =>
    match ((Value.lookup? (.text "classes") entries).getD .null).orElse (.list []) with
    | .list items =>
      let (r, pending) ← readEntries items
      pending.foldlM (fun r (i, base) => r.link i base) r
    | _ => throw .classesNotList
  | v => throw (v.methodFault "get")

end StaticRegistry

end TypeStubs
