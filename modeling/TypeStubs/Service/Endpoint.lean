import TypeStubs.Json.Reader
import TypeStubs.Service.Answer

/-!
# The endpoints of the service

What comes in is routed by its method and its path. The body of a request for stubs has to be a JSON
document of the right shape.
-/

namespace TypeStubs.Service

/-- A check of a part of a request that stands at a place. -/
abbrev Check (α : Type) := List Place → Value → Checked α

namespace Check

def text : Check String := fun place v =>
  match v with
  | .text s => .ok s
  | _ => .problem .notText place

def textOrNull : Check (Option String) := fun place v =>
  match v with
  | .null => .ok none
  | v => (text place v).map some

def map : Check (List (Value × Value)) := fun place v =>
  match v with
  | .map entries => .ok entries
  | _ => .problem .notMap place

def items {α : Type} (check : Check α) (place : List Place) (index : Nat) :
    List Value → List (Checked α)
  | [] => []
  | v :: vs => check (place ++ [.item index]) v :: items check place (index + 1) vs

def list {α : Type} (check : Check α) : Check (List α) := fun place v =>
  match v with
  | .list vs => .all (items check place 0 vs)
  | _ => .problem .notList place

def keyText (k : Value) : String := (k.text?).getD ""

def mapOf {α : Type} (check : Check α) : Check (List (String × α)) := fun place v =>
  match v with
  | .map entries =>
    .all (entries.map fun e =>
      (check (place ++ [.entry (keyText e.1)]) e.2).map fun a => (keyText e.1, a))
  | _ => .problem .notMap place

/-- A field that must be there. -/
def required {α : Type} (check : Check α) (name : String) (entries : List (Value × Value))
    (place : List Place) : Checked α :=
  match Value.lookup? (.text name) entries with
  | some v => check (place ++ [.entry name]) v
  | none => .problem .missing (place ++ [.entry name])

def optional {α : Type} (check : Check α) (default : α) (name : String)
    (entries : List (Value × Value)) (place : List Place) : Checked α :=
  match Value.lookup? (.text name) entries with
  | some v => check (place ++ [.entry name]) v
  | none => .ok default

def record {α : Type} (fields : List (Value × Value) → List Place → Checked α) : Check α :=
  fun place v =>
    match v with
    | .map entries => fields entries place
    | _ => .problem .notRecord place

end Check

/-- Checks the entry of a class. -/
def ClassEntry.check : Check ClassEntry := Check.record fun entries place =>
  let name := Check.optional Check.textOrNull none "name" entries place
  let base := Check.optional Check.textOrNull none "base" entries place
  let arguments := Check.optional (Check.list Check.map) [] "arguments" entries place
  let options := Check.optional (Check.mapOf Check.map) [] "options" entries place
  let module := Check.required Check.text "module" entries place
  let named := Checked.apply (Checked.apply (module.map ClassEntry.mk) name) base
  Checked.apply (Checked.apply named arguments) options

def StubRequest.check : Check StubRequest := Check.record fun entries place =>
  let root := Check.optional Check.textOrNull none "root_class" entries place
  let namespaces := Check.optional (Check.list Check.text) [] "builtin_namespaces" entries place
  let classes := Check.required (Check.list ClassEntry.check) "classes" entries place
  Checked.apply (Checked.apply (classes.map StubRequest.mk) root) namespaces

/-- Where the body of a request is in it. -/
def bodyPlace : List Place := [.entry "body"]

/-- A text without a byte order mark. -/
def withoutMark (s : String) : String :=
  match s.toList with
  | c :: cs => if c.toNat = 0xFEFF then String.ofList cs else s
  | [] => s

/-- Reads the body of a request, which may be absent. -/
def readBody (body : Option String) : Checked StubRequest :=
  let text := body.getD ""
  if text.isEmpty then .problem .missing bodyPlace
  else
    match Json.read (withoutMark text) with
    | .error e => .problem .notJson (bodyPlace ++ [.item e.position])
    | .ok v => StubRequest.check bodyPlace v

/-- What can be asked of the service. -/
inductive Route where
  | health
  | generate
  deriving DecidableEq, Repr

namespace Route

def path : Route → String
  | health => "/health"
  | generate => "/generate"

def method : Route → String
  | health => "GET"
  | generate => "POST"

/-- The route of a path. Slashes at its end and what follows a question mark do not count. -/
def ofPath? (path : String) : Option Route :=
  let cs := path.toList.takeWhile fun c => c != '?' && c != '#'
  let trimmed := String.ofList (cs.reverse.dropWhile (· == '/')).reverse
  let anchored := if Text.startsWith "/" trimmed then trimmed else "/" ++ trimmed
  [health, generate].find? fun r => r.path = anchored

end Route

def answer (compile : PatternCompiler) (method path : String) (body : Option String) :
    Attempt Answer :=
  match Route.ofPath? path with
  | none => pure .notFound
  | some route =>
    if method != route.method then pure .notAllowed
    else
      match route with
      | .health => pure .healthy
      | .generate => answerBody readBody compile body

end TypeStubs.Service
