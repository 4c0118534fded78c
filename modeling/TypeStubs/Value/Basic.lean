import TypeStubs.Decimal.Double
import TypeStubs.TypeTag

/-!
# Values

Declarations, defaults and call arguments are dynamic data. Besides plain data there are type
tags, declarations of members, and labelled objects of which only the attributes are known.
-/

namespace TypeStubs

open Decimal

/-- The two kinds of generator members. -/
inductive MemberKind where
  | argument
  | option
  deriving DecidableEq, Repr

def MemberKind.word : MemberKind → String
  | argument => "argument"
  | option => "option"

/-- The name under which a kind of member is declared. -/
def MemberKind.title : MemberKind → String
  | argument => "Argument"
  | option => "Option"

/-- A member declared in a class body. It has no name until it is attached to a class. -/
structure Declared (α : Type) where
  kind : MemberKind
  name : Option String
  type : α
  required : Bool
  default : Option α

/-- A dynamic value. The entries of a map have pairwise different keys. -/
inductive Value where
  | null
  | bool (b : Bool)
  | int (i : Int)
  | float (d : Double)
  | text (s : String)
  | bytes (bs : List UInt8)
  | list (items : List Value)
  | tuple (items : List Value)
  | map (entries : List (Value × Value))
  | tag (t : TypeTag)
  | object (label : String) (attributes : List (String × Value))
  | member (d : Declared Value)

abbrev Declaration := Declared Value

namespace Value

instance : Inhabited Value := ⟨.null⟩

/-- Does the value count as true? Null, zeros and everything empty do not. -/
def isTruthy : Value → Bool
  | null => false
  | bool b => b
  | int i => i != 0
  | float d => !d.isZero
  | text s => !s.isEmpty
  | bytes bs => !bs.isEmpty
  | list items => !items.isEmpty
  | tuple items => !items.isEmpty
  | map entries => !entries.isEmpty
  | tag _ | object _ _ | member _ => true

def isNull : Value → Bool
  | null => true
  | _ => false

/-- A null value as the absence of one. -/
def present? : Value → Option Value
  | null => none
  | v => some v

/-- The characters of a value that is a text; a tag is the text of its word. -/
def text? : Value → Option String
  | text s => some s
  | tag t => some t.word
  | _ => none

/-- The number a value stands for: the truth values are one and zero. -/
def number? : Value → Option (Int ⊕ Double)
  | bool b => some (.inl (if b then 1 else 0))
  | int i => some (.inl i)
  | float d => some (match d.toInt? with | some i => .inl i | none => .inr d)
  | _ => none

def sameNumber : Int ⊕ Double → Int ⊕ Double → Bool
  | .inl i, .inl j => i == j
  | .inr d, .inr e => d.equal e
  | _, _ => false

mutual

/-- Equality of values as keys of a map: numbers by value, texts by their characters, tuples item
by item. Objects and declarations are equal to nothing. -/
def sameKey : Value → Value → Bool
  | null, null => true
  | bytes a, bytes b => a == b
  | tuple a, tuple b => sameKeys a b
  | a, b =>
    match a.number?, b.number? with
    | some x, some y => sameNumber x y
    | _, _ =>
      match a.text?, b.text? with
      | some s, some t => s == t
      | _, _ => false

def sameKeys : List Value → List Value → Bool
  | [], [] => true
  | a :: as, b :: bs => sameKey a b && sameKeys as bs
  | _, _ => false

end

mutual

/-- Values that may be keys: lists and maps may not, nor may a tuple that holds one. -/
def isHashable : Value → Bool
  | list _ | map _ => false
  | tuple items => areHashable items
  | _ => true

def areHashable : List Value → Bool
  | [] => true
  | v :: vs => isHashable v && areHashable vs

end

/-- Does an attribute of an object stand in the way of copying it? Copying calls what the object has
under these names, and data cannot be called. Null counts as nothing under the first two. -/
def blocksCopy (name : String) (v : Value) : Bool :=
  match name with
  | "__deepcopy__" | "__reduce_ex__" => !v.isNull
  | name => name == "__getstate__"

mutual

/-- Can a value be copied with all that is in it? -/
def isCopyable : Value → Bool
  | list items | tuple items => areCopyable items
  | map entries => areEntriesCopyable entries
  | object _ attributes => areAttributesCopyable attributes
  | member ⟨_, _, type, _, default⟩ => isCopyable type && isDefaultCopyable default
  | _ => true

def areCopyable : List Value → Bool
  | [] => true
  | v :: vs => isCopyable v && areCopyable vs

def areEntriesCopyable : List (Value × Value) → Bool
  | [] => true
  | (k, v) :: rest => isCopyable k && isCopyable v && areEntriesCopyable rest

def areAttributesCopyable : List (String × Value) → Bool
  | [] => true
  | (name, v) :: rest => !blocksCopy name v && isCopyable v && areAttributesCopyable rest

def isDefaultCopyable : Option Value → Bool
  | none => true
  | some v => isCopyable v

end

/-- The items one meets in going through a value: keys of a map, characters of a text, numbers of
bytes. -/
def items? : Value → Option (List Value)
  | text s => some (s.toList.map fun c => .text (String.singleton c))
  | tag t => some (t.word.toList.map fun c => .text (String.singleton c))
  | bytes bs => some (bs.map fun b => .int b.toNat)
  | list items => some items
  | tuple items => some items
  | map entries => some (entries.map Prod.fst)
  | _ => none

/-- The first entry of a sequence that is paired with a name. -/
def named? (key : String) : List (String × Value) → Option Value
  | [] => none
  | (k, v) :: rest => if k == key then some v else named? key rest

def lookup? (key : Value) : List (Value × Value) → Option Value
  | [] => none
  | (k, v) :: rest => if sameKey k key then some v else lookup? key rest

/-- Puts an entry into a map: under a key that is there it replaces the value, a new key comes
last. -/
def putEntry (key value : Value) : List (Value × Value) → List (Value × Value)
  | [] => [(key, value)]
  | (k, v) :: rest =>
    if sameKey k key then (k, value) :: rest else (k, v) :: putEntry key value rest

def entriesOf (pairs : List (Value × Value)) : List (Value × Value) :=
  pairs.foldl (fun entries p => putEntry p.1 p.2 entries) []

end Value

end TypeStubs
