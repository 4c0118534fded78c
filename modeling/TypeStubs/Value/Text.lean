import TypeStubs.Decimal.Shortest
import TypeStubs.Text.Quoted
import TypeStubs.Value.Basic

/-!
# The text of values

A value has a literal form, in which texts are quoted, and a plain form, which differs from it for
texts and tags alone.
-/

namespace TypeStubs

open Text

def truthText (b : Bool) : String := if b then "True" else "False"

/-- The parts with a comma and a blank between them. -/
def commaSeparated (parts : List String) : String := String.intercalate ", " parts

namespace TypeTag

def memberText (t : TypeTag) : String := "TypeTag." ++ t.constantName

end TypeTag

namespace Declared

/-- The name of a declaration as it is shown. -/
def nameText (name : Option String) : String :=
  match name with
  | none => "None"
  | some n => quoted n

/-- The literal form of a declaration, given those of its type and of its default. -/
def shown (kind : MemberKind) (name : Option String) (type : String) (required : Bool)
    (default : String) : String :=
  kind.title ++ "(" ++ nameText name ++ ", type=" ++ type ++ ", required=" ++ truthText required ++
    default ++ ")"

end Declared

namespace Value

mutual

def literal : Value → String
  | null => "None"
  | bool b => truthText b
  | int i => toString i
  | float d => d.text
  | text s => quoted s
  | bytes bs => quotedBytes bs
  | list items => "[" ++ commaSeparated (literals items) ++ "]"
  | tuple items =>
    match literals items with
    | [one] => "(" ++ one ++ ",)"
    | parts => "(" ++ commaSeparated parts ++ ")"
  | map entries => "\x7b" ++ commaSeparated (literalEntries entries) ++ "\x7d"
  | tag t => "<" ++ t.memberText ++ ": " ++ quoted t.word ++ ">"
  | object label _ => "<" ++ label ++ ">"
  | member ⟨kind, name, type, required, default⟩ =>
    Declared.shown kind name type.literal required (defaultLiteral default)

def literals : List Value → List String
  | [] => []
  | v :: vs => literal v :: literals vs

def literalEntries : List (Value × Value) → List String
  | [] => []
  | (k, v) :: rest => (literal k ++ ": " ++ literal v) :: literalEntries rest

/-- The part of a declaration that shows its default. -/
def defaultLiteral : Option Value → String
  | none => ""
  | some v => ", default=" ++ literal v

end

def plain : Value → String
  | text s => s
  | tag t => t.memberText
  | v => v.literal

end Value

end TypeStubs
