import TypeStubs.Value.Basic

/-!
# Problems of a request

A request is checked as a whole: every part that has the wrong shape is a problem of its own.
-/

namespace TypeStubs.Service

/-- A step on the way to a part of a request. -/
inductive Place where
  | entry (name : String)
  | item (index : Nat)
  deriving DecidableEq, Repr

/-- What is wrong with a part of a request. -/
inductive ProblemKind where
  | missing
  | notJson
  | notText
  | notList
  | notMap
  /-- Something that has no fields. -/
  | notRecord
  deriving DecidableEq, Repr

namespace ProblemKind

def word : ProblemKind → String
  | missing => "missing"
  | notJson => "json_invalid"
  | notText => "string_type"
  | notList => "list_type"
  | notMap => "dict_type"
  | notRecord => "model_attributes_type"

def message : ProblemKind → String
  | missing => "Field required"
  | notJson => "JSON decode error"
  | notText => "Input should be a valid string"
  | notList => "Input should be a valid list"
  | notMap => "Input should be a valid dictionary"
  | notRecord => "Input should be a valid dictionary or object to extract fields from"

end ProblemKind

/-- A problem with the way to the part that has it. -/
structure Problem where
  kind : ProblemKind
  place : List Place
  deriving DecidableEq, Repr

/-- The outcome of a check: a result, or all the problems found. -/
abbrev Checked (α : Type) := Except (List Problem) α

namespace Checked

def problem {α : Type} (kind : ProblemKind) (place : List Place) : Checked α :=
  .error [⟨kind, place⟩]

/-- Applies one result to another. The problems of both are kept. -/
def apply {α β : Type} (f : Checked (α → β)) (a : Checked α) : Checked β :=
  match f, a with
  | .ok f, .ok a => .ok (f a)
  | .error ps, .ok _ => .error ps
  | .ok _, .error qs => .error qs
  | .error ps, .error qs => .error (ps ++ qs)

/-- The results of checks one after another, or the problems of all of them. -/
def all {α : Type} : List (Checked α) → Checked (List α)
  | [] => .ok []
  | c :: cs => apply (c.map List.cons) (all cs)

end Checked

end TypeStubs.Service
