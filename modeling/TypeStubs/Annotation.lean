import TypeStubs.Spec

/-!
# Accessor types
-/

namespace TypeStubs

/-- The return type of a generated accessor. -/
structure Annotation where
  base : String
  nilable : Bool
  deriving DecidableEq, Repr

namespace Annotation

/-- The type as it is written. -/
def render (a : Annotation) : String :=
  if a.nilable then "Optional[" ++ a.base ++ "]" else a.base

/-- The names the type needs from the typing module, in alphabetical order. -/
def typingNames (a : Annotation) : List String :=
  (if a.base = "Any" then ["Any"] else []) ++ (if a.nilable then ["Optional"] else [])

end Annotation

/-- The type that stands for a tag. -/
def TypeTag.accessorBase : TypeTag → String
  | array => "list[str]"
  | boolean => "bool"
  | hash => "dict[str, str]"
  | numeric => "float"
  | string => "str"
  | other => "Any"

/-- The accessor type of a member. A member that is neither required nor defaulted may be unset,
so its type is nilable whatever its tag. -/
def ArgumentSpec.accessorType (spec : ArgumentSpec) : Annotation where
  base := spec.type.accessorBase
  nilable := !(spec.required || spec.hasDefault)

end TypeStubs
