import TypeStubs.Value.Basic

/-!
# Declaring members

An argument without a default is required unless it says otherwise; an option is not. A member
without a type takes the one of its default.
-/

namespace TypeStubs.Scaffold

/-- The type that a default suggests, as a word or as null. -/
def suggestedType : Option Value → Value
  | some (.bool _) => .text TypeTag.boolean.word
  | some (.int _) | some (.float _) => .text TypeTag.numeric.word
  | some (.list _) | some (.tuple _) => .text TypeTag.array.word
  | some (.map _) => .text TypeTag.hash.word
  | some (.text _) | some (.tag _) => .text TypeTag.string.word
  | _ => .null

/-- Declares a member. A null type or a null requirement is as good as none. -/
def declare (kind : MemberKind) (type required : Value) (default : Option Value) : Declaration where
  kind
  name := none
  type := if type.isNull then suggestedType default else type
  required :=
    if required.isNull then
      match kind with
      | .argument => default.isNone
      | .option => false
    else required.isTruthy
  default

end TypeStubs.Scaffold
