/-!
# Tokens of patterns

A backslash and the character after it are one token.
-/

namespace TypeStubs.Pattern

/-- A character of a pattern, or an escaped one. -/
inductive Token where
  | plain (c : Char)
  | escaped (c : Char)
  deriving DecidableEq, Repr

/-- The tokens of a pattern; a backslash at its end escapes nothing. -/
def tokens? : List Char → Option (List Token)
  | [] => some []
  | c :: cs =>
    if c.toNat = 0x5C then
      match cs with
      | [] => none
      | d :: ds => (tokens? ds).map (.escaped d :: ·)
    else (tokens? cs).map (.plain c :: ·)

end TypeStubs.Pattern
