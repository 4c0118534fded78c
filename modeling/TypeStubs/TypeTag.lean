import TypeStubs.Text.Blank
import TypeStubs.Text.Case

/-!
# Declared types of members
-/

namespace TypeStubs

/-- The declared type of a generator argument or option. -/
inductive TypeTag where
  | array
  | boolean
  | hash
  | numeric
  | string
  | other
  deriving DecidableEq, Repr

namespace TypeTag

def all : List TypeTag := [array, boolean, hash, numeric, string, other]

/-- The word by which declarations name the tag. -/
def word : TypeTag → String
  | array => "array"
  | boolean => "boolean"
  | hash => "hash"
  | numeric => "numeric"
  | string => "string"
  | other => "other"

def constantName : TypeTag → String
  | array => "ARRAY"
  | boolean => "BOOLEAN"
  | hash => "HASH"
  | numeric => "NUMERIC"
  | string => "STRING"
  | other => "OTHER"

/-- The tag a text names, whatever its case and the blanks around it; any other text means
`other`. -/
def ofText (s : String) : TypeTag :=
  let w := Text.lower (Text.strip s)
  (all.find? fun t => t.word == w).getD other

end TypeTag

end TypeStubs
