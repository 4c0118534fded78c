/-!
# Tokens of YAML

Indentation has become tokens of its own: block collections start and end like flow collections.
-/

namespace TypeStubs.Yaml

inductive Directive where
  | version (major : Nat)
  | tag (handle expansion : String)
  | other
  deriving DecidableEq, Repr

inductive Token where
  | streamEnd
  | directive (d : Directive)
  | documentStart
  | documentEnd
  | blockSequenceStart
  | blockMappingStart
  | blockEnd
  | flowSequenceStart
  | flowSequenceEnd
  | flowMappingStart
  | flowMappingEnd
  | item
  | comma
  | key
  | value
  | alias (name : String)
  | anchor (name : String)
  | tag (handle : Option String) (suffix : String)
  | scalar (text : String) (plain : Bool)
  deriving DecidableEq, Repr

end TypeStubs.Yaml
