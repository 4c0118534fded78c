import TypeStubs.Fault
import TypeStubs.Pattern.Matcher
import TypeStubs.Pattern.Reader

/-!
# Built-in namespaces

A namespace is a test on qualified names together with the text it was given by.
-/

namespace TypeStubs

namespace Pattern.Malformed

/-- The fault of a pattern that cannot be read. -/
def fault : Malformed → Fault
  | invalid => .invalidPattern
  | countTooLarge => .countTooLarge
  | numeralTooLong digits => .numeralTooLong digits
  | clashingModes => .clashingModes

end Pattern.Malformed

/-- What makes a regular expression of a text: the test whether it is found in another text, or the
fault of a text that cannot be made one. -/
abbrev PatternCompiler := String → Except Fault (String → Bool)

/-- Compiles patterns in which characters may be given by the names that `named` knows. -/
def Pattern.compile (named : String → Option Nat) : PatternCompiler := fun source =>
  match read named source with
  | .ok node => .ok node.search
  | .error m => .error m.fault

/-- A set of qualified names. -/
structure Namespace where
  source : String
  holds : String → Bool

namespace Namespace

/-- The names in which a regular expression is found. -/
def ofPattern (compile : PatternCompiler) (source : String) : Except Fault Namespace :=
  (compile source).map (⟨source, ·⟩)

/-- The namespace of the generators that come with the scaffold. -/
def scaffold : String := "^genstubs\\.scaffold\\."

end Namespace

end TypeStubs
