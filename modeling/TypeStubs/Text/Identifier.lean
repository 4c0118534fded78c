import TypeStubs.Text.Table.IdentifierStart
import TypeStubs.Text.Table.IdentifierPart

/-!
# Identifiers of the stub language
-/

namespace TypeStubs.Text

open Table

def isIdentifierStart (c : Char) : Bool :=
  if c.toNat < 0x80 then c.isAlpha || c == '_' else identifierStart.contains c

def isIdentifierPart (c : Char) : Bool :=
  if c.toNat < 0x80 then c.isAlphanum || c == '_' else identifierPart.contains c

/-- A start character followed by any number of part characters. -/
def isIdentifier (s : String) : Bool :=
  match s.toList with
  | [] => false
  | c :: cs => isIdentifierStart c && cs.all isIdentifierPart

def keywords : List String :=
  ["False", "None", "True", "and", "as", "assert", "async", "await", "break", "class",
   "continue", "def", "del", "elif", "else", "except", "finally", "for", "from", "global",
   "if", "import", "in", "is", "lambda", "nonlocal", "not", "or", "pass", "raise", "return",
   "try", "while", "with", "yield"]

/-- A name that may follow `def`: an identifier that is not reserved. -/
def isUsableName (s : String) : Bool := isIdentifier s && !keywords.contains s

end TypeStubs.Text
