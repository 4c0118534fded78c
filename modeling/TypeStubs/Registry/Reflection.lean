import TypeStubs.Log
import TypeStubs.Spec
import TypeStubs.Text.Split

/-!
# Reflection over classes

Compilers see a universe of classes through a fixed set of questions. What a class is differs from
one universe to another.
-/

namespace TypeStubs

/-- A name of a class. Payloads may give values that are no texts. -/
inductive Label where
  | text (s : String)
  | other (v : Value)

namespace Label

def ofValue : Value → Label
  | .text s => .text s
  | v => .other v

def value : Label → Value
  | text s => .text s
  | other v => v

def plain (l : Label) : String := l.value.plain

def text? (l : Label) : Option String := l.value.text?

end Label

/-- What can be asked about the classes of a universe. -/
structure Reflection (C : Type) where
  /-- Every class, named or not. -/
  allClasses : List C
  /-- The module and the path of a class joined by a dot; classes without a stable name have
  none. -/
  name : C → Option Label
  /-- The module that owns a class. -/
  moduleOf : C → String
  /-- The ancestors, nearest first, without the class itself. -/
  ancestors : C → Except Fault (List C)
  /-- Strict inheritance. -/
  isSubtype : C → C → Except Fault Bool
  /-- The positional arguments in the order of their declaration. -/
  arguments : C → Reading (List ArgumentSpec)
  /-- The options by name, in order. -/
  options : C → Reading (List (String × ArgumentSpec))
  /-- The class of a qualified name. -/
  lookup : String → Option C
  /-- The class as it is shown when it has no name. -/
  shown : C → String

namespace Reflection

variable {C : Type}

/-- The path of a class in its module: its qualified name without the module in front. -/
def classPath (r : Reflection C) (c : C) : Option Label :=
  (r.name c).map fun name =>
    let module := r.moduleOf c
    match name with
    | .text s =>
      if module.isEmpty then .text s else .text ((Text.afterStart? (module ++ ".") s).getD s)
    | l => l

/-- The class in messages: its qualified name, or else how it is shown. -/
def described (r : Reflection C) (c : C) : String :=
  match r.name c with
  | some l => if l.value.isTruthy then l.plain else r.shown c
  | none => r.shown c

end Reflection

end TypeStubs
