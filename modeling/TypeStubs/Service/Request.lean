import TypeStubs.Value.Basic

/-!
# Requests for stubs

A request lists classes with their declarations, and may give settings for the compiler.
-/

namespace TypeStubs.Service

structure ClassEntry where
  module : String
  name : Option String
  base : Option String
  arguments : List (List (Value × Value))
  options : List (String × List (Value × Value))

structure StubRequest where
  classes : List ClassEntry
  rootClass : Option String
  builtinNamespaces : List String

namespace ClassEntry

def optionalText (s : Option String) : Value := (s.map Value.text).getD .null

def toValue (c : ClassEntry) : Value :=
  .map [(.text "module", .text c.module), (.text "name", optionalText c.name),
    (.text "base", optionalText c.base),
    (.text "arguments", .list (c.arguments.map Value.map)),
    (.text "options", .map (c.options.map fun o => (.text o.1, .map o.2)))]

end ClassEntry

namespace StubRequest

def payload (r : StubRequest) : Value :=
  .map [(.text "classes", .list (r.classes.map ClassEntry.toValue))]

end StubRequest

end TypeStubs.Service
