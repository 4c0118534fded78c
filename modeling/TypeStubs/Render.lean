import TypeStubs.Log
import TypeStubs.Placement
import TypeStubs.StubTree
import TypeStubs.Text.Identifier

/-!
# Stub files

A module is written as the header, one import of typing names if any is needed, and its classes in
the order of their names. Accessors whose names cannot follow `def` are left out.
-/

namespace TypeStubs

open Text

/-- The first line of every generated file. -/
def header : String :=
  "# Generated by genstubs. Do not edit by hand; run \x60genstubs generate\x60."

def renderLogger : String := "stubs.render"

def indentation (depth : Nat) : String := String.ofList (List.replicate (4 * depth) ' ')

/-- Puts a named item in front of the first one whose name does not come before its own. -/
def insertByName {α : Type} (item : String × α) : List (String × α) → List (String × α)
  | [] => [item]
  | other :: rest =>
    if item.1 ≤ other.1 then item :: other :: rest else other :: insertByName item rest

namespace Accessor

def isWritable (a : Accessor) : Bool := isUsableName a.name

def lines (depth : Nat) (a : Accessor) : List String :=
  [indentation depth ++ "@property",
   indentation depth ++ "def " ++ a.name ++ "(self) -> " ++ a.type.render ++ ": ..."]

end Accessor

namespace ClassNode

mutual

def lines (depth : Nat) : ClassNode → List String
  | ⟨name, accessors, children⟩ =>
    let body :=
      (accessors.filter (·.isWritable)).flatMap (Accessor.lines (depth + 1)) ++
        (sortedLines (depth + 1) children).flatMap Prod.snd
    (indentation depth ++ "class " ++ name ++ ":") ::
      (if body.isEmpty then [indentation (depth + 1) ++ "..."] else body)

/-- The lines of several classes, in the order of the classes' names. -/
def sortedLines (depth : Nat) : List ClassNode → List (String × List String)
  | [] => []
  | n :: rest => insertByName (n.name, lines depth n) (sortedLines depth rest)

end

mutual

/-- The accessors that are left out, each with the name of its class, in the order of writing. -/
def skipped : ClassNode → List (String × String)
  | ⟨name, accessors, children⟩ =>
    ((accessors.filter (!·.isWritable)).map fun a => (a.name, name)) ++
      (sortedSkipped children).flatMap Prod.snd

/-- The accessors left out of several classes, in the order of the classes' names. -/
def sortedSkipped : List ClassNode → List (String × List (String × String))
  | [] => []
  | n :: rest => insertByName (n.name, skipped n) (sortedSkipped rest)

end

mutual

/-- The accessors that are written, at any depth. -/
def written : ClassNode → List Accessor
  | ⟨_, accessors, children⟩ => accessors.filter (·.isWritable) ++ writtenAmong children

def writtenAmong : List ClassNode → List Accessor
  | [] => []
  | n :: rest => written n ++ writtenAmong rest

end

end ClassNode

namespace ModuleNode

/-- The typing names a module needs, in alphabetical order. -/
def typingNames (m : ModuleNode) : List String :=
  let used := (ClassNode.writtenAmong m.classes).flatMap (·.type.typingNames)
  ["Any", "Optional"].filter used.contains

def lines (m : ModuleNode) : List String :=
  let names := m.typingNames
  [header] ++
    (if names.isEmpty then []
      else ["", "from typing import " ++ String.intercalate ", " names]) ++
    (ClassNode.sortedLines 0 m.classes).flatMap fun c => ["", ""] ++ c.2

/-- The text of a module; its last line is ended too. -/
def text (m : ModuleNode) : String := String.intercalate "\n" m.lines ++ "\n"

/-- The message for an accessor that is left out. -/
def skipMessage (accessor owner : String) : String :=
  "Skipping accessor " ++ quoted accessor ++ " on " ++ owner ++ ": not a valid Python identifier"

/-- Renders a module and logs the accessors that are left out. -/
def render (m : ModuleNode) : Logged String := do
  for (accessor, owner) in (ClassNode.sortedSkipped m.classes).flatMap Prod.snd do
    note .warning renderLogger (skipMessage accessor owner)
  return m.text

end ModuleNode

/-- Files by path, in the order in which their paths first came up. -/
abbrev Files := List (Path × String)

/-- Puts a file among others: a path that is there gets the new text. -/
def Files.put (path : Path) (text : String) : Files → Files
  | [] => [(path, text)]
  | (p, t) :: rest => if p = path then (p, text) :: rest else (p, t) :: Files.put path text rest

def Files.sorted (files : Files) : Files := files.mergeSort fun a b => a.1.le b.1

namespace StubTree

/-- Is another module of the tree below this one? -/
def isPackage (t : StubTree) (name : String) : Bool :=
  t.modules.any fun m => startsWith (name ++ ".") m.name

/-- Renders every module. A module with another one below it is placed as a package. -/
def render (t : StubTree) : Attempt Files :=
  t.sortedModules.foldlM (fun files m => do
    let path ← Attempt.ofExcept (stubPath m.name (t.isPackage m.name))
    let text ← m.render
    return Files.put path text files) []

end StubTree

end TypeStubs
