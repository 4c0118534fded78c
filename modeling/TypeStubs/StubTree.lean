import TypeStubs.Annotation
import TypeStubs.Text.Split

/-!
# The tree of stubs

Modules hold classes, classes hold accessors and nested classes. Everything is kept in the order
in which it was first created, and names are unique among siblings.
-/

namespace TypeStubs

/-- An accessor without arguments. -/
structure Accessor where
  name : String
  type : Annotation
  deriving DecidableEq, Repr

/-- The generated body of one class. -/
structure ClassNode where
  name : String
  accessors : List Accessor
  children : List ClassNode
  deriving Repr

namespace ClassNode

/-- A class without a body. -/
def bare (name : String) : ClassNode := ⟨name, [], []⟩

/-- Sets an accessor in a list: one of the same name is replaced where it stands. -/
def putAccessor (a : Accessor) : List Accessor → List Accessor
  | [] => [a]
  | b :: rest => if b.name = a.name then a :: rest else b :: putAccessor a rest

def setAccessor (node : ClassNode) (name : String) (type : Annotation) : ClassNode :=
  { node with accessors := putAccessor ⟨name, type⟩ node.accessors }

/-- Changes the class of a name among siblings, which is created if it is not there. -/
def editAmong (change : ClassNode → ClassNode) (name : String) : List ClassNode → List ClassNode
  | [] => [change (bare name)]
  | n :: rest => if n.name = name then change n :: rest else n :: editAmong change name rest

/-- Changes the class at a path below a class; classes on the way are created. -/
def editAt (change : ClassNode → ClassNode) : List String → ClassNode → ClassNode
  | [], node => change node
  | s :: path, node => { node with children := editAmong (editAt change path) s node.children }

def among? (name : String) (nodes : List ClassNode) : Option ClassNode :=
  nodes.find? fun n => n.name == name

def at? : List String → ClassNode → Option ClassNode
  | [], node => some node
  | s :: path, node => (among? s node.children).bind (at? path)

mutual

/-- Is there no accessor in the class nor in any class nested in it? -/
def isEmpty : ClassNode → Bool
  | ⟨_, accessors, children⟩ => accessors.isEmpty && areEmpty children

def areEmpty : List ClassNode → Bool
  | [] => true
  | n :: rest => isEmpty n && areEmpty rest

end

end ClassNode

/-- The generated classes of one module. -/
structure ModuleNode where
  name : String
  classes : List ClassNode
  deriving Repr

/-- The place of a class: its module, the outermost class on the way to it, and the names that
lead on from there. -/
structure Site where
  module : String
  head : String
  nested : List String
  deriving DecidableEq, Repr

namespace Site

def path (s : Site) : List String := s.head :: s.nested

/-- The site that a dotted path leads to. -/
def ofPath (module path : String) : Site :=
  match Text.segments path with
  | [] => ⟨module, path, []⟩
  | head :: nested => ⟨module, head, nested⟩

end Site

structure StubTree where
  modules : List ModuleNode
  deriving Repr

namespace StubTree

/-- The tree without modules. -/
def empty : StubTree := ⟨[]⟩

def size (t : StubTree) : Nat := t.modules.length

/-- Changes the classes of a module, which is created if it is not there. -/
def editModule (change : List ClassNode → List ClassNode) (name : String) :
    List ModuleNode → List ModuleNode
  | [] => [⟨name, change []⟩]
  | m :: rest =>
    if m.name = name then ⟨m.name, change m.classes⟩ :: rest
    else m :: editModule change name rest

/-- Creates a module unless it is there. -/
def openModule (t : StubTree) (module : String) : StubTree := ⟨editModule id module t.modules⟩

/-- Changes the class at a site; the module and the classes on the way are created. -/
def change (t : StubTree) (s : Site) (f : ClassNode → ClassNode) : StubTree :=
  ⟨editModule (ClassNode.editAmong (ClassNode.editAt f s.nested) s.head) s.module t.modules⟩

/-- Changes the class at a path of a module, which must name a class. -/
def edit (t : StubTree) (module path : String) (f : ClassNode → ClassNode) :
    Except Fault StubTree :=
  if path.isEmpty then .error .emptyClassPath else .ok (t.change (.ofPath module path) f)

/-- Creates a class at a path unless it is there. -/
def createPath (t : StubTree) (module path : String) : Except Fault StubTree :=
  t.edit module path id

def module? (t : StubTree) (name : String) : Option ModuleNode :=
  t.modules.find? fun m => m.name == name

def at? (t : StubTree) (s : Site) : Option ClassNode :=
  (t.module? s.module).bind fun m =>
    (ClassNode.among? s.head m.classes).bind (ClassNode.at? s.nested)

def get? (t : StubTree) (module path : String) : Option ClassNode := t.at? (.ofPath module path)

def sortedModules (t : StubTree) : List ModuleNode :=
  t.modules.mergeSort fun a b => a.name ≤ b.name

end StubTree

end TypeStubs
