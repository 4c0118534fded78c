import TypeStubs.Log
import TypeStubs.StubTree

/-!
# Work on a tree

Compilers share one tree and change it step by step. What was done before a fault stays done, in
the tree as in the log.
-/

namespace TypeStubs

/-- A tree under construction, with a log of the work. -/
structure Workbench where
  tree : StubTree
  log : Array Record

/-- Work on a tree that may fail. -/
abbrev TreeWork := ExceptT Fault (StateM Workbench)

namespace TreeWork

variable {α : Type}

/-- The outcome of work, and the bench as the work left it. -/
def perform (work : TreeWork α) (w : Workbench) : Except Fault α × Workbench := work.run.run w

/-- Work that neither changes the tree nor logs. -/
def ofExcept (r : Except Fault α) : TreeWork α := ExceptT.mk (pure r)

def reads (x : Reading α) : TreeWork α := do
  modify fun (w : Workbench) => { w with log := w.log ++ x.log }
  ofExcept x.outcome

def note (level : Level) (logger message : String) : TreeWork Unit :=
  reads (Reading.note level logger message)

def changes (f : StubTree → StubTree) : TreeWork Unit := modify fun w => { w with tree := f w.tree }

/-- Sets an accessor of the class at a site. -/
def setAccessor (s : Site) (name : String) (type : Annotation) : TreeWork Unit :=
  changes fun t => t.change s fun node => node.setAccessor name type

/-- Carries out work on a tree. The tree comes back as the work left it, whatever the outcome. -/
def on (work : TreeWork α) (t : StubTree) : Attempt (Except Fault α × StubTree) := do
  let log ← get
  let (outcome, w) := work.perform ⟨t, log⟩
  set w.log
  return (outcome, w.tree)

end TreeWork

end TypeStubs
