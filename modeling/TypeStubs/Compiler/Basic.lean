import TypeStubs.Compiler.Generators

/-!
# Compilers

A compiler picks candidates among the classes of a universe and puts their members into the tree.
A candidate it cannot process is reported and does not keep the others from being processed.
-/

namespace TypeStubs

/-- A compiler that comes with a plugin. A run knows its name, the classes it takes and what it does
to the tree for each of them. -/
structure PluginCompiler (C : Type) where
  className : String
  name : String
  candidates : Reflection C → Attempt (List C)
  process : Reflection C → C → TreeWork Unit

inductive Compiler (C : Type) where
  | generators (g : GeneratorCompiler)
  | plugin (p : PluginCompiler C)

namespace Compiler

variable {C : Type}

def className : Compiler C → String
  | generators _ => "GeneratorCompiler"
  | plugin p => p.className

/-- The name of a compiler, which may be empty. -/
def name : Compiler C → String
  | generators _ => GeneratorCompiler.name
  | plugin p => p.name

def title (k : Compiler C) : String := if k.name.isEmpty then k.className else k.name

variable (r : Reflection C)

def candidates : Compiler C → Attempt (List C)
  | generators g => g.candidates r
  | plugin p => p.candidates r

/-- Puts the members of a candidate into the tree. -/
def process (c : C) : Compiler C → TreeWork Unit
  | generators g => g.process r c
  | plugin p => p.process r c

end Compiler

/-- A candidate that a compiler could not process. -/
structure Failure where
  compiler : String
  className : String
  message : String
  deriving DecidableEq, Repr

def runLogger : String := "orchestrator"

/-- A tree with the failures met in building it. -/
structure Build where
  tree : StubTree
  failures : List Failure

namespace Build

def empty : Build := ⟨.empty, []⟩

end Build

/-- The class a fault is reported for, if it names one. -/
def Fault.owner? : Fault → Option String
  | .noBuiltinAncestor owner _ _ => some owner
  | .unreadableDeclaration owner _ => some owner
  | .rejected _ owner => owner
  | _ => none

namespace Compiler

variable {C : Type} (r : Reflection C)

/-- The class a failure is reported for. -/
def failedClass (c : C) (f : Fault) : String :=
  match f.owner? with
  | some owner => if owner.isEmpty then r.described c else owner
  | none => r.described c

/-- The report on a class that could not be processed. -/
def failure (k : Compiler C) (c : C) (f : Fault) : Failure :=
  ⟨k.title, failedClass r c f, f.message⟩

/-- Processes one candidate. A failure that concerns it alone is logged and noted; the flag says
whether it was processed. -/
def step (k : Compiler C) (b : Build) (c : C) : Attempt (Build × Bool) := do
  let (outcome, tree) ← (process r c k).on b.tree
  match outcome with
  | .ok () => return ({ b with tree }, true)
  | .error f =>
    if f.family.isCompilation then
      let failure := failure r k c f
      modify (·.push {
        level := .error
        logger := loggerName (some runLogger)
        message :=
          failure.compiler ++ " failed for " ++ failure.className ++ ": " ++ failure.message
        traced := true })
      return (⟨tree, b.failures ++ [failure]⟩, false)
    else throw f

/-- Processes candidates one after another and counts those that were processed. -/
def steps (k : Compiler C) (b : Build) (cs : List C) : Attempt (Build × Nat) :=
  cs.foldlM (fun (b, n) c => do
    let (b, done) ← step r k b c
    return (b, if done then n + 1 else n)) (b, 0)

def run (k : Compiler C) (b : Build) : Attempt Build := do
  let (b, processed) ← steps r k b (← candidates r k)
  note .debug runLogger
    ("Compiler " ++ k.title ++ " processed " ++ toString (processed : Nat) ++ " candidate(s)")
  return b

end Compiler

/-- A compiler together with the universe it was made for. -/
structure BoundCompiler where
  Cls : Type
  reflection : Reflection Cls
  compiler : Compiler Cls

namespace BoundCompiler

def build (ks : List BoundCompiler) : Attempt Build :=
  ks.foldlM (fun b k => k.compiler.run k.reflection b) Build.empty

end BoundCompiler

def Compiler.bound {C : Type} (r : Reflection C) (ks : List (Compiler C)) : List BoundCompiler :=
  ks.map (⟨C, r, ·⟩)

end TypeStubs
