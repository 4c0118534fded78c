import TypeStubs.Compiler.Basic
import TypeStubs.Registry.Payload
import TypeStubs.Render
import TypeStubs.Service.Problem
import TypeStubs.Service.Request

/-!
# The service

The service generates stubs for classes it is told about. Faults that the request is to blame for
are answered; others are faults of the service.
-/

namespace TypeStubs.Service

inductive Answer where
  | healthy
  | generated (files : Files) (failures : List Failure)
  | refused (detail : String)
  | invalid (problems : List Problem)
  | notFound
  | notAllowed

namespace Answer

def status : Answer → Nat
  | healthy | generated _ _ => 200
  | refused _ => 400
  | notFound => 404
  | notAllowed => 405
  | invalid _ => 422

/-- The detail that an answer gives in one text. -/
def detail? : Answer → Option String
  | refused detail => some detail
  | notFound => some "Not Found"
  | notAllowed => some "Method Not Allowed"
  | _ => none

end Answer

def generate (compile : PatternCompiler) (q : StubRequest) : Attempt (Files × List Failure) := do
  let registry ← Attempt.ofExcept (StaticRegistry.ofPayload q.payload)
  let compiler ← Attempt.ofExcept
    (GeneratorCompiler.ofSettings compile q.rootClass q.builtinNamespaces)
  let built ← BoundCompiler.build (Compiler.bound registry.reflection [.generators compiler])
  let files ← built.tree.render
  return (files, built.failures)

def isAnswered (f : Fault) : Bool := f.family.isValue || f.family.isRunning

/-- Generates the stubs for a request, or answers why it cannot. -/
def answerRequest (compile : PatternCompiler) (q : StubRequest) : Attempt Answer := do
  match ← (generate compile q).caught with
  | .ok (files, failures) => return .generated files failures
  | .error f => if isAnswered f then return .refused f.message else throw f

/-- Answers what comes in: `validate` makes a request of it, or tells all that is wrong with it. -/
def answerBody (validate : Option String → Checked StubRequest) (compile : PatternCompiler)
    (body : Option String) : Attempt Answer :=
  match validate body with
  | .error problems => pure (.invalid problems)
  | .ok q => answerRequest compile q

end TypeStubs.Service
