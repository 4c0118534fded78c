import TypeStubs.Path

/-!
# Places of stub files
-/

namespace TypeStubs

def stubSuffix : String := ".pyi"

/-- The stub file of a package inside the package's directory. -/
def packageStub : String := "__init__.pyi"

/-- The stub file of a module. Every dot of the module's name starts a new part; a package has its
file inside its own directory. -/
def stubPath (module : String) (package : Bool) : Except Fault Path :=
  let names := (Text.segments module).filter (!·.isEmpty)
  if names.isEmpty then .error .unnamedModule
  else if package then .ok (Path.ofTexts (names ++ [packageStub]))
  else
    let p := Path.ofTexts names
    match p.name? with
    | none => .error (.unnamedPath p.text)
    | some name => .ok (p.parent.child (name ++ stubSuffix))

end TypeStubs
