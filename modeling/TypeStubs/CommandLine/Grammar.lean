import TypeStubs.Text.Quoted
import TypeStubs.Text.Split

/-!
# The grammar of the command line

A program, or one of its commands, has options and at most one operand.
-/

namespace TypeStubs.CommandLine

open Text

/-- What has been asked for so far. -/
structure Draft where
  verbose : Bool := false
  quiet : Bool := false
  path : String := "."
  modules : List String := []
  compilers : List String := []
  outputDirectory : Option String := none
  check : Bool := false
  host : String := "127.0.0.1"
  port : Int := 8000
  deriving DecidableEq, Repr

inductive Effect where
  | help
  | flag (set : Draft → Draft)
  | text (set : String → Draft → Draft)
  | number (set : Int → Draft → Draft)

def Effect.takesValue : Effect → Bool
  | help | flag _ => false
  | text _ | number _ => true

structure OptionForm where
  names : List String
  effect : Effect

/-- The operand of a program or command. -/
inductive Operand where
  | absent
  | optional (set : String → Draft → Draft)
  | command (names : List String)

/-- The grammar of a program or command. -/
structure Grammar where
  program : String
  options : List OptionForm
  operand : Operand

namespace Grammar

def spellings (g : Grammar) : List (String × OptionForm) :=
  g.options.flatMap fun o => o.names.map fun n => (n, o)

def option? (g : Grammar) (name : String) : Option OptionForm :=
  (g.spellings.find? fun s => s.1 = name).map Prod.snd

end Grammar

def commonOptions : List OptionForm :=
  [⟨["-h", "--help"], .help⟩,
   ⟨["-v", "--verbose"], .flag fun d => { d with verbose := true }⟩,
   ⟨["-q", "--quiet"], .flag fun d => { d with quiet := true }⟩]

/-- The options of commands that work on a project. -/
def projectOptions : List OptionForm :=
  [⟨["-m", "--module"], .text fun s d => { d with modules := d.modules ++ [s] }⟩,
   ⟨["--compiler"], .text fun s d => { d with compilers := d.compilers ++ [s] }⟩]

def projectOperand : Operand := .optional fun s d => { d with path := s }

def mainGrammar : Grammar :=
  ⟨"genstubs", commonOptions, .command ["generate", "list", "serve"]⟩

/-- The command that generates stubs. -/
def generateGrammar : Grammar where
  program := "genstubs generate"
  options := commonOptions ++ projectOptions ++
    [⟨["--output-dir"], .text fun s d => { d with outputDirectory := some s }⟩,
     ⟨["--check"], .flag fun d => { d with check := true }⟩]
  operand := projectOperand

def listGrammar : Grammar := ⟨"genstubs list", commonOptions ++ projectOptions, projectOperand⟩

/-- The command that starts the service. -/
def serveGrammar : Grammar where
  program := "genstubs serve"
  options := commonOptions ++
    [⟨["--host"], .text fun s d => { d with host := s }⟩,
     ⟨["--port"], .number fun i d => { d with port := i }⟩]
  operand := .absent

/-- What is wrong with a command line. -/
inductive Complaint where
  | required (name : String)
  | unrecognized (words : List String)
  | unknownCommand (given : String) (names : List String)
  | valueExpected (option : OptionForm)
  | valueIgnored (option : OptionForm) (given : String)
  | notNumber (option : OptionForm) (given : String)
  | ambiguous (given : String) (names : List String)

def OptionForm.title (o : OptionForm) : String := String.intercalate "/" o.names

def aboutArgument (name text : String) : String := "argument " ++ name ++ ": " ++ text

namespace Complaint

def message : Complaint → String
  | required name => "the following arguments are required: " ++ name
  | unrecognized words => "unrecognized arguments: " ++ String.intercalate " " words
  | unknownCommand given names =>
    aboutArgument "command" ("invalid choice: " ++ quoted given ++ " (choose from " ++
      String.intercalate ", " (names.map quoted) ++ ")")
  | valueExpected o => aboutArgument o.title "expected one argument"
  | valueIgnored o given => aboutArgument o.title ("ignored explicit argument " ++ quoted given)
  | notNumber o given => aboutArgument o.title ("invalid int value: " ++ quoted given)
  | ambiguous given names =>
    "ambiguous option: " ++ given ++ " could match " ++ String.intercalate ", " names

end Complaint

end TypeStubs.CommandLine
