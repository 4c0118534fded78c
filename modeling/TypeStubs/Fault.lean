import TypeStubs.Text.Quoted
import TypeStubs.Text.Utf8

/-!
# Faults

A fault is the cause for which an operation gives no result. Its family says who may answer for
it: the command line and the service treat whole families alike. Its message is what a user reads.
-/

namespace TypeStubs

open Text

/-- Why a module cannot be imported. -/
inductive ImportFault where
  | unknown (name : String)
  | notPackage (name parent : String)
  | emptyName
  | relative (name : String)
  deriving DecidableEq, Repr

/-- Part of a date or a time that is out of range. -/
inductive DatePart where
  | year (given : Int)
  | month
  | day
  | hour
  | minute
  | second
  | offset (given : String)
  deriving DecidableEq, Repr

/-- The cause of a failed operation. -/
inductive Fault where
  | unnamedDeclaration
  | emptyClassPath
  /-- A class without a name has no place in a stub. -/
  | anonymousStub
  | unnamedModule
  /-- A path that ends in no file name. -/
  | unnamedPath (path : String)
  | classesNotList
  | classEntryNotMap
  | unknownBase (base owner : String)
  | inheritanceCycle (place : String)
  | noBuiltinAncestor (owner patterns root : String)
  | unreadableDeclaration (owner : String) (cause : Fault)
  /-- A plugin gave up on a class. -/
  | rejected (message : String) (owner : Option String)
  | invalidPattern
  | countTooLarge
  /-- A pattern that is to be read in two alphabets at once. -/
  | clashingModes
  | unknownCompilers (names : List String)
  | brokenPlugin (name message : String)
  | notACompiler (target : String)
  | tooManyArguments (owner : String) (limit given : Nat)
  | missingArgument (name : String)
  | unknownOptions (names : List String)
  | missingOption (name : String)
  /-- An entry of a would-be map that is no pair. -/
  | notAPair (index size : Nat)
  | nullInName
  | nullInPath
  /-- A slot with the name of something that is bound. -/
  | slotBound (name : String)
  /-- To read an attribute takes reading one first. -/
  | endlessReading
  | wrongType
  | noAttribute
  | noKey
  | noIndex
  | importFailed (name : String) (cause : ImportFault)
  | noProject (path : String)
  /-- The home directory of an unknown user. -/
  | noHome
  | malformedSettings
  | settingsNotMap
  | notInteger (text : String) (base : Nat)
  /-- A numeral with more digits than are read. -/
  | numeralTooLong (digits : Nat)
  /-- A number with more digits than are written. -/
  | numberTooLong
  | notNumber (text : String)
  | badDate (part : DatePart)
  | noSuchCharacter
  /-- An escape for a number that does not even fit a machine word. -/
  | characterTooLarge
  /-- Bytes that are no text. -/
  | undecodable (fault : Utf8.Fault)
  | noFile
  | fileExists
  | notDirectory
  | isDirectory
  /-- A file name that the disk does not take. -/
  | nameTooLong
  | noServer
  deriving Repr

/-- Families of faults, from the most to the least specific. -/
inductive Fault.Family where
  | value
  | generatorArgument
  | encoding
  | running
  | compilation
  | baseResolution
  | generation
  | settings
  | missingProject
  | plugin
  | type
  | attribute
  | key
  | index
  | pattern
  | overflow
  | missingFile
  | existingFile
  | notDirectory
  | isDirectory
  | disk
  deriving DecidableEq, Repr

namespace Fault

def family : Fault → Family
  | unnamedDeclaration | emptyClassPath | unnamedModule | unnamedPath _ | classesNotList
  | classEntryNotMap | unknownBase _ _ | inheritanceCycle _ | unknownCompilers _ | notAPair _ _
  | nullInName | nullInPath | slotBound _ | notInteger _ _ | numeralTooLong _ | numberTooLong
  | notNumber _ | badDate _ | noSuchCharacter | clashingModes => .value
  | tooManyArguments _ _ _ | missingArgument _ | unknownOptions _ | missingOption _ =>
    .generatorArgument
  | undecodable _ => .encoding
  | anonymousStub | unreadableDeclaration _ _ | rejected _ _ => .compilation
  | noBuiltinAncestor _ _ _ => .baseResolution
  | brokenPlugin _ _ | noHome | noServer | endlessReading => .running
  | importFailed _ _ => .generation
  | malformedSettings | settingsNotMap => .settings
  | noProject _ => .missingProject
  | notACompiler _ => .plugin
  | wrongType => .type
  | noAttribute => .attribute
  | noKey => .key
  | noIndex => .index
  | invalidPattern => .pattern
  | countTooLarge | characterTooLarge => .overflow
  | noFile => .missingFile
  | fileExists => .existingFile
  | notDirectory => .notDirectory
  | isDirectory => .isDirectory
  | nameTooLong => .disk

namespace Family

/-- Input that cannot be used: the families a user mends by other input. -/
def isValue : Family → Bool
  | value | generatorArgument | encoding => true
  | _ => false

/-- Work that could not be carried out. -/
def isRunning : Family → Bool
  | running | compilation | baseResolution | generation | settings => true
  | _ => false

/-- Failures of one class, which leave the other classes alone. -/
def isCompilation : Family → Bool
  | compilation | baseResolution => true
  | _ => false

end Family

def importMessage : ImportFault → String
  | .unknown name => "No module named " ++ quoted name
  | .notPackage name parent =>
    "No module named " ++ quoted name ++ "; " ++ quoted parent ++ " is not a package"
  | .emptyName => "Empty module name"
  | .relative name =>
    "the 'package' argument is required to perform a relative import for " ++ quoted name

def dateMessage : DatePart → String
  | .year given => "year " ++ toString given ++ " is out of range"
  | .month => "month must be in 1..12"
  | .day => "day is out of range for month"
  | .hour => "hour must be in 0..23"
  | .minute => "minute must be in 0..59"
  | .second => "second must be in 0..59"
  | .offset given =>
    "offset must be a timedelta strictly between -timedelta(hours=24) and " ++
      "timedelta(hours=24), not " ++ given ++ "."

def digitLimitMessage : String := "Exceeds the limit (4300 digits) for integer string conversion"

def digitLimitHint : String := "use sys.set_int_max_str_digits() to increase the limit"

/-- What is wrong with the bytes. -/
def defectMessage : Utf8.Defect → String
  | .badStart => "invalid start byte"
  | .badContinuation => "invalid continuation byte"
  | .cutShort => "unexpected end of data"

/-- The message for bytes that are no text. -/
def encodingMessage (f : Utf8.Fault) : String :=
  "'utf-8' codec can't decode " ++
    (if f.count ≤ 1 then
      "byte 0x" ++ String.ofList (hexDigits 2 f.byte.toNat) ++ " in position " ++
        toString f.position
    else
      "bytes in position " ++ toString f.position ++ "-" ++ toString (f.position + f.count - 1)) ++
    ": " ++ defectMessage f.defect

def message : Fault → String
  | unnamedDeclaration => "Argument declarations require a name"
  | emptyClassPath => "class_path must name at least one class"
  | anonymousStub => "Cannot create a stub path for an anonymous class"
  | unnamedModule => "Cannot place stubs for an unnamed module"
  | unnamedPath path => "PurePosixPath(" ++ quoted path ++ ") has an empty name"
  | classesNotList => "'classes' must be a list"
  | classEntryNotMap => "Each class entry must be a mapping"
  | unknownBase base owner => "Unknown base " ++ base ++ " for " ++ owner
  | inheritanceCycle c => "Inheritance cycle detected at " ++ c
  | noBuiltinAncestor owner patterns root =>
    owner ++ " has no ancestor matching the built-in namespaces (" ++ patterns ++
      "); check that " ++ root ++ " itself matches one of them"
  | unreadableDeclaration owner cause =>
    owner ++ " has an unreadable declaration: " ++ cause.message
  | rejected message _ => message
  | invalidPattern => "invalid pattern"
  | countTooLarge => "the repetition number is too large"
  | clashingModes => "ASCII and UNICODE flags are incompatible"
  | unknownCompilers names => "Unknown compilers requested: " ++ String.intercalate ", " names
  | brokenPlugin name message =>
    "Failed to load compiler entry point '" ++ name ++ "': " ++ message
  | notACompiler target =>
    "Compiler plugin " ++ target ++ " is not a Compiler subclass or factory"
  | tooManyArguments owner limit given =>
    owner ++ " takes " ++ toString limit ++ " argument(s), got " ++ toString given
  | missingArgument name => "Missing required argument '" ++ name ++ "'"
  | unknownOptions names => "Unknown option(s): " ++ String.intercalate ", " names
  | missingOption name => "Missing required option '" ++ name ++ "'"
  | notAPair index size =>
    "dictionary update sequence element #" ++ toString index ++ " has length " ++ toString size ++
      "; 2 is required"
  | nullInName => "type name must not contain null characters"
  | nullInPath => "embedded null byte"
  | slotBound name => quoted name ++ " in __slots__ conflicts with class variable"
  | endlessReading => "maximum recursion depth exceeded"
  | wrongType => "wrong type"
  | noAttribute => "no such attribute"
  | noKey => "no such key"
  | noIndex => "index out of range"
  | importFailed name cause => "Failed to import module '" ++ name ++ "': " ++ importMessage cause
  | noProject path => "Project path does not exist: " ++ path
  | noHome => "Could not determine home directory."
  | malformedSettings => "Failed to parse .genstubs.yml"
  | settingsNotMap => ".genstubs.yml must contain a mapping at the root"
  | notInteger text base =>
    "invalid literal for int() with base " ++ toString base ++ ": " ++ quoted text
  | numeralTooLong digits =>
    digitLimitMessage ++ ": value has " ++ toString digits ++ " digits; " ++ digitLimitHint
  | numberTooLong => digitLimitMessage ++ "; " ++ digitLimitHint
  | notNumber text => "could not convert string to float: " ++ quoted text
  | badDate part => dateMessage part
  | noSuchCharacter => "chr() arg not in range(0x110000)"
  | characterTooLarge => "the number of a character is too large"
  | undecodable f => encodingMessage f
  | noFile => "No such file or directory"
  | fileExists => "File exists"
  | notDirectory => "Not a directory"
  | isDirectory => "Is a directory"
  | nameTooLong => "File name too long"
  | noServer =>
    "uvicorn is required to run the service. Install it with \x60pip install genstubs[service]\x60."

end Fault

end TypeStubs
