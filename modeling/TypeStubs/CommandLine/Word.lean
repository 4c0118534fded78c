import TypeStubs.CommandLine.Grammar
import TypeStubs.Decimal.Numeral

/-!
# Words of the command line

A word is an operand or an option. Long options may be cut short, and a value may be attached to
an option: to a long one by an equals sign, to a short one directly.
-/

namespace TypeStubs.CommandLine

open Text

/-- A value attached to an option. -/
structure Attached where
  /-- An equals sign stands between the option and the value. -/
  marked : Bool
  text : String
  deriving DecidableEq, Repr

/-- A word of the command line. -/
inductive Word where
  | operand (text : String)
  | separator
  | option (text name : String) (form : OptionForm) (attached : Option Attached)
  /-- What looks like an option but is none. -/
  | unknown (text : String)

/-- The two dashes that end the options. -/
def separatorText : String := "--"

def Word.text : Word → String
  | operand s => s
  | separator => separatorText
  | option s _ _ _ => s
  | unknown s => s

/-- A text without one newline at its end. -/
def withoutFinalNewline (cs : List Char) : List Char :=
  if cs.getLast? = some '\n' then cs.dropLast else cs

/-- Is the text after a dash a number? Such a word is an operand. -/
def isNumber (cs : List Char) : Bool :=
  let whole := cs.takeWhile Decimal.isDigit
  match cs.dropWhile Decimal.isDigit with
  | [] => !whole.isEmpty
  | '.' :: places => !places.isEmpty && places.all Decimal.isDigit
  | _ => false

/-- Is the name of an option a short one, with a single dash? -/
def isShort (name : String) : Bool := !startsWith "--" name

namespace Grammar

variable (g : Grammar)

/-- The readings of a word as a long option cut short. -/
def longReadings (s : String) : List (String × Word) :=
  let (start, value) := cutAtFirst '=' s
  (g.spellings.filter fun o => startsWith start o.1).map fun (name, form) =>
    (name, .option s name form (value.map fun v => ⟨true, v⟩))

/-- The readings of a word as a short option with something attached. -/
def shortReadings (s : String) : List (String × Word) :=
  let name := String.ofList (s.toList.take 2)
  (g.spellings.filter fun o => o.1 = name).map fun (name, form) =>
    (name, .option s name form (some ⟨false, String.ofList (s.toList.drop 2)⟩))

/-- The reading of a word that is no option of the grammar. Negative numbers and words with blanks
are operands all the same. -/
def readOther (s : String) : Word :=
  if isNumber (withoutFinalNewline (s.toList.drop 1)) || s.toList.contains ' ' then .operand s
  else .unknown s

/-- Reads a word that begins with a dash and is no spelling of an option. -/
def readDashed (s : String) : Except Complaint Word :=
  let (name, value) := cutAtFirst '=' s
  match value, g.option? name with
  | some v, some form => .ok (.option s name form (some ⟨true, v⟩))
  | _, _ =>
    match if isShort s then g.shortReadings s else g.longReadings s with
    | [] => .ok (readOther s)
    | [reading] => .ok reading.2
    | readings => .error (.ambiguous s (readings.map Prod.fst))

def readWord (s : String) : Except Complaint Word :=
  if !startsWith "-" s then .ok (.operand s)
  else
    match g.option? s with
    | some form => .ok (.option s s form none)
    | none => if s.length = 1 then .ok (.operand s) else g.readDashed s

def readWords : List String → Except Complaint (List Word)
  | [] => .ok []
  | s :: rest =>
    if s = separatorText then .ok (.separator :: rest.map .operand)
    else do
      let w ← g.readWord s
      return w :: (← readWords rest)

end Grammar

end TypeStubs.CommandLine
