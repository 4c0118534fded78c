import TypeStubs.Decimal.Numeral
import TypeStubs.Fault
import TypeStubs.Text.Case
import TypeStubs.Text.Split
import TypeStubs.Value.Basic
import TypeStubs.Yaml.Base64
import TypeStubs.Yaml.Tag
import TypeStubs.Yaml.Timestamp

/-!
# YAML scalars

What the text of a scalar stands for under each of the standard tags.
-/

namespace TypeStubs.Yaml

open Text Decimal

inductive ScalarKind where
  | null
  | bool
  | int
  | float
  | binary
  | timestamp
  | str
  deriving DecidableEq, Repr

/-- The kinds of scalars by the last words of their tags. -/
def ScalarKind.words : List (String × ScalarKind) :=
  [("null", .null), ("bool", .bool), ("int", .int), ("float", .float), ("binary", .binary),
   ("timestamp", .timestamp), ("str", .str)]

def truthWords : List (String × Bool) :=
  [("yes", true), ("no", false), ("true", true), ("false", false), ("on", true), ("off", false)]

def readBool (s : String) : Except Fault Value :=
  match truthWords.lookup (lower s) with
  | some b => .ok (.bool b)
  | none => .error .noKey

/-- A numeral without the underscores that group its digits. -/
def ungrouped (s : String) : String := String.ofList (s.toList.filter (· != '_'))

/-- The sign of a numeral, and the text after it, which must not be empty. -/
def signed (s : String) : Except Fault (Bool × String) :=
  if s.isEmpty then .error .noIndex
  else
    let (negative, cs) := sign s.toList
    .ok (negative, String.ofList cs)

def withSign (negative : Bool) (i : Int) : Int := if negative then -i else i

/-- Only numerals in base ten may be too long. -/
def readInBase (base : Nat) (s : String) : Except Fault Int :=
  if base = 10 ∧ longestNumeral < runLength s then .error (.numeralTooLong (runLength s))
  else
    match integer? base s with
    | some i => .ok i
    | none => .error (.notInteger s base)

/-- Places of a numeral in base sixty, the highest first. -/
def sexagesimal (places : List Int) : Int := places.foldl (fun n d => n * 60 + d) 0

/-- Reads a whole number without its sign. The start tells the base, and colons are between the
places of base sixty. -/
def readMagnitude (s : String) : Except Fault Int :=
  if s = "0" then .ok 0
  else
    match afterStart? "0b" s, afterStart? "0x" s with
    | some digits, _ => readInBase 2 digits
    | none, some digits => readInBase 16 digits
    | none, none =>
      match s.toList with
      | [] => .error .noIndex
      | c :: _ =>
        if c = '0' then readInBase 8 s
        else if s.toList.contains ':' then
          ((splitAt ':' s).mapM (readInBase 10)).map sexagesimal
        else readInBase 10 s

def readInt (s : String) : Except Fault Value := do
  let (negative, s) ← signed (ungrouped s)
  return .int (withSign negative (← readMagnitude s))

def readDecimal (s : String) : Except Fault Double :=
  match double? s with
  | some d => .ok d
  | none => .error (.notNumber s)

/-- Adds up places of base sixty, the lowest first, where `unit` is the weight of the next one. -/
def sumPlaces (total : Double) (unit : Int) : List Double → Double
  | [] => total
  | d :: ds => sumPlaces (total.add (d.mul (Double.ofInt unit))) (unit * 60) ds

/-- Reads a decimal number without its sign. -/
def readDoubleMagnitude (s : String) : Except Fault Double :=
  if s = ".inf" then .ok (.infinite false)
  else if s = ".nan" then .ok .nan
  else if s.toList.contains ':' then do
    let places ← (splitAt ':' s).mapM readDecimal
    return sumPlaces (.zero false) 1 places.reverse
  else readDecimal s

def readFloat (s : String) : Except Fault Value := do
  let (negative, s) ← signed (lower (ungrouped s))
  let d ← readDoubleMagnitude s
  return .float (if negative then d.negate else d)

def readBinary (s : String) : Except Fault Value :=
  if s.toList.all fun c => c.toNat < 0x80 then
    match base64? s.toList with
    | some bytes => .ok (.bytes bytes)
    | none => .error .malformedSettings
  else .error .malformedSettings

/-- Reads a date or a time. Of such a value only that it exists is known. -/
def readTimestamp (s : String) : Except Fault Value :=
  match Timestamp.read? s with
  | none => .error .noAttribute
  | some t =>
    match t.fault? with
    | some part => .error (.badDate part)
    | none => .ok (.object s [])

def ScalarKind.read (s : String) : ScalarKind → Except Fault Value
  | null => .ok .null
  | bool => readBool s
  | int => readInt s
  | float => readFloat s
  | binary => readBinary s
  | timestamp => readTimestamp s
  | str => .ok (.text s)

end TypeStubs.Yaml
