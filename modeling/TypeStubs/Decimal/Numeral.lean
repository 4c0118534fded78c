import TypeStubs.Decimal.Double
import TypeStubs.Text.Blank
import TypeStubs.Text.Table.Word

/-!
# Numerals

Whole and decimal numerals as they are read from text: blanks around them are skipped, digits may
be grouped by single underscores, and the decimal digits of every script count.
-/

namespace TypeStubs.Decimal

open TypeStubs.Text

/-- Is the character a decimal digit of some script? -/
def isDigit (c : Char) : Bool :=
  if c.toNat < 0x80 then c.isDigit else Table.decimalDigit.contains c

/-- The value of a decimal digit: scripts have their ten digits in a row, zero first. -/
def digitValue (c : Char) : Nat :=
  if c.toNat < 0x80 then c.toNat - 0x30
  else
    match (Table.decimalDigit.switches.toList.filter (· ≤ c.toNat)).getLast? with
    | some first => (c.toNat - first) % 10
    | none => 0

/-- The value of a digit or letter in bases up to sixteen. -/
def baseDigit? (base : Nat) (c : Char) : Option Nat :=
  let n := c.toNat
  let value :=
    if isDigit c then digitValue c
    else if 0x61 ≤ n ∧ n ≤ 0x66 then n - 0x57
    else if 0x41 ≤ n ∧ n ≤ 0x46 then n - 0x37
    else base
  if value < base then some value else none

/-- Digits of a base, the underscores between them dropped; `value` is what was read so far and
`needsDigit` says that a digit must follow. -/
def readDigits (base : Nat) (value : Nat) (needsDigit : Bool) : List Char → Option Nat
  | [] => if needsDigit then none else some value
  | c :: cs =>
    if c = '_' then if needsDigit then none else readDigits base value true cs
    else (baseDigit? base c).bind fun d => readDigits base (value * base + d) false cs

def natural? (base : Nat) (cs : List Char) : Option Nat := readDigits base 0 true cs

def sign : List Char → Bool × List Char
  | '-' :: cs => (true, cs)
  | '+' :: cs => (false, cs)
  | cs => (false, cs)

/-- Is the character the mark of a base, as it stands after a zero? -/
def marksBase (base : Nat) (c : Char) : Bool :=
  (base = 2 && (c = 'b' || c = 'B')) || (base = 8 && (c = 'o' || c = 'O')) ||
    (base = 16 && (c = 'x' || c = 'X'))

/-- The digits without a mark of the base in front of them; an underscore may follow the mark. -/
def unmarked (base : Nat) : List Char → List Char
  | '0' :: c :: cs =>
    if marksBase base c then if cs.head? = some '_' then cs.drop 1 else cs else '0' :: c :: cs
  | cs => cs

def integer? (base : Nat) (s : String) : Option Int :=
  let (negative, cs) := sign (strip s).toList
  (natural? base (unmarked base cs)).map fun n => if negative then -(n : Int) else n

/-- A whole number in base ten, the empty text standing for none. -/
def digitsOrNone (cs : List Char) : Option (Option Nat) :=
  if cs.isEmpty then some none else (natural? 10 cs).map some

/-- The number of digits in a run with underscores. -/
def countDigits (cs : List Char) : Nat := (cs.filter isDigit).length

/-- The most digits with which a whole number is read or written in base ten. -/
def longestNumeral : Nat := 4300

/-- The number of digits at the beginning of a numeral, behind blanks and a sign. -/
def runLength (s : String) : Nat :=
  countDigits ((sign (strip s).toList).2.takeWhile fun c => isDigit c || c = '_')

/-- Does a whole number have too many digits to be written? -/
def isTooLong (i : Int) : Bool := Double.tenTo longestNumeral ≤ i.natAbs

/-- Mantissa digits, with at most one point, as digits and a power of ten. -/
def mantissa? (cs : List Char) : Option (Nat × Int) :=
  let whole := cs.takeWhile (· != '.')
  match cs.dropWhile (· != '.') with
  | [] => (natural? 10 whole).map (·, 0)
  | _ :: frac =>
    if whole.isEmpty && frac.isEmpty then none
    else do
      let w ← digitsOrNone whole
      let f ← digitsOrNone frac
      let places := countDigits frac
      some (w.getD 0 * Double.tenTo places + f.getD 0, -(places : Int))

def exponent? : List Char → Option Int
  | [] => some 0
  | _ :: cs =>
    let (negative, ds) := sign cs
    (natural? 10 ds).map fun n => if negative then -(n : Int) else n

def isExponentMark (c : Char) : Bool := c = 'e' || c = 'E'

/-- An unsigned decimal numeral, or one of the names of infinity and of no number. -/
def magnitude? (negative : Bool) (cs : List Char) : Option Double :=
  let name := String.ofList (cs.map Char.toLower)
  if name = "inf" || name = "infinity" then some (.infinite negative)
  else if name = "nan" then some .nan
  else do
    let (digits, power) ← mantissa? (cs.takeWhile (!isExponentMark ·))
    let e ← exponent? (cs.dropWhile (!isExponentMark ·))
    some (Double.ofDecimal negative digits (power + e))

def double? (s : String) : Option Double :=
  let (negative, cs) := sign (strip s).toList
  magnitude? negative cs

end TypeStubs.Decimal
