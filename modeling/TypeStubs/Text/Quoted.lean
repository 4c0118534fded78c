import TypeStubs.Text.Table.Printable

/-!
# Quoted text

Text is quoted by apostrophes, or by double quotes when it holds an apostrophe and no double
quote. Characters that do not print are written by number.
-/

namespace TypeStubs.Text

open Table

def apostrophe : Char := Char.ofNat 0x27

def doubleQuote : Char := Char.ofNat 0x22

def backslash : Char := Char.ofNat 0x5C

/-- Does the character stand for itself inside quotes? -/
def isPrintable (c : Char) : Bool :=
  if c.toNat < 0x80 then 0x20 ≤ c.toNat && c.toNat < 0x7F else printable.contains c

/-- The digit of a number below sixteen, in lower case. -/
def hexDigit (n : Nat) : Char :=
  if n < 10 then Char.ofNat (0x30 + n) else Char.ofNat (0x57 + n)

/-- The last `width` hexadecimal digits of a number. -/
def hexDigits : Nat → Nat → List Char
  | 0, _ => []
  | width + 1, n => hexDigits width (n / 16) ++ [hexDigit (n % 16)]

def quoteFor (cs : List Char) : Char :=
  if cs.contains apostrophe && !cs.contains doubleQuote then doubleQuote else apostrophe

/-- The written form of one character between quotes `q`. -/
def escapeChar (q c : Char) : List Char :=
  let n := c.toNat
  if c = q ∨ c = backslash then [backslash, c]
  else if c = '\t' then [backslash, 't']
  else if c = '\n' then [backslash, 'n']
  else if c = '\r' then [backslash, 'r']
  else if isPrintable c then [c]
  else if n < 0x100 then backslash :: 'x' :: hexDigits 2 n
  else if n < 0x10000 then backslash :: 'u' :: hexDigits 4 n
  else backslash :: 'U' :: hexDigits 8 n

def quoted (s : String) : String :=
  let q := quoteFor s.toList
  String.ofList (q :: s.toList.flatMap (escapeChar q) ++ [q])

/-- The written form of one byte between quotes `q`: ASCII that prints stands for itself. -/
def escapeByte (q : Char) (b : UInt8) : List Char :=
  if b.toNat < 0x7F then
    let c := Char.ofNat b.toNat
    escapeChar q c
  else backslash :: 'x' :: hexDigits 2 b.toNat

/-- Bytes between quotes, marked by a leading letter. -/
def quotedBytes (bs : List UInt8) : String :=
  let q := quoteFor (bs.map fun b => Char.ofNat b.toNat)
  String.ofList ('b' :: q :: bs.flatMap (escapeByte q) ++ [q])

end TypeStubs.Text
