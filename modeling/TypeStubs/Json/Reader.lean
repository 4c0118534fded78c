import TypeStubs.Decimal.Double
import TypeStubs.Value.Basic

/-!
# Reading JSON

A document is read into a value. A malformed one is refused at the position of the character where
reading could not go on.
-/

namespace TypeStubs.Json

open Decimal

/-- A place in a text: how many characters lie before it and which ones follow. -/
structure Cursor where
  position : Nat
  rest : List Char

/-- The position at which a document is malformed. -/
structure Malformed where
  position : Nat
  deriving DecidableEq, Repr

abbrev Reading (α : Type) := Except Malformed (α × Cursor)

namespace Cursor

def skip (c : Cursor) (count : Nat) : Cursor := ⟨c.position + count, c.rest.drop count⟩

def isSpace (c : Char) : Bool := c = ' ' || c = '\t' || c = '\n' || c = '\r'

def skipSpace (c : Cursor) : Cursor := c.skip (c.rest.takeWhile isSpace).length

def startsWith (c : Cursor) (word : String) : Bool := word.toList.isPrefixOf c.rest

end Cursor

def hexDigit? (c : Char) : Option Nat :=
  let n := c.toNat
  if c.isDigit then some (n - 0x30)
  else if 0x61 ≤ n ∧ n ≤ 0x66 then some (n - 0x57)
  else if 0x41 ≤ n ∧ n ≤ 0x46 then some (n - 0x37)
  else none

def fourHex? (cs : List Char) : Option Nat :=
  match cs with
  | [a, b, c, d] => do
    let a ← hexDigit? a
    let b ← hexDigit? b
    let c ← hexDigit? c
    let d ← hexDigit? d
    some (((a * 16 + b) * 16 + c) * 16 + d)
  | _ => none

/-- The character that a letter after a backslash stands for. -/
def simpleEscape? (c : Char) : Option Char :=
  match c with
  | 'b' => some (Char.ofNat 8)
  | 'f' => some (Char.ofNat 12)
  | 'n' => some '\n'
  | 'r' => some '\r'
  | 't' => some '\t'
  | '/' => some '/'
  | c => if c.toNat = 0x22 || c.toNat = 0x5C then some c else none

/-- Is the number one of the first halves of a pair? -/
def isHighHalf (n : Nat) : Bool := 0xD800 ≤ n && n < 0xDC00

/-- Is the number one of the second halves of a pair? -/
def isLowHalf (n : Nat) : Bool := 0xDC00 ≤ n && n < 0xE000

/-- The second half that follows a first one, if a pair is complete. -/
def lowHalf? (after : List Char) : Option Nat :=
  match after with
  | b :: 'u' :: digits =>
    if b.toNat = 0x5C then (fourHex? (digits.take 4)).filter isLowHalf else none
  | _ => none

/-- The characters of a text up to its closing quote; `opening` is the position of the quote that
opened it. Half of a pair that stands alone is no character. The fuel is at least the number of
characters left. -/
def readText (opening : Nat) : Nat → List Char → Cursor → Reading String
  | 0, _, _ => .error ⟨opening⟩
  | fuel + 1, done, ⟨i, rest⟩ =>
    match rest with
    | [] => .error ⟨opening⟩
    | c :: rest =>
      if c.toNat = 0x22 then .ok (String.ofList done.reverse, ⟨i + 1, rest⟩)
      else if c.toNat < 0x20 then .error ⟨i⟩
      else if c.toNat ≠ 0x5C then readText opening fuel (c :: done) ⟨i + 1, rest⟩
      else
        match rest with
        | [] => .error ⟨opening⟩
        | 'u' :: digits =>
          match if digits.length ≤ 4 then none else fourHex? (digits.take 4) with
          | none => .error ⟨i + 1⟩
          | some n =>
            let after := digits.drop 4
            match if isHighHalf n then lowHalf? after else none with
            | some low =>
              let code := 0x10000 + (n - 0xD800) * 1024 + (low - 0xDC00)
              readText opening fuel (Char.ofNat code :: done) ⟨i + 12, after.drop 6⟩
            | none =>
              if n.isValidChar then readText opening fuel (Char.ofNat n :: done) ⟨i + 6, after⟩
              else .error ⟨i + 1⟩
        | e :: rest =>
          match simpleEscape? e with
          | some c => readText opening fuel (c :: done) ⟨i + 2, rest⟩
          | none => .error ⟨i⟩

def leadingDigits (cs : List Char) : List Char := cs.takeWhile Char.isDigit

def digitsValue (cs : List Char) : Nat := cs.foldl (fun n c => n * 10 + (c.toNat - 0x30)) 0

/-- The digits of the whole part: a zero stands alone. -/
def wholeDigits (cs : List Char) : List Char :=
  match cs with
  | '0' :: _ => ['0']
  | cs => leadingDigits cs

/-- The digits after a decimal point, none if there is no fraction. -/
def fractionDigits (cs : List Char) : List Char :=
  match cs with
  | '.' :: cs => leadingDigits cs
  | _ => []

/-- An exponent and the number of characters it takes. -/
def exponent (cs : List Char) : Int × Nat :=
  match cs with
  | e :: cs =>
    if e = 'e' || e = 'E' then
      let (negative, signed, cs) :=
        match cs with
        | '-' :: cs => (true, 1, cs)
        | '+' :: cs => (false, 1, cs)
        | cs => (false, 0, cs)
      let digits := leadingDigits cs
      if digits.isEmpty then (0, 0)
      else
        let n : Int := digitsValue digits
        (if negative then -n else n, 1 + signed + digits.length)
    else (0, 0)
  | [] => (0, 0)

/-- A number. With a fraction or an exponent it is a double. -/
def readNumber (c : Cursor) : Reading Value :=
  let (negative, cs) := match c.rest with
    | '-' :: cs => (true, cs)
    | cs => (false, cs)
  let whole := wholeDigits cs
  if whole.isEmpty then .error ⟨c.position⟩
  else
    let cs := cs.drop whole.length
    let frac := fractionDigits cs
    let fracSize := if frac.isEmpty then 0 else frac.length + 1
    let (e, eSize) := exponent (cs.drop fracSize)
    let size := (if negative then 1 else 0) + whole.length + fracSize + eSize
    let value :=
      if fracSize + eSize = 0 then
        let n : Int := digitsValue whole
        Value.int (if negative then -n else n)
      else
        Value.float (Double.ofDecimal negative (digitsValue (whole ++ frac)) (e - frac.length))
    .ok (value, c.skip size)

def words : List (String × Value) :=
  [("null", .null), ("true", .bool true), ("false", .bool false), ("NaN", .float .nan),
   ("Infinity", .float (.infinite false)), ("-Infinity", .float (.infinite true))]

def readScalar (c : Cursor) : Reading Value :=
  match words.find? fun w => c.startsWith w.1 with
  | some (w, v) => .ok (v, c.skip w.length)
  | none => readNumber c

mutual

def readValue : Nat → Cursor → Reading Value
  | 0, c => .error ⟨c.position⟩
  | fuel + 1, c =>
    match c.rest with
    | [] => .error ⟨c.position⟩
    | '[' :: _ =>
      let inside := (c.skip 1).skipSpace
      if inside.startsWith "]" then .ok (.list [], inside.skip 1) else readItems fuel [] inside
    | h :: _ =>
      if h.toNat = 0x22 then
        (readText c.position (c.rest.length + 1) [] (c.skip 1)).map fun (s, c) => (.text s, c)
      else if h.toNat = 0x7B then
        let inside := (c.skip 1).skipSpace
        if inside.startsWith "\x7d" then .ok (.map [], inside.skip 1)
        else readEntries fuel [] inside
      else readScalar c

def readItems : Nat → List Value → Cursor → Reading Value
  | 0, _, c => .error ⟨c.position⟩
  | fuel + 1, done, c =>
    match readValue fuel c with
    | .error e => .error e
    | .ok (v, c) =>
      let c := c.skipSpace
      if c.startsWith "]" then .ok (.list (v :: done).reverse, c.skip 1)
      else if c.startsWith "," then readItems fuel (v :: done) (c.skip 1).skipSpace
      else .error ⟨c.position⟩

/-- The entries of a map from a key on. -/
def readEntries : Nat → List (Value × Value) → Cursor → Reading Value
  | 0, _, c => .error ⟨c.position⟩
  | fuel + 1, done, c =>
    match c.rest with
    | [] => .error ⟨c.position⟩
    | h :: _ =>
      if h.toNat ≠ 0x22 then .error ⟨c.position⟩
      else
        match readText c.position (c.rest.length + 1) [] (c.skip 1) with
        | .error e => .error e
        | .ok (key, c) =>
          let c := c.skipSpace
          if !c.startsWith ":" then .error ⟨c.position⟩
          else
            match readValue fuel (c.skip 1).skipSpace with
            | .error e => .error e
            | .ok (v, c) =>
              let c := c.skipSpace
              let done := Value.putEntry (.text key) v done
              if c.startsWith "\x7d" then .ok (.map done, c.skip 1)
              else if c.startsWith "," then readEntries fuel done (c.skip 1).skipSpace
              else .error ⟨c.position⟩

end

/-- Reads a document: one value with white space around it. -/
def read (s : String) : Except Malformed Value :=
  let start : Cursor := Cursor.skipSpace ⟨0, s.toList⟩
  match readValue (s.length + 1) start with
  | .error e => .error e
  | .ok (v, c) =>
    let c := c.skipSpace
    if c.rest.isEmpty then .ok v else .error ⟨c.position⟩

end TypeStubs.Json
