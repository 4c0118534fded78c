import TypeStubs.Fault
import TypeStubs.Json.Reader

/-!
# Dates and times in YAML

A timestamp is a date, and perhaps a time of day with a distance from the reference time zone.
-/

namespace TypeStubs.Yaml

/-- The parts of a timestamp as they are written. The time zone is given in minutes. -/
structure Timestamp where
  year : Nat
  month : Nat
  day : Nat
  time : Option (Nat × Nat × Nat)
  zone : Option Int
  deriving DecidableEq, Repr

namespace Timestamp

/-- Between `least` and `most` digits, as many as there are, and what follows them. -/
def digits? (least most : Nat) (cs : List Char) : Option (Nat × List Char) :=
  let ds := (cs.take most).takeWhile Char.isDigit
  if least ≤ ds.length then some (Json.digitsValue ds, cs.drop ds.length) else none

/-- What follows a character that has to be there. -/
def after? (c : Char) : List Char → Option (List Char)
  | d :: cs => if d = c then some cs else none
  | [] => none

def isGap (c : Char) : Bool := c = ' ' || c = '\t'

def afterMark? (cs : List Char) : Option (List Char) :=
  match cs with
  | [] => none
  | c :: rest =>
    if c = 'T' || c = 't' then some rest
    else if isGap c then some (cs.dropWhile isGap) else none

def afterFraction (cs : List Char) : List Char :=
  match cs with
  | '.' :: cs => cs.dropWhile Char.isDigit
  | cs => cs

def zoneSign? (c : Char) : Option Int :=
  if c = '+' then some 1 else if c = '-' then some (-1) else none

/-- A time zone up to the end of the text. -/
def zone? (cs : List Char) : Option (Option Int) :=
  match cs.dropWhile isGap with
  | [] => if cs.isEmpty then some none else none
  | 'Z' :: rest => if rest.isEmpty then some (some 0) else none
  | c :: rest => do
    let sign ← zoneSign? c
    let (hours, rest) ← digits? 1 2 rest
    if rest.isEmpty then some (some (sign * (hours * 60 : Nat)))
    else
      let (minutes, rest) ← digits? 2 2 (← after? ':' rest)
      if rest.isEmpty then some (some (sign * (hours * 60 + minutes : Nat))) else none

/-- A text without one newline at its end. -/
def dropFinalNewline (cs : List Char) : List Char :=
  if cs.getLast? = some '\n' then cs.dropLast else cs

def read? (s : String) : Option Timestamp := do
  let cs := dropFinalNewline s.toList
  let (year, cs) ← digits? 4 4 cs
  let (month, cs) ← digits? 1 2 (← after? '-' cs)
  let (day, cs) ← digits? 1 2 (← after? '-' cs)
  if cs.isEmpty then some ⟨year, month, day, none, none⟩
  else
    let (hour, cs) ← digits? 1 2 (← afterMark? cs)
    let (minute, cs) ← digits? 2 2 (← after? ':' cs)
    let (second, cs) ← digits? 2 2 (← after? ':' cs)
    let zone ← zone? (afterFraction cs)
    some ⟨year, month, day, some (hour, minute, second), zone⟩

def isLeapYear (y : Nat) : Bool := y % 4 = 0 && (y % 100 != 0 || y % 400 = 0)

def daysIn (year month : Nat) : Nat :=
  if month = 2 then if isLeapYear year then 29 else 28
  else if [4, 6, 9, 11].contains month then 30 else 31

/-- A distance of time in the form in which it is shown. -/
def distanceText (minutes : Int) : String :=
  let days := Int.fdiv minutes 1440
  let seconds := Int.fmod minutes 1440 * 60
  let parts := (if days = 0 then [] else ["days=" ++ toString days]) ++
    (if seconds = 0 then [] else ["seconds=" ++ toString seconds])
  "datetime.timedelta(" ++ (if parts.isEmpty then "0" else String.intercalate ", " parts) ++ ")"

def dateFault? (t : Timestamp) : Option DatePart :=
  if t.year = 0 then some (.year 0)
  else if t.month = 0 ∨ 12 < t.month then some .month
  else if t.day = 0 ∨ daysIn t.year t.month < t.day then some .day
  else none

/-- What is wrong with a time of day. -/
def timeFault? (hour minute second : Nat) : Option DatePart :=
  if 23 < hour then some .hour
  else if 59 < minute then some .minute
  else if 59 < second then some .second
  else none

/-- What is wrong with a time zone: it must be less than a day away. -/
def zoneFault? (zone : Option Int) : Option DatePart :=
  match zone with
  | none => none
  | some z => if z.natAbs < 1440 then none else some (.offset (distanceText z))

/-- The first part of a timestamp that is out of range. -/
def fault? (t : Timestamp) : Option DatePart :=
  match t.time with
  | none => t.dateFault?
  | some (hour, minute, second) =>
    (zoneFault? t.zone).or (t.dateFault?.or (timeFault? hour minute second))

end Timestamp

end TypeStubs.Yaml
