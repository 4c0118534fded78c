import TypeStubs.Text.Table.Cased
import TypeStubs.Text.Table.Lower

/-!
# Lower case

Every character is lowered on its own, save the capital sigma: at the end of a word it becomes
the final sigma.
-/

namespace TypeStubs.Text

open Table

/-- Letters with case, other than those that are skipped when a word's end is looked for. -/
def isCased (c : Char) : Bool :=
  if c.toNat < 0x80 then c.isAlpha else cased.contains c

/-- Characters that are skipped when a word's end is looked for. -/
def isCaseIgnorable (c : Char) : Bool := caseIgnorable.contains c

/-- The lower-case form by the runs of the table; other characters stay. -/
def lowerOne (c : Char) : Char :=
  if c.toNat < 0x80 then c.toLower
  else
    match lowerRuns.find? fun r =>
      r.first ≤ c.toNat && c.toNat ≤ r.last && (c.toNat - r.first) % r.step == 0 with
    | some r => Char.ofNat (c.toNat + r.shift).toNat
    | none => c

/-- A capital sigma ends a word when a cased character precedes it and none follows it. -/
def endsWord (before after : List Char) : Bool :=
  (match before.dropWhile isCaseIgnorable with
    | [] => false
    | c :: _ => isCased c) &&
  (match after.dropWhile isCaseIgnorable with
    | [] => true
    | c :: _ => !isCased c)

/-- The lower-case form of the characters after `before`, which is held in reverse. -/
def lowerFrom (before : List Char) : List Char → List Char
  | [] => []
  | c :: cs =>
    let image :=
      if c.toNat = 0x3A3 then [Char.ofNat (if endsWord before cs then 0x3C2 else 0x3C3)]
      else if c.toNat = 0x130 then ['i', Char.ofNat 0x307]
      else [lowerOne c]
    image ++ lowerFrom (c :: before) cs

def lower (s : String) : String := String.ofList (lowerFrom [] s.toList)

end TypeStubs.Text
