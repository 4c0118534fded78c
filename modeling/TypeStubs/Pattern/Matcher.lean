import TypeStubs.Decimal.Numeral
import TypeStubs.Pattern.Basic
import TypeStubs.Text.Case
import TypeStubs.Text.Table.CaseTwins
import TypeStubs.Text.Table.Word

/-!
# Matching

A pattern is matched together with what is left to do after it. Its ways are tried in the order in
which they are preferred, and the first way on which all the rest succeeds is the one that counts.
-/

namespace TypeStubs.Pattern

open TypeStubs.Text

/-- A place in the subject with the texts captured so far. -/
structure State where
  position : Nat
  captures : List (Nat × List Char)
  deriving DecidableEq, Repr

/-- What is left to do from a state on. It gives the state at its end, if it gets there. -/
abbrev Rest := State → Option State

/-- One way after another: matches something from a state on, then does the rest. -/
abbrev Step := State → Rest → Option State

def lowerCode (casing : Casing) (n : Nat) : Nat :=
  match casing with
  | .exact => n
  | .asciiBlind => if 0x41 ≤ n ∧ n ≤ 0x5A then n + 0x20 else n
  | .blind => if n = 0x130 then 0x69 else (lowerOne (Char.ofNat n)).toNat

/-- The codes that compare equal to a code in lower case. -/
def twins (casing : Casing) (n : Nat) : List Nat :=
  match casing with
  | .blind => (Table.caseTwins.filter (·.1 = n)).map Prod.snd
  | _ => []

/-- The codes whose lower-case form is this one. -/
def raised (casing : Casing) (n : Nat) : List Nat :=
  match casing with
  | .exact => [n]
  | .asciiBlind => if 0x61 ≤ n ∧ n ≤ 0x7A then [n, n - 0x20] else [n]
  | .blind =>
    let fromRuns := Table.lowerRuns.filterMap fun r =>
      let source := ((n : Int) - r.shift).toNat
      if r.first ≤ source ∧ source ≤ r.last ∧ (source - r.first) % r.step = 0 then some source
      else none
    n :: fromRuns ++ (if n = 0x69 then [0x130] else [])

/-- Is the character a digit, in one script or in all? -/
def isDigitIn (ascii : Bool) (n : Nat) : Bool :=
  if ascii then 0x30 ≤ n && n ≤ 0x39 else Decimal.isDigit (Char.ofNat n)

def isSpaceIn (ascii : Bool) (n : Nat) : Bool :=
  if ascii then n = 0x20 || (9 ≤ n && n ≤ 13) else isBlank (Char.ofNat n)

def isWordIn (ascii : Bool) (n : Nat) : Bool :=
  if n < 0x80 then (Char.ofNat n).isAlphanum || n = 0x5F
  else !ascii && Table.wordChar.contains (Char.ofNat n)

def Category.contains (k : Category) (ascii : Bool) (n : Nat) : Bool :=
  match k with
  | .digit => isDigitIn ascii n
  | .space => isSpaceIn ascii n
  | .word => isWordIn ascii n

/-- Does an item of a set contain the code? The code comes with those it is compared as. -/
def SetItem.contains (casing : Casing) (n : Nat) : SetItem → Bool
  | .code m =>
    let m := lowerCode casing m
    n = m || (twins casing m).contains n
  | .range first last =>
    (n :: twins casing n).any fun t => (raised casing t).any fun c => first ≤ c && c ≤ last
  | .category k negated ascii => k.contains ascii n != negated

def setContains (casing : Casing) (negated : Bool) (items : List SetItem) (n : Nat) : Bool :=
  let n := lowerCode casing n
  items.any (SetItem.contains casing n) != negated

def sameCode (casing : Casing) (wanted n : Nat) : Bool :=
  let w := lowerCode casing wanted
  let l := lowerCode casing n
  l = w || (twins casing w).contains l

/-- Is there a part of a word on one side of the place only? -/
def atWordEdge (subject : Array Char) (ascii : Bool) (i : Nat) : Bool :=
  let isWord (j : Nat) : Bool := (subject[j]?).any fun c => isWordIn ascii c.toNat
  (decide (0 < i) && isWord (i - 1)) != isWord i

def Place.holds (subject : Array Char) (p : Place) (i : Nat) : Bool :=
  match p with
  | .subjectStart => i = 0
  | .subjectEnd => i = subject.size
  | .lastLineEnd =>
    i = subject.size || (i + 1 = subject.size && subject[i]? = some '\n')
  | .lineStart => i = 0 || subject[i - 1]? = some '\n'
  | .lineEnd => i = subject.size || subject[i]? = some '\n'
  | .wordEdge ascii => atWordEdge subject ascii i
  | .noWordEdge ascii => !subject.isEmpty && !atWordEdge subject ascii i

/-- Goes over one character if it passes the test. -/
def takeChar (subject : Array Char) (test : Nat → Bool) : Step := fun s k =>
  match subject[s.position]? with
  | some c => if test c.toNat then k { s with position := s.position + 1 } else none
  | none => none

/-- Goes over a text that was captured before. -/
def takeText (subject : Array Char) (casing : Casing) (text : List Char) : Step := fun s k =>
  let found := (subject.toList.drop s.position).take text.length
  if found.length = text.length &&
      (text.zip found).all fun (a, b) => lowerCode casing a.toNat = lowerCode casing b.toNat then
    k { s with position := s.position + text.length }
  else none

/-- A number of rounds that all have to succeed. -/
def rounds (step : Step) : Nat → Rest → Rest
  | 0, k => k
  | count + 1, k => fun s => step s (rounds step count k)

/-- At most `count` further rounds, each of them preferred to the rest. The latest one began at
`last`; a round that took nothing is not followed by another. -/
def goOn (step : Step) : Nat → Option Nat → Rest → Rest
  | 0, _, k => k
  | count + 1, last, k => fun s =>
    if last = some s.position then k s
    else step s (goOn step count (some s.position) k) <|> k s

/-- At most `count` further rounds, to each of which the rest is preferred. -/
def goOnLast (step : Step) : Nat → Option Nat → Rest → Rest
  | 0, _, k => k
  | count + 1, last, k => fun s =>
    k s <|>
      if last = some s.position then none else step s (goOnLast step count (some s.position) k)

/-- Goes on for as long as a round leads further, each time by the preferred way. -/
def insist (step : Step) : Nat → Option Nat → State → State
  | 0, _, s => s
  | count + 1, last, s =>
    if last = some s.position then s
    else
      match step s some with
      | none => s
      | some t => insist step count (some s.position) t

def repeated (step : Step) (size least : Nat) (most : Option Nat) (greed : Greed) : Step :=
  fun s k =>
    let bound := match most with
      | some m => min (m - least) (size + 1)
      | none => size + 1
    match greed with
    | .greedy => rounds step least (goOn step bound none k) s
    | .lazy => rounds step least (goOnLast step bound none k) s
    | .possessive =>
      let first : Step := fun s k => (step s some).bind k
      rounds first least (fun t => k (insist step bound none t)) s

def setCapture (group : Nat) (text : List Char) (captures : List (Nat × List Char)) :
    List (Nat × List Char) :=
  (group, text) :: captures.filter (·.1 != group)

mutual

/-- Matches a pattern from a state on, then does the rest. Only the groups in `kept` are
captured. -/
def Node.find (subject : Array Char) (kept : List Nat) : Node → State → Rest → Option State
  | .code casing n, s, k => takeChar subject (sameCode casing n) s k
  | .any newlineToo, s, k => takeChar subject (fun n => newlineToo || n != 10) s k
  | .set casing negated items, s, k => takeChar subject (setContains casing negated items) s k
  | .place p, s, k => if p.holds subject s.position then k s else none
  | .sequence nodes, s, k => Node.findAll subject kept nodes s k
  | .branch alternatives, s, k => Node.findAny subject kept alternatives s k
  | .capture group body, s, k =>
    body.find subject kept s fun e =>
      if kept.contains group then
        let text := (subject.extract s.position e.position).toList
        k { e with captures := setCapture group text e.captures }
      else k e
  | .repetition least most greed body, s, k =>
    repeated (body.find subject kept) subject.size least most greed s k
  | .look behind negated body, s, k =>
    let found :=
      match behind with
      | none => body.find subject kept s some
      | some w =>
        if s.position < w then none
        else body.find subject kept { s with position := s.position - w } some
    match found, negated with
    | none, true => k s
    | none, false => none
    | some _, true => none
    | some e, false => k { e with position := s.position }
  | .atomic body, s, k => (body.find subject kept s some).bind k
  | .sameAs casing group, s, k =>
    match s.captures.lookup group with
    | some text => takeText subject casing text s k
    | none => none
  | .ifCaptured group yes no, s, k =>
    if (s.captures.lookup group).isSome then yes.find subject kept s k
    else no.find subject kept s k

def Node.findAll (subject : Array Char) (kept : List Nat) : List Node → State → Rest → Option State
  | [], s, k => k s
  | n :: ns, s, k => n.find subject kept s fun t => Node.findAll subject kept ns t k

def Node.findAny (subject : Array Char) (kept : List Nat) : List Node → State → Rest → Option State
  | [], _, _ => none
  | n :: ns, s, k => n.find subject kept s k <|> Node.findAny subject kept ns s k

end

mutual

def Node.references : Node → List Nat
  | .sameAs _ group => [group]
  | .ifCaptured group yes no => group :: yes.references ++ no.references
  | .sequence nodes | .branch nodes => Node.referencesOfAll nodes
  | .capture _ body | .repetition _ _ _ body | .look _ _ body | .atomic body => body.references
  | .code _ _ | .any _ | .set _ _ _ | .place _ => []

def Node.referencesOfAll : List Node → List Nat
  | [] => []
  | n :: ns => n.references ++ Node.referencesOfAll ns

end

/-- Is there a place in the subject at which the pattern matches? -/
def Node.search (n : Node) (subject : String) : Bool :=
  let cs := subject.toList.toArray
  let kept := n.references
  (List.range (cs.size + 1)).any fun i => (n.find cs kept ⟨i, []⟩ some).isSome

end TypeStubs.Pattern
