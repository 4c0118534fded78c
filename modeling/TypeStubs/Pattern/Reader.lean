import TypeStubs.Pattern.Basic
import TypeStubs.Pattern.Token
import TypeStubs.Text.Identifier
import TypeStubs.Decimal.Numeral

/-!
# Reading patterns

A pattern is read from left to right. Groups are numbered as they open, and may be referred to
once they are closed. Modes for the whole pattern stand at its beginning.
-/

namespace TypeStubs.Pattern

/-- Why a pattern cannot be read. -/
inductive Malformed where
  | invalid
  /-- A repetition count that is out of bounds. -/
  | countTooLarge
  /-- A repetition count with more digits than are read. -/
  | numeralTooLong (digits : Nat)
  /-- Modes for the whole pattern that exclude each other. -/
  | clashingModes
  deriving DecidableEq, Repr

/-- The modes in force. -/
structure Modes where
  caseBlind : Bool := false
  multiLine : Bool := false
  dotAll : Bool := false
  verbose : Bool := false
  ascii : Bool := false
  deriving DecidableEq, Repr

namespace Modes

def casing (m : Modes) : Casing :=
  if m.caseBlind then if m.ascii then .asciiBlind else .blind else .exact

end Modes

/-- What is known while a pattern is read. -/
structure Scan where
  rest : List Token
  /-- The characters that can be given by name. -/
  named : String → Option Nat
  /-- The number the next group gets. -/
  nextGroup : Nat := 1
  /-- The closed groups with their widths. -/
  closed : List (Nat × Width) := []
  names : List (String × Nat) := []
  modes : Modes := {}
  /-- The letters of the modes set for the whole pattern. -/
  whole : List Char := []
  /-- Inside a look-behind, the groups opened in front of it. -/
  behindLimit : Option Nat := none
  /-- Groups that conditions refer to by number. -/
  conditions : List Nat := []
  /-- There is a look-behind that does not take a fixed number of characters. -/
  hasLooseBehind : Bool := false

abbrev Reader := StateT Scan (Except Malformed)

def invalid {α : Type} : Reader α := throw .invalid

/-- The next token, which stays. -/
def peek : Reader (Option Token) := return (← get).rest.head?

def take : Reader (Option Token) := do
  let s ← get
  set { s with rest := s.rest.drop 1 }
  return s.rest.head?

/-- Takes the next token, which must be there. -/
def takeOne : Reader Token := do
  match ← take with
  | some t => return t
  | none => invalid

/-- Takes the next token if it is this character. -/
def accept (c : Char) : Reader Bool := do
  if (← peek) = some (.plain c) then
    let _ ← take
    return true
  else return false

/-- Takes the characters of a class at the front, at most `limit` of them. -/
def takeWhile (limit : Nat) (p : Char → Bool) : Reader (List Char) := do
  let s ← get
  let run := (s.rest.take limit).takeWhile fun t =>
    match t with
    | .plain c => p c
    | .escaped _ => false
  set { s with rest := s.rest.drop run.length }
  return run.filterMap fun t =>
    match t with
    | .plain c => some c
    | .escaped _ => none

def tokenText : Token → List Char
  | .plain c => [c]
  | .escaped c => [Char.ofNat 0x5C, c]

/-- Takes a nonempty name up to a closing character. -/
def takeName (closing : Char) : Reader String := do
  let s ← get
  let name := s.rest.takeWhile (· != .plain closing)
  if name.isEmpty || name.length = s.rest.length then invalid
  else
    set { s with rest := s.rest.drop (name.length + 1) }
    return String.ofList (name.flatMap tokenText)

def isOctal (c : Char) : Bool := '0' ≤ c && c ≤ '7'

def isHex (c : Char) : Bool := (Decimal.baseDigit? 16 c).isSome && c.toNat < 0x80

def numberOf (base : Nat) (digits : List Char) : Nat :=
  digits.foldl (fun n c => n * base + (Decimal.baseDigit? base c).getD 0) 0

def controlEscape? (c : Char) : Option Nat :=
  match c with
  | 'a' => some 7
  | 'f' => some 12
  | 'n' => some 10
  | 'r' => some 13
  | 't' => some 9
  | 'v' => some 11
  | _ => none

def categoryEscape? (ascii : Bool) (c : Char) : Option SetItem :=
  match c with
  | 'd' => some (.category .digit false ascii)
  | 'D' => some (.category .digit true ascii)
  | 's' => some (.category .space false ascii)
  | 'S' => some (.category .space true ascii)
  | 'w' => some (.category .word false ascii)
  | 'W' => some (.category .word true ascii)
  | _ => none

def placeEscape? (ascii : Bool) (c : Char) : Option Place :=
  match c with
  | 'A' => some .subjectStart
  | 'Z' => some .subjectEnd
  | 'b' => some (.wordEdge ascii)
  | 'B' => some (.noWordEdge ascii)
  | _ => none

/-- Exactly `count` hexadecimal digits. -/
def takeHex (count : Nat) : Reader Nat := do
  let digits ← takeWhile count isHex
  if digits.length < count then invalid
  else
    let n := numberOf 16 digits
    if 0x10FFFF < n then invalid else return n

/-- The character of a name in braces. -/
def takeNamed : Reader Nat := do
  if ← accept (Char.ofNat 0x7B) then
    let name ← takeName (Char.ofNat 0x7D)
    match (← get).named name with
    | some n => return n
    | none => invalid
  else invalid

/-- A character that escapes itself, or one given by number or by name. Letters that have no meaning
may not be escaped. -/
def takeCode (c : Char) : Reader Nat := do
  match controlEscape? c with
  | some n => return n
  | none =>
    if c = 'x' then takeHex 2
    else if c = 'u' then takeHex 4
    else if c = 'U' then takeHex 8
    else if c = 'N' then takeNamed
    else if c.isAlphanum then invalid
    else return c.toNat

def takeSetEscape (modes : Modes) (c : Char) : Reader SetItem := do
  match categoryEscape? modes.ascii c with
  | some item => return item
  | none =>
    if c = 'b' then return .code 8
    else if isOctal c then
      let n := numberOf 8 (c :: (← takeWhile 2 isOctal))
      if 0xFF < n then invalid else return .code n
    else return .code (← takeCode c)

def checkBehind (group : Nat) : Reader Unit := do
  let s ← get
  match s.behindLimit with
  | none => return ()
  | some limit =>
    if (s.closed.lookup group).isNone || limit ≤ group then invalid else return ()

def reference (modes : Modes) (group : Nat) : Reader Node := do
  match (← get).closed.lookup group with
  | none => invalid
  | some _ =>
    checkBehind group
    return .sameAs modes.casing group

/-- An escape that begins with a digit other than zero: three octal digits are a character, all
else refers to a group. -/
def takeDigitEscape (modes : Modes) (c : Char) : Reader Node := do
  match ← takeWhile 1 Char.isDigit with
  | [] => reference modes (numberOf 10 [c])
  | d :: _ =>
    if isOctal c && isOctal d then
      match ← takeWhile 1 isOctal with
      | e :: _ =>
        let n := numberOf 8 [c, d, e]
        if 0xFF < n then invalid else return .code modes.casing n
      | [] => reference modes (numberOf 10 [c, d])
    else reference modes (numberOf 10 [c, d])

def takeEscape (modes : Modes) (c : Char) : Reader Node := do
  match categoryEscape? modes.ascii c, placeEscape? modes.ascii c with
  | some item, _ => return .set modes.casing false [item]
  | none, some p => return .place p
  | none, none =>
    if c = '0' then return .code modes.casing (numberOf 8 (← takeWhile 2 isOctal))
    else if c.isDigit then takeDigitEscape modes c
    else return .code modes.casing (← takeCode c)

/-- One end of a possible range in a character set. -/
def takeSetMember (modes : Modes) : Token → Reader SetItem
  | .plain c => return .code c.toNat
  | .escaped c => takeSetEscape modes c

/-- The items of a character set up to its closing bracket; a bracket that comes first is an item.
The fuel is more than the number of tokens left. -/
def takeItems (modes : Modes) : Nat → List SetItem → Reader (List SetItem)
  | 0, _ => invalid
  | fuel + 1, done => do
    let t ← takeOne
    if t = .plain ']' && !done.isEmpty then return done.reverse
    else
      let first ← takeSetMember modes t
      if ← accept '-' then
        let u ← takeOne
        if u = .plain ']' then return (.code 0x2D :: first :: done).reverse
        else
          let last ← takeSetMember modes u
          match first, last with
          | .code a, .code b => if b < a then invalid else takeItems modes fuel (.range a b :: done)
          | _, _ => invalid
      else takeItems modes fuel (first :: done)

def takeSet (modes : Modes) : Reader Node := do
  let negated ← accept '^'
  let items ← takeItems modes ((← get).rest.length + 1) []
  match negated, items with
  | false, [.code n] => return .code modes.casing n
  | _, _ => return .set modes.casing negated items

def countLimit : Nat := 4294967295

def takeDigits : Reader (List Char) := do
  let s ← get
  takeWhile s.rest.length Char.isDigit

/-- A repetition count, none if there are no digits. -/
def countOf (digits : List Char) : Reader (Option Nat) := do
  if digits.isEmpty then return none
  else if Decimal.longestNumeral < digits.length then throw (.numeralTooLong digits.length)
  else
    let n := numberOf 10 digits
    if countLimit ≤ n then throw .countTooLarge else return some n

/-- The bounds in braces, or nothing if the brace stands for itself. -/
def takeBounds : Reader (Option (Nat × Option Nat)) := do
  let start ← get
  if start.rest.head? = some (.plain (Char.ofNat 0x7D)) then return none
  else
    let least ← takeDigits
    let most ← if ← accept ',' then takeDigits else pure least
    if ← accept (Char.ofNat 0x7D) then
      let low := (← countOf least).getD 0
      let high ← countOf most
      if high.any (· < low) then invalid else return some (low, high)
    else
      set start
      return none

/-- May the node be repeated? Places and repetitions may not. -/
def isRepeatable : Node → Bool
  | .place _ | .repetition _ _ _ _ => false
  | _ => true

def takeGreed : Reader Greed := do
  if ← accept '?' then return .lazy
  else if ← accept '+' then return .possessive
  else return .greedy

/-- Repeats the last of the nodes read so far, which are held in reverse. -/
def repeatLast (least : Nat) (most : Option Nat) : List Node → Reader (List Node)
  | [] => invalid
  | node :: before => do
    if isRepeatable node then return .repetition least most (← takeGreed) node :: before
    else invalid

/-- The white space that verbose patterns skip. -/
def isLayout (c : Char) : Bool := c = ' ' || (9 ≤ c.toNat && c.toNat ≤ 13)

/-- Turns a mode on or off by its letter. -/
def Modes.put (m : Modes) (letter : Char) (on : Bool) : Modes :=
  match letter with
  | 'i' => { m with caseBlind := on }
  | 'm' => { m with multiLine := on }
  | 's' => { m with dotAll := on }
  | 'x' => { m with verbose := on }
  | 'a' => { m with ascii := on }
  | 'u' => { m with ascii := !on }
  | _ => m

/-- The letters of the modes that apply to texts. -/
def modeLetters : List Char := ['i', 'm', 's', 'x', 'a', 't', 'u']

/-- The letters of modes up to a character that ends them. -/
def takeModeLetters (endings : List Char) : Nat → List Char → Reader (List Char × Char)
  | 0, _ => invalid
  | fuel + 1, done => do
    match ← takeOne with
    | .escaped _ => invalid
    | .plain c =>
      if endings.contains c && !done.isEmpty then return (done.reverse, c)
      else if modeLetters.contains c then takeModeLetters endings fuel (c :: done)
      else invalid

inductive ModeChange where
  | whole (letters : List Char)
  | inside (on off : List Char)

/-- Can both letters be turned on at once? -/
def compatible (on : List Char) : Bool := !(on.contains 'a' && on.contains 'u')

/-- Reads a change of modes that begins with the given character. -/
def takeModeChange (first : Char) : Reader ModeChange := do
  let fuel := (← get).rest.length + 1
  let (on, ending) ←
    if first = '-' then pure ([], '-') else takeModeLetters [')', '-', ':'] fuel [first]
  if !compatible on then invalid
  else if ending = ')' then return .whole on
  else if on.contains 't' then invalid
  else if ending = '-' then
    let (off, _) ← takeModeLetters [':'] fuel []
    if off.any ['a', 'u', 't'].contains || off.any on.contains then invalid
    else return .inside on off
  else return .inside on []

def openGroup (name : Option String) : Reader Nat := do
  let s ← get
  let group := s.nextGroup
  match name with
  | none =>
    set { s with nextGroup := group + 1 }
    return group
  | some n =>
    if (s.names.lookup n).isSome then invalid
    else
      set { s with nextGroup := group + 1, names := (n, group) :: s.names }
      return group

def closeGroup (group : Nat) (width : Width) : Reader Unit :=
  modify fun s => { s with closed := (group, width) :: s.closed }

def takeGroupName (closing : Char) : Reader String := do
  let name ← takeName closing
  if Text.isIdentifier name then return name else invalid

/-- The group a condition refers to, by name or by number. -/
def takeCondition : Reader Nat := do
  let name ← takeName ')'
  if Text.isIdentifier name then
    match (← get).names.lookup name with
    | some group => return group
    | none => invalid
  else
    match Decimal.integer? 10 name with
    | some (.ofNat (n + 1)) =>
      modify fun s => { s with conditions := (n + 1) :: s.conditions }
      return n + 1
    | _ => invalid

mutual

def Node.width (closed : List (Nat × Width)) : Node → Width
  | .code _ _ | .any _ | .set _ _ _ => ⟨1, some 1⟩
  | .place _ | .look _ _ _ => ⟨0, some 0⟩
  | .sequence nodes => Node.widthOfAll closed nodes
  | .branch alternatives =>
    match Node.widths closed alternatives with
    | [] => ⟨0, some 0⟩
    | w :: ws => ws.foldl Width.join w
  | .capture _ body | .atomic body => body.width closed
  | .repetition least most _ body => (body.width closed).times least most
  | .sameAs _ group => (closed.lookup group).getD ⟨0, some 0⟩
  | .ifCaptured _ yes no => (yes.width closed).join (no.width closed)

def Node.widthOfAll (closed : List (Nat × Width)) : List Node → Width
  | [] => ⟨0, some 0⟩
  | n :: ns => (n.width closed).add (Node.widthOfAll closed ns)

def Node.widths (closed : List (Nat × Width)) : List Node → List Width
  | [] => []
  | n :: ns => n.width closed :: Node.widths closed ns

end

/-- What follows an opening parenthesis. -/
inductive Opening where
  | group (name : Option String)
  | plain
  | atomic
  | modes (change : ModeChange)
  | look (behind negated : Bool)
  | reference (name : String)
  | condition
  | comment

/-- Reads what follows an opening parenthesis. -/
def takeOpening : Reader Opening := do
  if !(← accept '?') then return .group none
  else
    match ← takeOne with
    | .escaped _ => invalid
    | .plain c =>
      if c = 'P' then
        if ← accept '<' then return .group (some (← takeGroupName '>'))
        else if ← accept '=' then return .reference (← takeGroupName ')')
        else invalid
      else if c = ':' then return .plain
      else if c = '#' then return .comment
      else if c = '=' then return .look false false
      else if c = '!' then return .look false true
      else if c = '<' then
        if ← accept '=' then return .look true false
        else if ← accept '!' then return .look true true
        else invalid
      else if c = '(' then return .condition
      else if c = '>' then return .atomic
      else if modeLetters.contains c || c = '-' then return .modes (← takeModeChange c)
      else invalid

def skipPast (closing : Char) : Reader Unit :=
  modify fun s => { s with rest := (s.rest.dropWhile (· != .plain closing)).drop 1 }

/-- Takes a closing parenthesis, which must be there. -/
def close : Reader Unit := do
  if ← accept ')' then return () else invalid

mutual

/-- Alternatives. At the top of a pattern modes for the whole of it may be set. -/
def takeBranches : Nat → Bool → Modes → Reader Node
  | 0, _, _ => invalid
  | fuel + 1, top, modes => do
    let (first, modes) ← takeSequence fuel top top modes []
    let others ← takeOthers fuel top modes []
    return if others.isEmpty then first else .branch (first :: others)

/-- The alternatives after the first one. -/
def takeOthers : Nat → Bool → Modes → List Node → Reader (List Node)
  | 0, _, _, _ => invalid
  | fuel + 1, top, modes, done => do
    if ← accept '|' then
      let (node, modes) ← takeSequence fuel top false modes []
      takeOthers fuel top modes (node :: done)
    else return done.reverse

/-- Nodes up to a bar or a closing parenthesis; those read so far are held in reverse. -/
def takeSequence : Nat → Bool → Bool → Modes → List Node → Reader (Node × Modes)
  | 0, _, _, _, _ => invalid
  | fuel + 1, top, first, modes, done => do
    match ← peek with
    | none => return (.sequence done.reverse, modes)
    | some (.escaped c) =>
      let _ ← take
      takeSequence fuel top first modes ((← takeEscape modes c) :: done)
    | some (.plain c) =>
      if c = '|' || c = ')' then return (.sequence done.reverse, modes)
      else
        let _ ← take
        if modes.verbose && isLayout c then takeSequence fuel top first modes done
        else if modes.verbose && c = '#' then
          skipPast '\n'
          takeSequence fuel top first modes done
        else if c = '[' then takeSequence fuel top first modes ((← takeSet modes) :: done)
        else if c = '*' then takeSequence fuel top first modes (← repeatLast 0 none done)
        else if c = '+' then takeSequence fuel top first modes (← repeatLast 1 none done)
        else if c = '?' then takeSequence fuel top first modes (← repeatLast 0 (some 1) done)
        else if c.toNat = 0x7B then
          match ← takeBounds with
          | some (least, most) =>
            takeSequence fuel top first modes (← repeatLast least most done)
          | none => takeSequence fuel top first modes (.code modes.casing 0x7B :: done)
        else if c = '.' then takeSequence fuel top first modes (.any modes.dotAll :: done)
        else if c = '^' then
          let p : Place := if modes.multiLine then .lineStart else .subjectStart
          takeSequence fuel top first modes (.place p :: done)
        else if c = '$' then
          let p : Place := if modes.multiLine then .lineEnd else .lastLineEnd
          takeSequence fuel top first modes (.place p :: done)
        else if c = '(' then
          let (nodes, modes) ← takeGroup fuel (first && done.isEmpty) modes
          takeSequence fuel top first modes (nodes ++ done)
        else takeSequence fuel top first modes (.code modes.casing c.toNat :: done)

/-- A group after its opening parenthesis. It gives a node, or only new modes, or nothing. -/
def takeGroup : Nat → Bool → Modes → Reader (List Node × Modes)
  | 0, _, _ => invalid
  | fuel + 1, atStart, modes => do
    match ← takeOpening with
    | .comment =>
      if (← get).rest.contains (.plain ')') then
        skipPast ')'
        return ([], modes)
      else invalid
    | .reference name =>
      match (← get).names.lookup name with
      | some group => return ([← reference modes group], modes)
      | none => invalid
    | .modes (.whole letters) =>
      if !atStart then invalid
      else
        let modes := letters.foldl (fun m c => m.put c true) modes
        modify fun s => { s with modes, whole := s.whole ++ letters }
        return ([], modes)
    | .modes (.inside on off) =>
      let inner := off.foldl (fun m c => m.put c false) (on.foldl (fun m c => m.put c true) modes)
      let body ← takeBranches fuel false inner
      close
      return ([.sequence [body]], modes)
    | .plain =>
      let body ← takeBranches fuel false modes
      close
      return ([.sequence [body]], modes)
    | .atomic =>
      let body ← takeBranches fuel false modes
      close
      return ([.atomic body], modes)
    | .group name =>
      let group ← openGroup name
      let body ← takeBranches fuel false modes
      close
      closeGroup group (body.width (← get).closed)
      return ([.capture group body], modes)
    | .look behind negated =>
      let before := (← get).behindLimit
      if behind && before.isNone then
        modify fun s => { s with behindLimit := some s.nextGroup }
      let body ← takeBranches fuel false modes
      if behind then modify fun s => { s with behindLimit := before }
      close
      let width := body.width (← get).closed
      if !behind then return ([.look none negated body], modes)
      else
        if !width.isFixed || countLimit < width.least then
          modify fun s => { s with hasLooseBehind := true }
        return ([.look (some width.least) negated body], modes)
    | .condition =>
      let group ← takeCondition
      checkBehind group
      let (yes, _) ← takeSequence fuel false false modes []
      let no ← if ← accept '|' then pure (← takeSequence fuel false false modes []).1
        else pure (.sequence [])
      close
      return ([.ifCaptured group yes no], modes)

end

mutual

def Node.hasRepetition : Node → Bool
  | .repetition _ _ _ _ => true
  | .sequence nodes | .branch nodes => Node.anyHasRepetition nodes
  | .capture _ body | .look _ _ body | .atomic body => body.hasRepetition
  | .ifCaptured _ yes no => yes.hasRepetition || no.hasRepetition
  | .code _ _ | .any _ | .set _ _ _ | .place _ | .sameAs _ _ => false

def Node.anyHasRepetition : List Node → Bool
  | [] => false
  | n :: ns => n.hasRepetition || Node.anyHasRepetition ns

end

/-- Reads as many alternatives as there are. -/
def readTokens (named : String → Option Nat) (tokens : List Token) :
    Except Malformed (Node × Scan) :=
  (takeBranches (2 * tokens.length + 4) true {}).run { rest := tokens, named }

/-- What is wrong with a pattern that was read to its end. In template mode nothing is repeated. -/
def Scan.fault? (s : Scan) (node : Node) : Option Malformed :=
  if !compatible s.whole then some .clashingModes
  else if s.rest.isEmpty && s.conditions.all (· < s.nextGroup) && !s.hasLooseBehind &&
      !(s.whole.contains 't' && node.hasRepetition) then none
  else some .invalid

/-- Reads a pattern, in which characters may be given by the names that `named` knows. -/
def read (named : String → Option Nat) (s : String) : Except Malformed Node := do
  match tokens? s.toList with
  | none =>
    -- A backslash at the end is met when the token in front of it has been taken.
    let _ ← readTokens named ((tokens? s.toList.dropLast).getD []).dropLast
    throw .invalid
  | some tokens =>
    let (node, scan) ← readTokens named tokens
    match scan.fault? node with
    | none => return node
    | some m => throw m

end TypeStubs.Pattern
