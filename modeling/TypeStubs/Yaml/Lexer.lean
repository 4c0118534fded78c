import TypeStubs.Json.Reader
import TypeStubs.Loader
import TypeStubs.Yaml.Token

/-!
# Reading YAML tokens

Something that stands in front of a colon is known to be a key only when the colon comes. Until
then it is kept in mind as a possible key, one for each level of flow collections, and the tokens
that start a key are put in front of it afterwards.
-/

namespace TypeStubs.Yaml

/-- Something that may turn out to be a key. -/
structure PossibleKey where
  /-- The number of tokens in front of it. -/
  number : Nat
  /-- The block mapping cannot go on unless it is a key. -/
  required : Bool
  index : Nat
  line : Nat
  column : Nat

/-- The state of reading. -/
structure Scan where
  rest : List Char
  index : Nat := 0
  line : Nat := 0
  column : Nat := 0
  flow : Nat := 0
  indent : Int := -1
  outer : List Int := []
  allowsKey : Bool := true
  keys : List (Nat × PossibleKey) := []
  tokens : Array Token := #[]
  isDone : Bool := false

abbrev Lexer := StateT Scan (Except LoadFault)

/-- The end of the text, as a character that stands nowhere in it. -/
def noChar : Char := Char.ofNat 0

def malformed {α : Type} : Lexer α := throw .refused

def isBreak (c : Char) : Bool :=
  let n := c.toNat
  n = 10 || n = 13 || n = 0x85 || n = 0x2028 || n = 0x2029

def endsLine (c : Char) : Bool := c = noChar || isBreak c

/-- A blank, a line break or the end. -/
def endsWord (c : Char) : Bool := c = ' ' || c = '\t' || endsLine c

/-- A blank other than a tab, a line break or the end. -/
def endsMark (c : Char) : Bool := c = ' ' || endsLine c

/-- Characters that may stand in a text. -/
def isAllowed (c : Char) : Bool :=
  let n := c.toNat
  n = 9 || n = 10 || n = 13 || (0x20 ≤ n && n ≤ 0x7E) || n = 0x85 || (0xA0 ≤ n && n ≤ 0xD7FF) ||
    (0xE000 ≤ n && n ≤ 0xFFFD) || 0x10000 ≤ n

/-- The mark that may stand at the beginning of a text. -/
def byteOrderMark : Char := Char.ofNat 0xFEFF

def ahead (n : Nat) : Lexer Char := return ((← get).rest[n]?).getD noChar

def next : Lexer Char := ahead 0

def run (p : Char → Bool) : Lexer (List Char) := return (← get).rest.takeWhile p

def Scan.over (s : Scan) : Scan :=
  match s.rest with
  | [] => s
  | c :: rest =>
    let s := { s with rest, index := s.index + 1 }
    if (isBreak c && c != '\r') || (c = '\r' && rest.head? != some '\n') then
      { s with line := s.line + 1, column := 0 }
    else if c = byteOrderMark then s
    else { s with column := s.column + 1 }

def skip : Nat → Lexer Unit
  | 0 => return ()
  | n + 1 => do
    modify Scan.over
    skip n

def take (p : Char → Bool) : Lexer (List Char) := do
  let cs ← run p
  skip cs.length
  return cs

def skipBlanks : Lexer Unit := do let _ ← take (· = ' ')

/-- Takes a line break, if there is one: all but two kinds become a newline. -/
def takeBreak : Lexer (List Char) := do
  let c ← next
  if !isBreak c then return []
  else if c.toNat = 0x2028 || c.toNat = 0x2029 then
    skip 1
    return [c]
  else
    skip (if c = '\r' && (← ahead 1) = '\n' then 2 else 1)
    return ['\n']

/-- Is this the beginning of a document, or the end of one? The mark is three equal characters
that end a word. -/
def atDocumentMark (c : Char) : Lexer Bool := do
  let s ← get
  return s.rest.take 3 == [c, c, c] && endsWord ((s.rest[3]?).getD noChar)

def push (t : Token) : Lexer Unit := modify fun s => { s with tokens := s.tokens.push t }

def insertAt (i : Nat) (t : Token) : Lexer Unit :=
  modify fun s =>
    { s with tokens := ((s.tokens.toList.take i) ++ t :: (s.tokens.toList.drop i)).toArray }

/-! ## Possible keys and indentation -/

/-- Forgets the possible key of this flow level; a required one must not be forgotten. -/
def dropKey : Lexer Unit := do
  let s ← get
  match s.keys.lookup s.flow with
  | none => return ()
  | some k =>
    if k.required then malformed else set { s with keys := s.keys.filter (·.1 != s.flow) }

/-- What comes next may be a key. -/
def saveKey : Lexer Unit := do
  let s ← get
  if s.allowsKey then
    let required := s.flow = 0 && s.indent = s.column
    dropKey
    let k : PossibleKey := ⟨s.tokens.size, required, s.index, s.line, s.column⟩
    modify fun s => { s with keys := (s.flow, k) :: s.keys }

/-- The farthest a colon may be from the beginning of its key. -/
def keyReach : Nat := 1024

/-- Can this no longer be a key? It is on an earlier line, or too far back. -/
def Scan.isStale (s : Scan) (k : PossibleKey) : Bool :=
  k.line != s.line || keyReach < s.index - k.index

/-- Forgets the possible keys that can no longer be keys. -/
def dropStaleKeys : Lexer Unit := do
  let s ← get
  if s.keys.any fun k => s.isStale k.2 && k.2.required then malformed
  else set { s with keys := s.keys.filter fun k => !s.isStale k.2 }

/-- Ends the block collections that are indented further than a column. -/
def unwind (column : Int) : Nat → Lexer Unit
  | 0 => return ()
  | fuel + 1 => do
    let s ← get
    if s.flow = 0 && column < s.indent then
      set { s with
        indent := s.outer.head?.getD (-1)
        outer := s.outer.drop 1
        tokens := s.tokens.push .blockEnd }
      unwind column fuel

/-- Ends block collections as far as a column asks for it. -/
def unwindTo (column : Int) : Lexer Unit := do unwind column ((← get).outer.length + 1)

/-- Starts a block collection if the column is further in than the current one. -/
def indentTo (column : Nat) : Lexer Bool := do
  let s ← get
  if s.indent < column then
    set { s with indent := (column : Int), outer := s.indent :: s.outer }
    return true
  else return false

/-- Says whether a key may come next. -/
def allowKey (b : Bool) : Lexer Unit := modify fun s => { s with allowsKey := b }

/-! ## Blanks, comments and directives -/

/-- Goes over a comment, if there is one. -/
def skipComment : Lexer Unit := do
  if (← next) = '#' then
    let _ ← take (!endsLine ·)

def skipToToken : Nat → Lexer Unit
  | 0 => return ()
  | fuel + 1 => do
    skipBlanks
    skipComment
    if (← takeBreak).isEmpty then return ()
    else
      if (← get).flow = 0 then allowKey true
      skipToToken fuel

/-- Goes over the rest of a line, on which only a comment may stand. -/
def skipLine : Lexer Unit := do
  skipBlanks
  skipComment
  if endsLine (← next) then
    let _ ← takeBreak
  else malformed

/-- Characters of names of anchors, directives and handles. -/
def isNameChar (c : Char) : Bool := c.isAlphanum || c = '-' || c = '_'

/-- A nonempty name that is followed as it should be. -/
def takeName (follows : Char → Bool) : Lexer String := do
  let name ← take isNameChar
  if name.isEmpty || !follows (← next) then malformed else return String.ofList name

def takeNumber : Lexer Nat := do
  let digits ← take Char.isDigit
  if digits.isEmpty then malformed else return Json.digitsValue digits

/-- The handle of a tag: an exclamation mark, or a word between two of them. -/
def takeHandle : Lexer String := do
  if (← next) != '!' then malformed
  else
    skip 1
    if (← next) = ' ' then return "!"
    else
      let word ← take isNameChar
      if (← next) != '!' then malformed
      else
        skip 1
        return String.ofList ('!' :: word ++ ['!'])

/-- Characters of tags, escapes apart. -/
def isTagChar (c : Char) : Bool :=
  isNameChar c || c.toNat = 0x27 || ";/?:@&=+$,.!~*()[]".toList.contains c

def byteOf? (cs : List Char) : Option UInt8 :=
  match cs with
  | [a, b] => do
    let a ← Json.hexDigit? a
    let b ← Json.hexDigit? b
    some (UInt8.ofNat (a * 16 + b))
  | _ => none

/-- Bytes written by number, one after another. -/
def takeBytes : Nat → List UInt8 → Lexer (List UInt8)
  | 0, done => return done.reverse
  | fuel + 1, done => do
    if (← next) = '%' then
      match byteOf? (((← get).rest.drop 1).take 2) with
      | none => malformed
      | some b =>
        skip 3
        takeBytes fuel (b :: done)
    else return done.reverse

def takeTagChars : Nat → List Char → Lexer (List Char)
  | 0, done => return done
  | fuel + 1, done => do
    let done := done ++ (← take isTagChar)
    if (← next) = '%' then
      match Text.Utf8.decodeAll (← takeBytes ((← get).rest.length) []) with
      | .ok cs => takeTagChars fuel (done ++ cs)
      | .error _ => malformed
    else return done

def takeTagText : Lexer String := do
  let start := (← get).index
  let cs ← takeTagChars ((← get).rest.length + 1) []
  if (← get).index = start then malformed else return String.ofList cs

def takeDirectiveBody (name : String) : Lexer Directive := do
  if name = "YAML" then
    skipBlanks
    let major ← takeNumber
    if (← next) != '.' then malformed
    skip 1
    let _ ← takeNumber
    if endsMark (← next) then return .version major else malformed
  else if name = "TAG" then
    skipBlanks
    let handle ← takeHandle
    if (← next) != ' ' then malformed
    skipBlanks
    let expansion ← takeTagText
    if endsMark (← next) then return .tag handle expansion else malformed
  else
    let _ ← take (!endsLine ·)
    return .other

def takeDirective : Lexer Directive := do
  skip 1
  let d ← takeDirectiveBody (← takeName endsMark)
  skipLine
  return d

/-! ## Anchors and tags -/

/-- Characters that may follow the name of an anchor. -/
def endsAnchor (c : Char) : Bool := endsWord c || "?:,]\x7d%@\x60".toList.contains c

/-- The name after the mark of an anchor or an alias. -/
def takeAnchor : Lexer String := do
  skip 1
  takeName endsAnchor

/-- Does a tag that begins here have a handle? -/
def hasHandle (cs : List Char) : Bool :=
  (cs.takeWhile fun c => !endsMark c).contains '!'

def takeTag : Lexer Token := do
  let c ← ahead 1
  let t ←
    if c = '<' then do
      skip 2
      let suffix ← takeTagText
      if (← next) != '>' then malformed
      skip 1
      pure (Token.tag none suffix)
    else if endsWord c then do
      skip 1
      pure (Token.tag none "!")
    else if hasHandle ((← get).rest.drop 1) then do
      let handle ← takeHandle
      pure (Token.tag (some handle) (← takeTagText))
    else do
      skip 1
      pure (Token.tag (some "!") (← takeTagText))
  if endsMark (← next) then return t else malformed

/-! ## Block scalars -/

/-- What becomes of the line breaks at the end of a block scalar. -/
inductive Chomping where
  | strip
  | clip
  | keep
  deriving DecidableEq

/-- The mark for line breaks at the end, if there is one. -/
def takeChomping? : Lexer (Option Chomping) := do
  let c ← next
  if c = '+' then
    skip 1
    return some .keep
  else if c = '-' then
    skip 1
    return some .strip
  else return none

/-- The digit for additional indentation, if there is one; it must not be zero. -/
def takeIncrement? : Lexer (Option Nat) := do
  let c ← next
  if !c.isDigit then return none
  else if c = '0' then malformed
  else
    skip 1
    return some (c.toNat - 0x30)

/-- The two marks of a block scalar in either order. -/
def takeScalarMarks : Lexer (Chomping × Option Nat) := do
  let first ← takeChomping?
  let increment ← takeIncrement?
  let second ← if first.isNone && increment.isSome then takeChomping? else pure first
  if endsMark (← next) then return (second.getD .clip, increment) else malformed

/-- Goes over empty lines and indentation, and finds the deepest indentation among them. -/
def takeLeading : Nat → List Char → Nat → Lexer (List Char × Nat)
  | 0, breaks, deepest => return (breaks, deepest)
  | fuel + 1, breaks, deepest => do
    let c ← next
    if c = ' ' then
      skip 1
      takeLeading fuel breaks (max deepest (← get).column)
    else if isBreak c then takeLeading fuel (breaks ++ (← takeBreak)) deepest
    else return (breaks, deepest)

def skipIndentation (indent : Nat) : Lexer Unit := do
  let s ← get
  skip ((s.rest.take (indent - s.column)).takeWhile (· = ' ')).length

/-- Goes over empty lines that are indented no further than the scalar. -/
def takeEmptyLines (indent : Nat) : Nat → List Char → Lexer (List Char)
  | 0, breaks => return breaks
  | fuel + 1, breaks => do
    skipIndentation indent
    if isBreak (← next) then takeEmptyLines indent fuel (breaks ++ (← takeBreak))
    else return breaks

def atScalarLine (indent : Nat) : Lexer Bool := do
  let s ← get
  return s.column = indent && !s.rest.isEmpty

/-- The lines of a block scalar: its text so far, the line break that may still be folded, and the
empty lines after it. -/
def takeScalarLines (folded : Bool) (indent : Nat) :
    Nat → List Char → List Char → List Char → Lexer (List Char × List Char × List Char)
  | 0, text, line, breaks => return (text, line, breaks)
  | fuel + 1, text, _, breaks => do
    let first ← next
    let isFlush := first != ' ' && first != '\t'
    let text := text ++ breaks ++ (← take (!endsLine ·))
    let line ← takeBreak
    let breaks ← takeEmptyLines indent ((← get).rest.length + 1) []
    if ← atScalarLine indent then
      let c ← next
      let joins := folded && line == ['\n'] && isFlush && c != ' ' && c != '\t'
      let text := text ++ (if joins then (if breaks.isEmpty then [' '] else []) else line)
      takeScalarLines folded indent fuel text line breaks
    else return (text, line, breaks)

def takeBlockScalar (folded : Bool) : Lexer String := do
  skip 1
  let (chomping, increment) ← takeScalarMarks
  skipLine
  let least := max 1 ((← get).indent + 1).toNat
  let fuel := (← get).rest.length + 1
  let (breaks, indent) ← match increment with
    | none => do
      let (breaks, deepest) ← takeLeading fuel [] 0
      pure (breaks, max least deepest)
    | some n => do
      let indent := least + n - 1
      pure (← takeEmptyLines indent fuel [], indent)
  let (text, line, breaks) ←
    if ← atScalarLine indent then takeScalarLines folded indent fuel [] [] breaks
    else pure ([], [], breaks)
  return String.ofList (text ++ match chomping with
    | .strip => []
    | .clip => line
    | .keep => line ++ breaks)

/-! ## Quoted scalars -/

/-- What a letter after a backslash stands for. -/
def escapeOf? (c : Char) : Option Nat :=
  match c with
  | '0' => some 0
  | 'a' => some 7
  | 'b' => some 8
  | 't' => some 9
  | '\t' => some 9
  | 'n' => some 10
  | 'v' => some 11
  | 'f' => some 12
  | 'r' => some 13
  | 'e' => some 0x1B
  | ' ' => some 0x20
  | '/' => some 0x2F
  | 'N' => some 0x85
  | '_' => some 0xA0
  | 'L' => some 0x2028
  | 'P' => some 0x2029
  | c => if c.toNat = 0x22 || c.toNat = 0x5C then some c.toNat else none

/-- How many digits follow a letter for a character given by number. -/
def escapeDigits? (c : Char) : Option Nat :=
  match c with
  | 'x' => some 2
  | 'u' => some 4
  | 'U' => some 8
  | _ => none

/-- The number of the last character, and of the last machine word. -/
def codeLimits : Nat × Nat := (0x10FFFF, 0x7FFFFFFF)

/-- The character of a number. Half of a surrogate pair is none. -/
def charOf (n : Nat) : Lexer Char :=
  if n.isValidChar then return Char.ofNat n
  else throw (.stray (if n ≤ codeLimits.2 then .noSuchCharacter else .characterTooLarge))

/-- Goes over the line breaks inside a quoted scalar. No document may begin or end there. -/
def takeQuotedBreaks : Nat → List Char → Lexer (List Char)
  | 0, breaks => return breaks
  | fuel + 1, breaks => do
    if (← atDocumentMark '-') || (← atDocumentMark '.') then malformed
    else
      let _ ← take fun c => c = ' ' || c = '\t'
      if isBreak (← next) then takeQuotedBreaks fuel (breaks ++ (← takeBreak))
      else return breaks

/-- What a backslash and the characters after it stand for. -/
def takeEscape : Lexer (List Char) := do
  skip 1
  let c ← next
  match escapeOf? c, escapeDigits? c with
  | some n, _ =>
    skip 1
    return [Char.ofNat n]
  | none, some count =>
    skip 1
    let digits := (← get).rest.take count
    match digits.mapM Json.hexDigit? with
    | none => malformed
    | some ds =>
      if ds.length < count then malformed
      else
        let d ← charOf (ds.foldl (fun n d => n * 16 + d) 0)
        skip count
        return [d]
  | none, none =>
    if isBreak c then
      let _ ← takeBreak
      takeQuotedBreaks ((← get).rest.length + 1) []
    else malformed

/-- The blanks and line breaks inside a quoted scalar: a single line break becomes a blank. -/
def takeQuotedBlanks : Lexer (List Char) := do
  let blanks ← take fun c => c = ' ' || c = '\t'
  let c ← next
  if c = noChar then malformed
  else if isBreak c then
    let line ← takeBreak
    let breaks ← takeQuotedBreaks ((← get).rest.length + 1) []
    return (if line != ['\n'] then line else if breaks.isEmpty then [' '] else []) ++ breaks
  else return blanks

/-- The text of a quoted scalar up to its closing quote. -/
def takeQuotedText (double : Bool) : Nat → List Char → Lexer String
  | 0, _ => malformed
  | fuel + 1, done => do
    let c ← next
    let isApostrophe := c.toNat = 0x27
    let isDouble := c.toNat = 0x22
    let isBackslash := c.toNat = 0x5C
    if endsWord c then takeQuotedText double fuel (done ++ (← takeQuotedBlanks))
    else if !double && isApostrophe && (← ahead 1).toNat = 0x27 then
      skip 2
      takeQuotedText double fuel (done ++ [c])
    else if (double && isDouble) || (!double && isApostrophe) then
      skip 1
      return String.ofList done
    else if double && isBackslash then takeQuotedText double fuel (done ++ (← takeEscape))
    else
      skip 1
      takeQuotedText double fuel (done ++ [c])

def takeQuoted (double : Bool) : Lexer String := do
  skip 1
  takeQuotedText double ((← get).rest.length + 1) []

/-! ## Plain scalars -/

/-- Does a plain scalar stop at a character that is followed by another? -/
def stopsPlain (inFlow : Bool) (c after : Char) : Bool :=
  endsWord c ||
    (c = ':' && (endsWord after || (inFlow && ",[]\x7b\x7d".toList.contains after))) ||
    (inFlow && ",?[]\x7b\x7d".toList.contains c)

/-- The characters of a plain scalar up to a blank or a stop. -/
def plainRun (inFlow : Bool) : List Char → List Char
  | [] => []
  | c :: rest =>
    if stopsPlain inFlow c (rest.head?.getD noChar) then [] else c :: plainRun inFlow rest

/-- Goes over empty lines and indentation after a line of a plain scalar. Nothing is given if a
document begins or ends there. -/
def takePlainBreaks : Nat → List Char → Lexer (Option (List Char))
  | 0, breaks => return some breaks
  | fuel + 1, breaks => do
    let c ← next
    if c = ' ' then
      skip 1
      takePlainBreaks fuel breaks
    else if isBreak c then
      let breaks := breaks ++ (← takeBreak)
      if (← atDocumentMark '-') || (← atDocumentMark '.') then return none
      else takePlainBreaks fuel breaks
    else return some breaks

/-- The blanks inside a plain scalar, none if it ends here. -/
def takePlainBlanks : Lexer (List Char) := do
  let blanks ← take (· = ' ')
  if isBreak (← next) then
    let line ← takeBreak
    allowKey true
    if (← atDocumentMark '-') || (← atDocumentMark '.') then return []
    else
      match ← takePlainBreaks ((← get).rest.length + 1) [] with
      | none => return []
      | some breaks =>
        return (if line != ['\n'] then line else if breaks.isEmpty then [' '] else []) ++ breaks
  else return blanks

/-- The text of a plain scalar; `blanks` are those that stand in front of its next word. -/
def takePlainText (indent : Int) : Nat → List Char → List Char → Lexer String
  | 0, done, _ => return String.ofList done
  | fuel + 1, done, blanks => do
    let s ← get
    let word := if (← next) = '#' then [] else plainRun (s.flow != 0) s.rest
    if word.isEmpty then return String.ofList done
    else
      allowKey false
      skip word.length
      let done := done ++ blanks ++ word
      let blanks ← takePlainBlanks
      let s ← get
      if blanks.isEmpty || (← next) = '#' || (s.flow = 0 && s.column < indent) then
        return String.ofList done
      else takePlainText indent fuel done blanks

def takePlain : Lexer String := do
  let s ← get
  takePlainText (s.indent + 1) (s.rest.length + 1) [] []

/-! ## Tokens -/

def fetchEnd : Lexer Unit := do
  unwindTo (-1)
  dropKey
  modify fun s => { s with
    allowsKey := false, keys := [], tokens := s.tokens.push .streamEnd, isDone := true }

def fetchDirective : Lexer Unit := do
  unwindTo (-1)
  dropKey
  allowKey false
  push (.directive (← takeDirective))

def fetchDocumentMark (t : Token) : Lexer Unit := do
  unwindTo (-1)
  dropKey
  allowKey false
  skip 3
  push t

/-- The beginning of a flow collection, which may be a key. -/
def fetchFlowStart (t : Token) : Lexer Unit := do
  saveKey
  modify fun s => { s with flow := s.flow + 1, allowsKey := true }
  skip 1
  push t

def fetchFlowEnd (t : Token) : Lexer Unit := do
  dropKey
  modify fun s => { s with flow := s.flow - 1, allowsKey := false }
  skip 1
  push t

def fetchComma : Lexer Unit := do
  allowKey true
  dropKey
  skip 1
  push .comma

/-- Starts a block collection at this column where one may start. -/
def startBlock (t : Token) : Lexer Unit := do
  let s ← get
  if s.flow = 0 then
    if !s.allowsKey then malformed
    else if ← indentTo s.column then push t

/-- The mark of an item of a block sequence. -/
def fetchItem : Lexer Unit := do
  startBlock .blockSequenceStart
  allowKey true
  dropKey
  skip 1
  push .item

/-- The mark of a key that is given as such. -/
def fetchKey : Lexer Unit := do
  startBlock .blockMappingStart
  allowKey ((← get).flow = 0)
  dropKey
  skip 1
  push .key

/-- The colon in front of a value. What came before it may have been a key. -/
def fetchValue : Lexer Unit := do
  let s ← get
  match s.keys.lookup s.flow with
  | some k =>
    set { s with keys := s.keys.filter (·.1 != s.flow) }
    insertAt k.number .key
    if s.flow = 0 then
      if ← indentTo k.column then insertAt k.number .blockMappingStart
    allowKey false
  | none =>
    startBlock .blockMappingStart
    allowKey ((← get).flow = 0)
    dropKey
  skip 1
  push .value

/-- Something that may be a key. -/
def fetchNode (t : Lexer Token) : Lexer Unit := do
  saveKey
  allowKey false
  push (← t)

/-- A block scalar, after which a key may follow. -/
def fetchBlockScalar (folded : Bool) : Lexer Unit := do
  allowKey true
  dropKey
  push (.scalar (← takeBlockScalar folded) false)

/-- May a plain scalar begin with a character that is followed by another? -/
def startsPlain (inFlow : Bool) (c after : Char) : Bool :=
  let isQuote := c.toNat = 0x22 || c.toNat = 0x27
  let isIndicator := "-?:,[]\x7b\x7d#&*!|>%@\x60".toList.contains c || isQuote
  (!endsWord c && !isIndicator) ||
    (!endsWord after && (c = '-' || (!inFlow && (c = '?' || c = ':'))))

def fetch : Lexer Unit := do
  if (← get).index = 0 && (← next) = byteOrderMark then skip 1
  skipToToken ((← get).rest.length + 1)
  dropStaleKeys
  unwindTo (← get).column
  let s ← get
  let c ← next
  let after ← ahead 1
  let inFlow := s.flow != 0
  if s.rest.isEmpty then fetchEnd
  else if c = '%' && s.column = 0 then fetchDirective
  else if s.column = 0 && (← atDocumentMark '-') then fetchDocumentMark .documentStart
  else if s.column = 0 && (← atDocumentMark '.') then fetchDocumentMark .documentEnd
  else if c = '[' then fetchFlowStart .flowSequenceStart
  else if c.toNat = 0x7B then fetchFlowStart .flowMappingStart
  else if c = ']' then fetchFlowEnd .flowSequenceEnd
  else if c.toNat = 0x7D then fetchFlowEnd .flowMappingEnd
  else if c = ',' then fetchComma
  else if c = '-' && endsWord after then fetchItem
  else if c = '?' && (inFlow || endsWord after) then fetchKey
  else if c = ':' && (inFlow || endsWord after) then fetchValue
  else if c = '*' then fetchNode do return .alias (← takeAnchor)
  else if c = '&' then fetchNode do return .anchor (← takeAnchor)
  else if c = '!' then fetchNode takeTag
  else if c = '|' && !inFlow then fetchBlockScalar false
  else if c = '>' && !inFlow then fetchBlockScalar true
  else if c.toNat = 0x27 then fetchNode do return .scalar (← takeQuoted false) false
  else if c.toNat = 0x22 then fetchNode do return .scalar (← takeQuoted true) false
  else if startsPlain inFlow c after then fetchNode do return .scalar (← takePlain) true
  else malformed

/-- Tokens up to the end of a text, or up to the place where it cannot be read on. -/
structure TokenRow where
  tokens : List Token
  stop : Option LoadFault

/-- The tokens that are settled: none can come in front of them any more. -/
def Scan.settled (s : Scan) : List Token :=
  let waiting := s.keys.filterMap fun k => if s.isStale k.2 then none else some k.2.number
  (s.tokens.toList).take (waiting.foldl min s.tokens.size)

/-- Reads on for `fuel` steps at most. What is settled before a fault is there to be used. -/
def fetchAll : Nat → Scan → TokenRow
  | 0, s => ⟨s.settled, some .refused⟩
  | fuel + 1, s =>
    match fetch.run s with
    | .error f => ⟨s.settled, some f⟩
    | .ok (_, s) => if s.isDone then ⟨s.tokens.toList, none⟩ else fetchAll fuel s

/-- The tokens of a text. A character that may not stand in a text keeps it from being read at
all. -/
def tokenRow (s : String) : TokenRow :=
  let cs := s.toList
  if cs.all isAllowed then fetchAll (cs.length + 2) { rest := cs } else ⟨[], some .refused⟩

end TypeStubs.Yaml
