import TypeStubs.Yaml.Lexer
import TypeStubs.Yaml.Tag

/-!
# YAML nodes

A document is a graph: an alias is the very node that carries the anchor, which may even contain
the alias. Nodes are therefore kept in a store and referred to by position.
-/

namespace TypeStubs.Yaml

inductive Body where
  | scalar (text : String)
  | sequence (items : List Nat)
  | mapping (pairs : List (Nat × Nat))
  deriving DecidableEq, Repr

structure Node where
  tag : String
  body : Body
  deriving DecidableEq, Repr

/-- A document: its nodes and the position of the outermost one. -/
structure Document where
  nodes : Array Node
  root : Nat

structure Composer where
  tokens : List Token
  /-- Why there are no more tokens, unless the text has come to its end. -/
  stop : Option LoadFault
  handles : List (String × String) := []
  nodes : Array Node := #[]
  anchors : List (String × Nat) := []

abbrev Compose := StateT Composer (Except LoadFault)

def misplaced {α : Type} : Compose α := throw .refused

/-- The token that comes next. Only now does it count that the text cannot be read on. -/
def peekToken : Compose Token := do
  let s ← get
  match s.tokens, s.stop with
  | t :: _, _ => return t
  | [], none => return .streamEnd
  | [], some f => throw f

def dropToken : Compose Unit := modify fun s => { s with tokens := s.tokens.drop 1 }

/-- Goes over a token if it is this one. -/
def acceptToken (t : Token) : Compose Bool := do
  if (← peekToken) = t then
    dropToken
    return true
  else return false

/-- Goes over a token that has to be there. -/
def expectToken (t : Token) : Compose Unit := do if !(← acceptToken t) then misplaced

def atOneOf (ts : List Token) : Compose Bool := return ts.contains (← peekToken)

def addNode (n : Node) : Compose Nat := do
  let i := (← get).nodes.size
  modify fun s => { s with nodes := s.nodes.push n }
  return i

/-- Sets what a node holds. -/
def setBody (i : Nat) (b : Body) : Compose Unit :=
  modify fun s => { s with nodes := s.nodes.modify i fun n => { n with body := b } }

/-- A plain scalar without text. -/
def emptyNode : Compose Nat := addNode ⟨Tag.ofPlain "", .scalar ""⟩

def tie (anchor : Option String) (i : Nat) : Compose Unit :=
  match anchor with
  | none => return ()
  | some name => modify fun s => { s with anchors := (name, i) :: s.anchors }

/-- The anchor that comes next, if there is one. -/
def takeAnchor? : Compose (Option String) := do
  match ← peekToken with
  | .anchor name =>
    dropToken
    return some name
  | _ => return none

/-- The tag that comes next, a handle and what follows it, if there is one. -/
def takeTag? : Compose (Option (Option String × String)) := do
  match ← peekToken with
  | .tag handle suffix =>
    dropToken
    return some (handle, suffix)
  | _ => return none

/-- A tag with its handle written out. -/
def writtenOut : Option (Option String × String) → Compose (Option String)
  | none => return none
  | some (none, suffix) => return some suffix
  | some (some handle, suffix) => do
    match (← get).handles.lookup handle with
    | some start => return some (start ++ suffix)
    | none => misplaced

/-- The anchor and the tag of a node, which may come in either order. -/
def takeProperties : Compose (Option String × Option String) := do
  match ← takeAnchor? with
  | some name => return (some name, ← writtenOut (← takeTag?))
  | none =>
    match ← takeTag? with
    | none => return (none, none)
    | some tag =>
      let anchor ← takeAnchor?
      return (anchor, ← writtenOut (some tag))

/-- A tag that says something: a lone exclamation mark does not. -/
def tagOr (tag : Option String) (default : String) : String :=
  match tag with
  | none => default
  | some t => if t = "!" then default else t

/-- The tag of a scalar: a plain one, or one marked by a lone exclamation mark, takes its tag by its
text. -/
def scalarTag (tag : Option String) (text : String) (plain : Bool) : String :=
  if plain || tag = some "!" then tagOr tag (Tag.ofPlain text) else tagOr tag (Tag.standard "str")

/-- Where a node stands: in a flow collection, in a block collection, or as a value that may be a
sequence without indentation of its own. -/
inductive Place where
  | flow
  | block
  | blockValue
  deriving DecidableEq

/-- Starts a collection: adds its node, ties its anchor and goes over its first token. -/
def openNode (anchor tag : Option String) (word : String) (empty : Body) : Compose Nat := do
  let i ← addNode ⟨tagOr tag (Tag.standard word), empty⟩
  tie anchor i
  return i

/-- Must not come up twice in a document. -/
def checkAnchor (anchor : Option String) : Compose Unit := do
  match anchor with
  | none => return ()
  | some name => if ((← get).anchors.lookup name).isSome then misplaced

mutual

def takeNode : Nat → Place → Compose Nat
  | 0, _ => misplaced
  | fuel + 1, place => do
    match ← peekToken with
    | .alias name =>
      dropToken
      match (← get).anchors.lookup name with
      | some i => return i
      | none => misplaced
    | _ =>
      let (anchor, tag) ← takeProperties
      let t ← peekToken
      checkAnchor anchor
      let sequence := openNode anchor tag "seq" (.sequence [])
      let mapping := openNode anchor tag "map" (.mapping [])
      match t, place with
      | .item, .blockValue =>
        let i ← sequence
        setBody i (.sequence (← takeFlushItems fuel []))
        return i
      | .scalar text plain, _ =>
        dropToken
        let i ← addNode ⟨scalarTag tag text plain, .scalar text⟩
        tie anchor i
        return i
      | .flowSequenceStart, _ =>
        dropToken
        let i ← sequence
        setBody i (.sequence (← takeFlowItems fuel true []))
        return i
      | .flowMappingStart, _ =>
        dropToken
        let i ← mapping
        setBody i (.mapping (← takeFlowPairs fuel true []))
        return i
      | .blockSequenceStart, .block | .blockSequenceStart, .blockValue =>
        dropToken
        let i ← sequence
        setBody i (.sequence (← takeBlockItems fuel []))
        return i
      | .blockMappingStart, .block | .blockMappingStart, .blockValue =>
        dropToken
        let i ← mapping
        setBody i (.mapping (← takeBlockPairs fuel []))
        return i
      | _, _ =>
        if anchor.isNone && tag.isNone then misplaced
        else
          let i ← addNode ⟨tagOr tag (Tag.ofPlain ""), .scalar ""⟩
          tie anchor i
          return i

/-- A node, or an empty one if a token comes that ends it. -/
def takeNodeUnless : Nat → List Token → Place → Compose Nat
  | 0, _, _ => misplaced
  | fuel + 1, ends, place => do
    if ← atOneOf ends then emptyNode else takeNode fuel place

def takeBlockItems : Nat → List Nat → Compose (List Nat)
  | 0, _ => misplaced
  | fuel + 1, done => do
    if ← acceptToken .item then
      let i ← takeNodeUnless fuel [.item, .blockEnd] .block
      takeBlockItems fuel (i :: done)
    else
      expectToken .blockEnd
      return done.reverse

/-- The items of a sequence that is indented no further than the key in front of it. -/
def takeFlushItems : Nat → List Nat → Compose (List Nat)
  | 0, _ => misplaced
  | fuel + 1, done => do
    if ← acceptToken .item then
      let i ← takeNodeUnless fuel [.item, .key, .value, .blockEnd] .block
      takeFlushItems fuel (i :: done)
    else return done.reverse

def takeBlockPairs : Nat → List (Nat × Nat) → Compose (List (Nat × Nat))
  | 0, _ => misplaced
  | fuel + 1, done => do
    if ← acceptToken .key then
      let k ← takeNodeUnless fuel [.key, .value, .blockEnd] .blockValue
      let v ←
        if ← acceptToken .value then takeNodeUnless fuel [.key, .value, .blockEnd] .blockValue
        else emptyNode
      takeBlockPairs fuel ((k, v) :: done)
    else
      expectToken .blockEnd
      return done.reverse

/-- The items of a flow sequence; a pair among them is a mapping of its own. -/
def takeFlowItems : Nat → Bool → List Nat → Compose (List Nat)
  | 0, _, _ => misplaced
  | fuel + 1, first, done => do
    if ← acceptToken .flowSequenceEnd then return done.reverse
    else
      if !first then expectToken .comma
      if ← acceptToken .key then
        let i ← addNode ⟨Tag.standard "map", .mapping []⟩
        let k ← takeNodeUnless fuel [.value, .comma, .flowSequenceEnd] .flow
        let v ←
          if ← acceptToken .value then takeNodeUnless fuel [.comma, .flowSequenceEnd] .flow
          else emptyNode
        setBody i (.mapping [(k, v)])
        takeFlowItems fuel false (i :: done)
      else if ← acceptToken .flowSequenceEnd then return done.reverse
      else
        let i ← takeNode fuel .flow
        takeFlowItems fuel false (i :: done)

/-- The pairs of a flow mapping; a node without a colon is a key without a value. -/
def takeFlowPairs : Nat → Bool → List (Nat × Nat) → Compose (List (Nat × Nat))
  | 0, _, _ => misplaced
  | fuel + 1, first, done => do
    if ← acceptToken .flowMappingEnd then return done.reverse
    else
      if !first then expectToken .comma
      if ← acceptToken .key then
        let k ← takeNodeUnless fuel [.value, .comma, .flowMappingEnd] .flow
        let v ←
          if ← acceptToken .value then takeNodeUnless fuel [.comma, .flowMappingEnd] .flow
          else emptyNode
        takeFlowPairs fuel false ((k, v) :: done)
      else if ← acceptToken .flowMappingEnd then return done.reverse
      else
        let k ← takeNode fuel .flow
        let v ← emptyNode
        takeFlowPairs fuel false ((k, v) :: done)

end

/-- The handles that need no directive. -/
def standardHandles : List (String × String) := [("!", "!"), ("!!", Tag.standardStart)]

/-- The directives in front of a document; `major` is the version seen so far. -/
def takeDirectives : Nat → Option Nat → List (String × String) → Compose (List (String × String))
  | 0, _, _ => misplaced
  | fuel + 1, major, handles => do
    match ← peekToken with
    | .directive d =>
      dropToken
      match d with
      | .version n =>
        if major.isSome || n != 1 then misplaced else takeDirectives fuel (some n) handles
      | .tag handle expansion =>
        if (handles.lookup handle).isSome then misplaced
        else takeDirectives fuel major ((handle, expansion) :: handles)
      | .other => takeDirectives fuel major handles
    | _ => return handles

/-- Goes over marks that end a document. -/
def skipDocumentEnds : Nat → Compose Unit
  | 0 => misplaced
  | fuel + 1 => do if ← acceptToken .documentEnd then skipDocumentEnds fuel

def atDirective : Compose Bool := do
  match ← peekToken with
  | .directive _ => return true
  | _ => return false

/-- The only document of a stream, if there is one at all. Of a second one no more is read than the
directives in front of it. -/
def takeDocument (fuel : Nat) : Compose (Option Nat) := do
  if ← atOneOf [.streamEnd] then return none
  let root ←
    if (← atDirective) || (← atOneOf [.documentStart]) then do
      let handles ← takeDirectives fuel none []
      modify fun s => { s with handles := handles ++ standardHandles }
      expectToken .documentStart
      if (← atDirective) || (← atOneOf [.documentStart, .documentEnd, .streamEnd]) then emptyNode
      else takeNode fuel .block
    else do
      modify fun s => { s with handles := standardHandles }
      takeNode fuel .block
  skipDocumentEnds fuel
  if ← atOneOf [.streamEnd] then return some root
  else
    let _ ← takeDirectives fuel none []
    misplaced

/-- The document that a text holds, if it holds one. -/
def document? (s : String) : Except LoadFault (Option Document) := do
  let row := tokenRow s
  let (root, c) ← (takeDocument (2 * row.tokens.length + 4)).run
    { tokens := row.tokens, stop := row.stop }
  return root.map fun root => ⟨c.nodes, root⟩

end TypeStubs.Yaml
