import TypeStubs.Yaml.Node
import TypeStubs.Yaml.Scalar

/-!
# The data of a YAML document

The nodes of a document are checked in waves, so that of two faults the one nearer to the root is
found first. Only then are they put together to a value.
-/

namespace TypeStubs.Yaml

inductive CollectionKind where
  | list
  | map
  | set
  /-- A list of maps with one entry each. -/
  | pairs
  deriving DecidableEq, Repr

/-- The kinds of collections by the last words of their tags. -/
def CollectionKind.words : List (String × CollectionKind) :=
  [("seq", .list), ("map", .map), ("set", .set), ("omap", .pairs), ("pairs", .pairs)]

/-- What a node was found to be. -/
inductive Finding where
  | scalar (v : Value)
  | collection (kind : CollectionKind)

def Finding.isKey : Finding → Bool
  | scalar _ => true
  | collection _ => false

/-- The state of the check: the nodes, what is known of each, and the collections whose parts are
still to be looked at. -/
structure Survey where
  nodes : Array Node
  findings : Array (Option Finding)
  waiting : List Nat

abbrev Check := StateT Survey (Except LoadFault)

def refuse {α : Type} : Check α := throw .refused

def node (i : Nat) : Check Node := return (← get).nodes[i]?.getD ⟨"", .sequence []⟩

/-- The text of a scalar. A map may stand for a scalar by an entry whose key is an equals sign;
`fuel` bounds how often. -/
def scalarText : Nat → Nat → Check String
  | 0, _ => refuse
  | fuel + 1, i => do
    match (← node i).body with
    | .scalar s => return s
    | .sequence _ => refuse
    | .mapping pairs =>
      match ← pairs.findM? fun p => return (← node p.1).tag = Tag.standard "value" with
      | some p => scalarText fuel p.2
      | none => refuse

/-- Notes what a node was found to be. -/
def noteFinding (i : Nat) (f : Finding) : Check Unit :=
  modify fun s => { s with findings := s.findings.setIfInBounds i (some f) }

/-- The kind of node that a tag asks for. -/
def kindOf {α : Type} (words : List (String × α)) (tag : String) : Option α :=
  (words.find? fun w => tag = Tag.standard w.1).map Prod.snd

/-- Looks at a scalar of a kind. A time has to be a scalar of its own. -/
def visitScalar (i : Nat) (kind : ScalarKind) : Check Finding := do
  let text ← scalarText ((← get).nodes.size + 1) i
  let own := match (← node i).body with
    | .scalar _ => true
    | _ => false
  if kind = .timestamp && !own then throw (.stray .wrongType)
  else
    match kind.read text with
    | .ok v => return .scalar v
    | .error f => throw (.ofFault f)

/-- Looks at a node. A scalar is read at once; a collection waits for its turn. -/
def visit (i : Nat) : Check Finding := do
  match (← get).findings[i]?.join with
  | some f => return f
  | none =>
    let tag := (← node i).tag
    match kindOf ScalarKind.words tag, kindOf CollectionKind.words tag with
    | some kind, _ =>
      let f ← visitScalar i kind
      noteFinding i f
      return f
    | none, some kind =>
      noteFinding i (.collection kind)
      modify fun s => { s with waiting := s.waiting ++ [i] }
      return .collection kind
    | none, none => refuse

def pairsOf (i : Nat) : Check (List (Nat × Nat)) := do
  match (← node i).body with
  | .mapping pairs => return pairs
  | _ => refuse

def setPairs (i : Nat) (pairs : List (Nat × Nat)) : Check Unit :=
  modify fun s => { s with nodes := s.nodes.modify i fun n => { n with body := .mapping pairs } }

def isTagged (tag : String) (i : Nat) : Check Bool := return (← node i).tag = tag

def setTag (tag : String) (i : Nat) : Check Unit :=
  modify fun s => { s with nodes := s.nodes.modify i fun n => { n with tag } }

mutual

/-- Merges entries into a map: those of the maps under its merge keys go in front of its own.
`fuel` bounds the number of merge keys. -/
def flatten : Nat → Nat → Check Unit
  | 0, _ => refuse
  | fuel + 1, i => do
    let merged ← flattenFrom fuel i []
    setPairs i (merged ++ (← pairsOf i))
    for p in ← pairsOf i do
      if ← isTagged (Tag.standard "value") p.1 then setTag (Tag.standard "str") p.1

/-- Takes the merge keys of a map out of it, one after another, and gives the entries merged. -/
def flattenFrom : Nat → Nat → List (Nat × Nat) → Check (List (Nat × Nat))
  | 0, _, _ => refuse
  | fuel + 1, i, merged => do
    let pairs ← pairsOf i
    match ← pairs.findM? fun p => isTagged (Tag.standard "merge") p.1 with
    | none => return merged
    | some p =>
      setPairs i (pairs.erase p)
      let more ← mergedPairs fuel p.2
      flattenFrom fuel i (merged ++ more)

/-- The entries that a node under a merge key stands for: those of a map, or those of several
maps, the last one first. -/
def mergedPairs : Nat → Nat → Check (List (Nat × Nat))
  | 0, _ => refuse
  | fuel + 1, i => do
    match (← node i).body with
    | .scalar _ => refuse
    | .mapping _ =>
      flatten fuel i
      pairsOf i
    | .sequence items =>
      let all ← items.mapM fun j => do
        flatten fuel j
        pairsOf j
      return all.reverse.flatten

end

def visitPairs (pairs : List (Nat × Nat)) : Check Unit := do
  for p in pairs do
    if !(← visit p.1).isKey then refuse
    let _ ← visit p.2

def visitPair (i : Nat) : Check Unit := do
  match ← pairsOf i with
  | [p] =>
    let _ ← visit p.1
    let _ ← visit p.2
  | _ => refuse

def itemsOf (i : Nat) : Check (List Nat) := do
  match (← node i).body with
  | .sequence items => return items
  | _ => refuse

def pairCount (nodes : Array Node) : Nat :=
  nodes.foldl (fun count n =>
    match n.body with
    | .mapping pairs => count + pairs.length
    | _ => count) 0

def visitParts (fuel i : Nat) : CollectionKind → Check Unit
  | .list => do for j in ← itemsOf i do let _ ← visit j
  | .pairs => do for j in ← itemsOf i do visitPair j
  | .map | .set => do
    flatten fuel i
    visitPairs (← pairsOf i)

/-- Takes the next collection that waits. -/
def nextWaiting? : Check (Option Nat) := do
  match (← get).waiting with
  | [] => return none
  | i :: rest =>
    modify fun s => { s with waiting := rest }
    return some i

/-- Looks at collections until none waits. Every node waits at most once, which bounds `turns`. -/
def visitWaiting (fuel : Nat) : Nat → Check Unit
  | 0 => return ()
  | turns + 1 => do
    match ← nextWaiting? with
    | none => return ()
    | some i =>
      match (← get).findings[i]?.join with
      | some (.collection kind) => visitParts fuel i kind
      | _ => return ()
      visitWaiting fuel turns

namespace Survey

/-- The value of a node. Collections more than `depth` levels down are left empty: an alias may
lead back to a collection it is part of. -/
def value (s : Survey) : Nat → Nat → Value
  | depth, i =>
    match s.findings[i]?.join with
    | none => .null
    | some (.scalar v) => v
    | some (.collection kind) =>
      match depth, (s.nodes[i]?.getD ⟨"", .sequence []⟩).body with
      | depth + 1, .sequence items =>
        .list (items.map fun j => if kind = .list then s.value depth j else .tuple [])
      | depth + 1, .mapping pairs =>
        if kind = .map then
          .map (Value.entriesOf (pairs.map fun p => (s.value depth p.1, s.value depth p.2)))
        else if pairs.isEmpty then .list []
        else .object "set" []
      | _, _ => .list []

end Survey

/-- The number of levels of a document that are of interest: the root, its sections, their
entries, and the items of these. -/
def depthOfInterest : Nat := 4

def Document.survey (d : Document) : Except LoadFault Survey := do
  let n := d.nodes.size
  let check : Check Unit := do
    let _ ← visit d.root
    visitWaiting (4 * pairCount d.nodes + 4) (n + 1)
  let (_, s) ← check.run ⟨d.nodes, Array.replicate n none, []⟩
  return s

/-- The value that a text stands for; a text without a document is null. -/
def load : Loader := fun s => do
  match ← document? s with
  | none => return .null
  | some d => return (← d.survey).value depthOfInterest d.root

end TypeStubs.Yaml
