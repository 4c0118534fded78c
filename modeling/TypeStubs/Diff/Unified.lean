import TypeStubs.Diff.Blocks

/-!
# Unified differences

Changes are shown with up to three equal lines around them. Changes that are further apart than
twice as many lines are shown apart.
-/

namespace TypeStubs.Diff

/-- What happens to a stretch of lines. -/
inductive Action where
  | keep
  | replace
  deriving DecidableEq, Repr

/-- A stretch of the first text and the stretch of the second that stands in its place. -/
structure Change where
  action : Action
  leftFrom : Nat
  leftTo : Nat
  rightFrom : Nat
  rightTo : Nat
  deriving DecidableEq, Repr

/-- The changes from two places on, given the blocks ahead; the last block is an empty one at both
ends. -/
def changesFrom (i j : Nat) : List Block → List Change
  | [] => []
  | b :: rest =>
    let gap := if i < b.left ∨ j < b.right then [⟨.replace, i, b.left, j, b.right⟩] else []
    let same := if 0 < b.size then
        [⟨.keep, b.left, b.left + b.size, b.right, b.right + b.size⟩] else []
    gap ++ same ++ changesFrom (b.left + b.size) (b.right + b.size) rest

/-- All changes that make the second text of the first. -/
def changes (left right : List String) : List Change :=
  changesFrom 0 0 (blocks left right ++ [⟨left.length, right.length, 0⟩])

def context : Nat := 3

def Change.ending (c : Change) : Change :=
  { c with
    leftFrom := max c.leftFrom (c.leftTo - context)
    rightFrom := max c.rightFrom (c.rightTo - context) }

def Change.beginning (c : Change) : Change :=
  { c with
    leftTo := min c.leftTo (c.leftFrom + context)
    rightTo := min c.rightTo (c.rightFrom + context) }

def onFirst (f : Change → Change) : List Change → List Change
  | [] => []
  | c :: rest => f c :: rest

def onLast (f : Change → Change) (cs : List Change) : List Change :=
  (onFirst f cs.reverse).reverse

/-- Cuts an equal stretch, and leaves a change as it is. -/
def cutKept (f : Change → Change) (c : Change) : Change := if c.action = .keep then f c else c

/-- Groups changes; `group` is the current group in reverse. -/
def groupsFrom (group : List Change) : List Change → List (List Change)
  | [] => [group.reverse]
  | c :: rest =>
    if c.action = .keep ∧ 2 * context < c.leftTo - c.leftFrom then
      (c.beginning :: group).reverse :: groupsFrom [c.ending] rest
    else groupsFrom (c :: group) rest

def showsChange (group : List Change) : Bool := group.any (·.action == .replace)

def groups (left right : List String) : List (List Change) :=
  let cs := onLast (cutKept .beginning) (onFirst (cutKept .ending) (changes left right))
  (groupsFrom [] cs).filter fun g => !g.isEmpty && (g.length != 1 || showsChange g)

/-- A stretch of lines as it is written at the head of a group. -/
def rangeText (start stop : Nat) : String :=
  let size := stop - start
  if size = 1 then toString (start + 1)
  else toString (if size = 0 then start else start + 1) ++ "," ++ toString size

def stretch (lines : List String) (start stop : Nat) : List String :=
  (lines.drop start).take (stop - start)

/-- The lines of a change, each with its mark in front. -/
def Change.lines (left right : List String) (c : Change) : List String :=
  let old := stretch left c.leftFrom c.leftTo
  match c.action with
  | .keep => old.map (" " ++ ·)
  | .replace => old.map ("-" ++ ·) ++ (stretch right c.rightFrom c.rightTo).map ("+" ++ ·)

def groupLines (left right : List String) (group : List Change) : List String :=
  match group.head?, group.getLast? with
  | some first, some last =>
    ("@@ -" ++ rangeText first.leftFrom last.leftTo ++ " +" ++
      rangeText first.rightFrom last.rightTo ++ " @@\n") ::
        group.flatMap (Change.lines left right)
  | _, _ => []

/-- The difference of two texts given by lines. Equal texts have an empty difference. -/
def unified (left right : List String) (leftName rightName : String) : String :=
  match groups left right with
  | [] => ""
  | gs =>
    String.join (("--- " ++ leftName ++ "\n") :: ("+++ " ++ rightName ++ "\n") ::
      gs.flatMap (groupLines left right))

end TypeStubs.Diff
