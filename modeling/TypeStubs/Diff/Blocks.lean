/-!
# Common blocks of two texts

Blocks are found by taking the longest common run of lines, the first one of those, and looking on
both sides of it. In long texts, lines that come up very often do not start a run.
-/

namespace TypeStubs.Diff

/-- A run of `size` lines that the first text has from `left` on and the second from `right` on. -/
structure Block where
  left : Nat
  right : Nat
  size : Nat
  deriving DecidableEq, Repr

/-- A line and whether it may start a run. -/
abbrev Line := String × Bool

/-- Texts of this many lines are long. -/
def longText : Nat := 200

/-- The lines of the second text. In a long one, a line that makes up more than a hundredth of it
starts no run. -/
def markLines (lines : List String) : List Line :=
  let n := lines.length
  if n < longText then lines.map (·, true)
  else lines.map fun s => (s, decide (lines.count s ≤ n / 100 + 1))

/-- The lengths of the runs that end at a line of the first text and each line of the second, given
those for the line before. -/
def runLengths (line : String) (right : List Line) (before : List Nat) : List Nat :=
  List.zipWith (fun r n => if r.2 && r.1 == line then n + 1 else 0) right (0 :: before)

/-- The better of a block and the runs that end at line `i`; `j` counts lines of the second text. -/
def bestInRow (i j : Nat) (best : Block) : List Nat → Block
  | [] => best
  | k :: rest =>
    bestInRow i (j + 1) (if best.size < k then ⟨i + 1 - k, j + 1 - k, k⟩ else best) rest

/-- The first of the longest runs. -/
def longestRun (i : Nat) (best : Block) (before : List Nat) (right : List Line) :
    List String → Block
  | [] => best
  | line :: rest =>
    let row := runLengths line right before
    longestRun (i + 1) (bestInRow i 0 best row) row right rest

/-- The number of equal lines at the beginning of two lists. -/
def commonPrefix : List String → List String → Nat
  | a :: as, b :: bs => if a = b then commonPrefix as bs + 1 else 0
  | _, _ => 0

/-- The block made longer on both sides as far as lines are equal. -/
def extend (left : List String) (right : List String) (b : Block) : Block :=
  let back := commonPrefix (left.take b.left).reverse (right.take b.right).reverse
  let b : Block := ⟨b.left - back, b.right - back, b.size + back⟩
  let more := commonPrefix (left.drop (b.left + b.size)) (right.drop (b.right + b.size))
  { b with size := b.size + more }

def longestBlock (left : List String) (right : List Line) : Block :=
  extend left (right.map Prod.fst) (longestRun 0 ⟨0, 0, 0⟩ (right.map fun _ => 0) right left)

def Block.shift (b : Block) (i j : Nat) : Block := ⟨b.left + i, b.right + j, b.size⟩

/-- The blocks of two texts in order; the fuel is more than the number of lines of the first. -/
def blocksFrom : Nat → Nat → Nat → List String → List Line → List Block
  | 0, _, _, _, _ => []
  | fuel + 1, i, j, left, right =>
    if left.isEmpty || right.isEmpty then []
    else
      let b := longestBlock left right
      if b.size = 0 then []
      else
        blocksFrom fuel i j (left.take b.left) (right.take b.right) ++ [b.shift i j] ++
          blocksFrom fuel (i + b.left + b.size) (j + b.right + b.size)
            (left.drop (b.left + b.size)) (right.drop (b.right + b.size))

/-- Blocks that touch are put together. -/
def joinBlocks : List Block → List Block
  | [] => []
  | b :: rest =>
    match joinBlocks rest with
    | [] => [b]
    | c :: more =>
      if b.left + b.size = c.left ∧ b.right + b.size = c.right then
        ⟨b.left, b.right, b.size + c.size⟩ :: more
      else b :: c :: more

def blocks (left right : List String) : List Block :=
  joinBlocks (blocksFrom (left.length + 1) 0 0 left (markLines right))

end TypeStubs.Diff
