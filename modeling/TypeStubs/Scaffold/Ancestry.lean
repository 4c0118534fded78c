/-!
# Linear ancestry

The ancestors of a class with several bases are put into one row: each base keeps the order of its
own row, and bases keep their order among themselves. There may be no such row.
-/

namespace TypeStubs.Scaffold

/-- May a class come next? It must not stand further back in any row. -/
def mayComeNext (rows : List (List Nat)) (c : Nat) : Bool :=
  rows.all fun row => !(row.drop 1).contains c

/-- The rows without a class at their front. -/
def advance (c : Nat) (rows : List (List Nat)) : List (List Nat) :=
  rows.map fun row => if row.head? = some c then row.drop 1 else row

/-- Merges rows; the fuel is at least the number of entries in them. -/
def mergeRows : Nat → List (List Nat) → Option (List Nat)
  | 0, rows => if rows.all List.isEmpty then some [] else none
  | fuel + 1, rows =>
    if rows.all List.isEmpty then some []
    else
      match (rows.filterMap List.head?).find? (mayComeNext rows) with
      | none => none
      | some c => (mergeRows fuel (advance c rows)).map (c :: ·)

/-- The ancestry of a class, given the rows of its bases, each of which begins with the base
itself. -/
def ancestry? (bases : List Nat) (rowOf : Nat → List Nat) : Option (List Nat) :=
  let rows := bases.map rowOf ++ [bases]
  if bases.Nodup then mergeRows (rows.flatten.length) rows else none

end TypeStubs.Scaffold
