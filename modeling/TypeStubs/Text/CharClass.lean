/-!
# Classes of characters

A class is stored as the sorted code points at which membership switches on or off.
-/

namespace TypeStubs.Text

/-- The sorted code points at which membership changes, the first one switching it on. -/
structure CharClass where
  switches : Array Nat

/-- A character belongs to the class when an odd number of switches lie at or below it. -/
def CharClass.contains (k : CharClass) (c : Char) : Bool :=
  k.switches.foldl (fun inside s => if s ≤ c.toNat then !inside else inside) false

end TypeStubs.Text
