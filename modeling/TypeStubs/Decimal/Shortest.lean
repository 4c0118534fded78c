import TypeStubs.Decimal.Double

/-!
# The shortest decimal text of a double

The fewest digits that read back as the same double are written; of two such decimals the nearer
one. Numbers from `10 ^ -4` to below `10 ^ 16` are written positionally.
-/

namespace TypeStubs.Decimal

namespace Double

/-- The largest `k` among the guesses at which `10 ^ k` does not exceed the fraction. -/
def decimalOrder (num den : Nat) : Int :=
  let reaches (k : Int) : Bool :=
    if 0 ≤ k then den * tenTo k.toNat ≤ num else den ≤ num * tenTo (-k).toNat
  let guess : Int := (digitCount num : Int) - (digitCount den : Int)
  if reaches guess then guess else guess - 1

/-- The two neighbours of the fraction among the multiples of `10 ^ power`, and whether the upper
one is nearer. -/
def neighbours (num den : Nat) (power : Int) : Nat × Nat × Bool :=
  let (n, d) :=
    if 0 ≤ power then (num, den * tenTo power.toNat) else (num * tenTo (-power).toNat, den)
  let q := n / d
  (q, q + 1, roundQuotient n d != q)

abbrev Digits := Nat × Int

/-- The best decimal with `count` digits that reads back as `m * 2 ^ e`. -/
def decimalWith? (m : Nat) (e : Int) (count : Nat) : Option Digits :=
  let (num, den) := fraction m e
  let power := decimalOrder num den + 1 - count
  let (lower, upper, upperFirst) := neighbours num den power
  let candidates := if upperFirst then [upper, lower] else [lower, upper]
  (candidates.find? fun c => ofDecimal false c power == .finite false m e).map (·, power)

/-- The first hit among digit counts from `count` on. -/
def shortestFrom (m : Nat) (e : Int) : Nat → Nat → Digits
  | _, 0 => (m, 0)
  | count, tries + 1 => (decimalWith? m e count).getD (shortestFrom m e (count + 1) tries)

/-- Digits without the zeros at their end. -/
def trimZeros : Nat → Digits → Digits
  | 0, d => d
  | tries + 1, (n, p) => if n ≠ 0 ∧ n % 10 = 0 then trimZeros tries (n / 10, p + 1) else (n, p)

/-- The digits written for `m * 2 ^ e`; a double needs at most seventeen. -/
def shortest (m : Nat) (e : Int) : Digits := trimZeros 20 (shortestFrom m e 1 17)

def zeros (n : Nat) : String := String.ofList (List.replicate n '0')

/-- An exponent with its sign and at least two digits. -/
def exponentText (e : Int) : String :=
  let digits := toString e.natAbs
  (if e < 0 then "e-" else "e+") ++ (if digits.length < 2 then "0" ++ digits else digits)

/-- Digits with a decimal point after the first `point` of them, which may lie outside them. -/
def positional (digits : String) (point : Int) : String :=
  let count := digits.length
  if point ≤ 0 then "0." ++ zeros (-point).toNat ++ digits
  else if (count : Int) ≤ point then digits ++ zeros (point.toNat - count) ++ ".0"
  else
    String.ofList (digits.toList.take point.toNat) ++ "." ++
      String.ofList (digits.toList.drop point.toNat)

/-- One digit, the point, the other digits and the exponent. -/
def scientific (digits : String) (point : Int) : String :=
  match digits.toList with
  | [] => ""
  | d :: ds =>
    String.ofList (d :: if ds.isEmpty then [] else '.' :: ds) ++ exponentText (point - 1)

def magnitudeText (m : Nat) (e : Int) : String :=
  if m = 0 then "0.0"
  else
    let (n, power) := shortest m e
    let digits := toString n
    let point : Int := digits.length + power
    if -4 < point ∧ point ≤ 16 then positional digits point else scientific digits point

def text : Double → String
  | .nan => "nan"
  | .infinite negative => if negative then "-inf" else "inf"
  | .finite negative m e => (if negative then "-" else "") ++ magnitudeText m e

end Double

end TypeStubs.Decimal
