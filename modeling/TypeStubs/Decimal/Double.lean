/-!
# Double-precision numbers

A finite number is a sign, a mantissa below `2 ^ 53` and a power of two. Every operation goes
through exact fractions and rounds once, to the nearest double, halves to the even mantissa.
-/

namespace TypeStubs.Decimal

/-- A double. Finite numbers have `2 ^ 52 ≤ mantissa`, or the least exponent `-1074`. -/
inductive Double where
  | nan
  | infinite (negative : Bool)
  | finite (negative : Bool) (mantissa : Nat) (exponent : Int)
  deriving DecidableEq, Repr

namespace Double

def twoTo (n : Nat) : Nat := Nat.pow 2 n

def tenTo (n : Nat) : Nat := Nat.pow 10 n

def leastExponent : Int := -1074

def greatestExponent : Int := 971

def zero (negative : Bool) : Double := .finite negative 0 leastExponent

/-- The quotient rounded to the nearest whole number, halves to the even one. -/
def roundQuotient (num den : Nat) : Nat :=
  let q := num / den
  let r := num % den
  if 2 * r < den then q
  else if den < 2 * r then q + 1
  else if q % 2 = 0 then q else q + 1

/-- `num / (den * 2 ^ e)` as a numerator and a denominator. -/
def scaled (num den : Nat) (e : Int) : Nat × Nat :=
  if 0 ≤ e then (num, den * twoTo e.toNat) else (num * twoTo (-e).toNat, den)

/-- The exponent at which the quotient has 53 bits, or the least one. -/
def exponentFor (num den : Nat) : Int :=
  let guess : Int := max ((Nat.log2 num : Int) - (Nat.log2 den : Int) - 53) leastExponent
  let (n, d) := scaled num den guess
  if n / d < twoTo 53 then guess else guess + 1

def ofFraction (negative : Bool) (num den : Nat) : Double :=
  if num = 0 then zero negative
  else
    let e := exponentFor num den
    let (n, d) := scaled num den e
    let m := roundQuotient n d
    let (m, e) := if m = twoTo 53 then (twoTo 52, e + 1) else (m, e)
    if greatestExponent < e then .infinite negative else .finite negative m e

/-- The number of decimal digits; zero has one. -/
def digitCount (n : Nat) : Nat := (Nat.toDigits 10 n).length

def ofDecimal (negative : Bool) (digits : Nat) (power : Int) : Double :=
  let size : Int := digitCount digits + power
  if digits = 0 || size < -330 then zero negative
  else if 320 < size then .infinite negative
  else if 0 ≤ power then ofFraction negative (digits * tenTo power.toNat) 1
  else ofFraction negative digits (tenTo (-power).toNat)

def ofInt (i : Int) : Double := ofFraction (i < 0) i.natAbs 1

/-- The magnitude of `m * 2 ^ e` as a fraction. -/
def fraction (m : Nat) (e : Int) : Nat × Nat :=
  if 0 ≤ e then (m * twoTo e.toNat, 1) else (m, twoTo (-e).toNat)

/-- The whole number a double is equal to. -/
def toInt? : Double → Option Int
  | .finite negative m e =>
    let (n, d) := fraction m e
    if n % d = 0 then some (if negative then -(n / d : Nat) else (n / d : Nat)) else none
  | _ => none

/-- Zeros of both signs are zero. -/
def isZero : Double → Bool
  | .finite _ m _ => m = 0
  | _ => false

/-- Numerical equality: zeros are equal, and no number equals one that is none. -/
def equal : Double → Double → Bool
  | .nan, _ => false
  | _, .nan => false
  | .infinite a, .infinite b => a == b
  | .finite a m e, .finite b n f => if m = 0 then n = 0 else a == b && m == n && e == f
  | _, _ => false

/-- The number with the other sign. -/
def negate : Double → Double
  | .nan => .nan
  | .infinite a => .infinite (!a)
  | .finite a m e => .finite (!a) m e

def add : Double → Double → Double
  | .finite a m e, .finite b n f =>
    if m = 0 ∧ n = 0 then zero (a && b)
    else
      let least := min e f
      let x : Int := m * twoTo (e - least).toNat
      let y : Int := n * twoTo (f - least).toNat
      let s := (if a then -x else x) + (if b then -y else y)
      let (num, den) := fraction s.natAbs least
      ofFraction (s < 0) num den
  | .infinite a, .infinite b => if a = b then .infinite a else .nan
  | .nan, _ => .nan
  | _, .nan => .nan
  | .infinite a, _ => .infinite a
  | _, .infinite b => .infinite b

def mul : Double → Double → Double
  | .finite a m e, .finite b n f =>
    let (num, den) := fraction (m * n) (e + f)
    ofFraction (a != b) num den
  | .nan, _ => .nan
  | _, .nan => .nan
  | .infinite a, .infinite b => .infinite (a != b)
  | .infinite a, .finite b n _ => if n = 0 then .nan else .infinite (a != b)
  | .finite a m _, .infinite b => if m = 0 then .nan else .infinite (a != b)

end Double

end TypeStubs.Decimal
