/-!
# Base 64

Characters outside the alphabet are skipped. Padding ends the text where it completes a group of
four.
-/

namespace TypeStubs.Yaml

def sextet? (c : Char) : Option Nat :=
  let n := c.toNat
  if 0x41 ≤ n ∧ n ≤ 0x5A then some (n - 0x41)
  else if 0x61 ≤ n ∧ n ≤ 0x7A then some (n - 0x61 + 26)
  else if 0x30 ≤ n ∧ n ≤ 0x39 then some (n - 0x30 + 52)
  else if c = '+' then some 62
  else if c = '/' then some 63
  else none

/-- Reads characters in groups of four. `place` is the place in the group, `pads` the number of
padding characters just seen and `left` the bits left over; bytes are held in reverse. -/
def base64From (place pads left : Nat) (done : List UInt8) : List Char → Option (List UInt8)
  | [] => if place = 0 then some done.reverse else none
  | c :: cs =>
    if c = '=' then
      if 2 ≤ place ∧ 4 ≤ place + pads + 1 then some done.reverse
      else base64From place (if 2 ≤ place then pads + 1 else pads) left done cs
    else
      match sextet? c with
      | none => base64From place pads left done cs
      | some v =>
        match place with
        | 0 => base64From 1 0 v done cs
        | 1 => base64From 2 0 (v % 16) (UInt8.ofNat (left * 4 + v / 16) :: done) cs
        | 2 => base64From 3 0 (v % 4) (UInt8.ofNat (left * 16 + v / 4) :: done) cs
        | _ => base64From 0 0 0 (UInt8.ofNat (left * 64 + v) :: done) cs

/-- The bytes that a text stands for. -/
def base64? (cs : List Char) : Option (List UInt8) := base64From 0 0 0 [] cs

end TypeStubs.Yaml
