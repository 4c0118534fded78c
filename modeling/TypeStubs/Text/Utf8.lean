/-!
# UTF-8

Decoding goes as far as it can and says what stopped it: a byte that starts no character, a
sequence that goes wrong, or a sequence cut short by the end of the data.
-/

namespace TypeStubs.Text.Utf8

/-- Why decoding stopped. -/
inductive Defect where
  | badStart
  | badContinuation
  | cutShort
  deriving DecidableEq, Repr

/-- A defect with the bytes it covers: the position of the first, their number and its value. -/
structure Fault where
  defect : Defect
  position : Nat
  count : Nat
  byte : UInt8
  deriving DecidableEq, Repr

/-- What was read before the end or the first fault. -/
structure Decoded where
  text : List Char
  fault : Option Fault
  deriving DecidableEq, Repr

/-- A byte that may follow the first one of a sequence. -/
def isTail (b : UInt8) : Bool := 0x80 ≤ b && b ≤ 0xBF

/-- May `b` be the second byte after `a`? It rules out overlong forms, surrogates and numbers
past the last character. -/
def isSecond (a b : UInt8) : Bool :=
  isTail b && !(a == 0xE0 && b < 0xA0) && !(a == 0xED && 0xA0 ≤ b) &&
    !(a == 0xF0 && b < 0x90) && !(a == 0xF4 && 0x90 ≤ b)

def tailBits (b : UInt8) : Nat := b.toNat % 64

/-- Puts a character in front of what was read after it. -/
def Decoded.cons (c : Char) (d : Decoded) : Decoded := ⟨c :: d.text, d.fault⟩

/-- Nothing but a fault. -/
def Decoded.stop (defect : Defect) (position count : Nat) (byte : UInt8) : Decoded :=
  ⟨[], some ⟨defect, position, count, byte⟩⟩

def decodeFrom (i : Nat) : List UInt8 → Decoded
  | [] => ⟨[], none⟩
  | a :: rest =>
    if a < 0x80 then .cons (Char.ofNat a.toNat) (decodeFrom (i + 1) rest)
    else if a < 0xC2 || 0xF5 ≤ a then .stop .badStart i 1 a
    else if a < 0xE0 then
      match rest with
      | [] => .stop .cutShort i 1 a
      | b :: rest =>
        if isTail b then
          .cons (Char.ofNat ((a.toNat % 32) * 64 + tailBits b)) (decodeFrom (i + 2) rest)
        else .stop .badContinuation i 1 a
    else if a < 0xF0 then
      match rest with
      | [] => .stop .cutShort i 1 a
      | b :: rest =>
        if !isSecond a b then .stop .badContinuation i 1 a
        else
          match rest with
          | [] => .stop .cutShort i 2 a
          | c :: rest =>
            if isTail c then
              .cons (Char.ofNat ((a.toNat % 16) * 4096 + tailBits b * 64 + tailBits c))
                (decodeFrom (i + 3) rest)
            else .stop .badContinuation i 2 a
    else
      match rest with
      | [] => .stop .cutShort i 1 a
      | b :: rest =>
        if !isSecond a b then .stop .badContinuation i 1 a
        else
          match rest with
          | [] => .stop .cutShort i 2 a
          | c :: rest =>
            if !isTail c then .stop .badContinuation i 2 a
            else
              match rest with
              | [] => .stop .cutShort i 3 a
              | d :: rest =>
                if isTail d then
                  .cons (Char.ofNat
                      ((a.toNat % 8) * 262144 + tailBits b * 4096 + tailBits c * 64 + tailBits d))
                    (decodeFrom (i + 4) rest)
                else .stop .badContinuation i 3 a

/-- Reads bytes as characters. -/
def decode (bytes : List UInt8) : Decoded := decodeFrom 0 bytes

/-- The whole text, or the first fault. -/
def decodeAll (bytes : List UInt8) : Except Fault (List Char) :=
  match decode bytes with
  | ⟨text, none⟩ => .ok text
  | ⟨_, some f⟩ => .error f

/-- Reads the beginning of a longer text: a sequence cut short at the end is left out. -/
def decodeStart (bytes : List UInt8) : Except Fault (List Char) :=
  match decode bytes with
  | ⟨text, none⟩ => .ok text
  | ⟨text, some f⟩ => if f.defect = .cutShort then .ok text else .error f

def encodeChar (c : Char) : List UInt8 :=
  let n := c.toNat
  if n < 0x80 then [UInt8.ofNat n]
  else if n < 0x800 then [UInt8.ofNat (0xC0 + n / 64), UInt8.ofNat (0x80 + n % 64)]
  else if n < 0x10000 then
    [UInt8.ofNat (0xE0 + n / 4096), UInt8.ofNat (0x80 + n / 64 % 64), UInt8.ofNat (0x80 + n % 64)]
  else
    [UInt8.ofNat (0xF0 + n / 262144), UInt8.ofNat (0x80 + n / 4096 % 64),
     UInt8.ofNat (0x80 + n / 64 % 64), UInt8.ofNat (0x80 + n % 64)]

def encode (cs : List Char) : List UInt8 := cs.flatMap encodeChar

end TypeStubs.Text.Utf8
