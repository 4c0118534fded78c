/-!
# Patterns

Regular expressions as trees. Modes such as case-blindness are written into the leaves, so that a
tree means the same wherever it stands.
-/

namespace TypeStubs

namespace Pattern

/-- Classes of characters that have an escape of their own. -/
inductive Category where
  | digit
  | space
  | word
  deriving DecidableEq, Repr

inductive SetItem where
  | code (n : Nat)
  | range (first last : Nat)
  | category (k : Category) (negated asciiOnly : Bool)
  deriving DecidableEq, Repr

/-- Conditions on a place in the subject. -/
inductive Place where
  | subjectStart
  | subjectEnd
  /-- The end, or in front of a newline that ends the subject. -/
  | lastLineEnd
  | lineStart
  | lineEnd
  | wordEdge (asciiOnly : Bool)
  | noWordEdge (asciiOnly : Bool)
  deriving DecidableEq, Repr

/-- How a repetition goes about it. -/
inductive Greed where
  | greedy
  | lazy
  /-- What was taken is not given back. -/
  | possessive
  deriving DecidableEq, Repr

/-- How letters compare. -/
inductive Casing where
  | exact
  /-- Case-blind among all letters. -/
  | blind
  /-- Case-blind among ASCII letters. -/
  | asciiBlind
  deriving DecidableEq, Repr

inductive Node where
  | code (casing : Casing) (n : Nat)
  | any (newlineToo : Bool)
  | set (casing : Casing) (negated : Bool) (items : List SetItem)
  | place (p : Place)
  | sequence (nodes : List Node)
  | branch (alternatives : List Node)
  | capture (group : Nat) (body : Node)
  | repetition (least : Nat) (most : Option Nat) (greed : Greed) (body : Node)
  /-- What lies ahead, or as many characters behind. -/
  | look (behind : Option Nat) (negated : Bool) (body : Node)
  | atomic (body : Node)
  | sameAs (casing : Casing) (group : Nat)
  | ifCaptured (group : Nat) (yes no : Node)
  deriving Repr

/-- The least and the greatest number of characters a pattern takes. -/
structure Width where
  least : Nat
  /-- None where there is no bound. -/
  most : Option Nat
  deriving DecidableEq, Repr

namespace Width

def add (a b : Width) : Width :=
  ⟨a.least + b.least, a.most.bind fun m => b.most.map (m + ·)⟩

def join (a b : Width) : Width :=
  ⟨min a.least b.least, a.most.bind fun m => b.most.map (max m)⟩

def times (a : Width) (least : Nat) (most : Option Nat) : Width :=
  ⟨a.least * least,
    match most with
    | some k => a.most.map (· * k)
    | none => if a.most = some 0 then some 0 else none⟩

/-- Is there only one width? -/
def isFixed (a : Width) : Bool := a.most == some a.least

end Width

end Pattern

end TypeStubs
