import TypeStubs.Fault
import TypeStubs.Text.Split

/-!
# Paths

A path is an anchor and the parts below it. Empty parts and single dots are dropped when a path is
read; two dots are kept.
-/

namespace TypeStubs

inductive Anchor where
  | relative
  | root
  /-- The root written with exactly two slashes. -/
  | doubleRoot
  deriving DecidableEq, Repr

def Anchor.text : Anchor → String
  | relative => ""
  | root => "/"
  | doubleRoot => "//"

structure Path where
  anchor : Anchor
  parts : List String
  deriving DecidableEq, Repr

namespace Path

def here : Path := ⟨.relative, []⟩

/-- The anchor of a text and what follows it. -/
def splitAnchor (cs : List Char) : Anchor × List Char :=
  let slashes := (cs.takeWhile (· == '/')).length
  (if slashes = 0 then .relative else if slashes = 2 then .doubleRoot else .root,
    cs.dropWhile (· == '/'))

/-- A part that counts. -/
def isPart (s : String) : Bool := !s.isEmpty && s != "."

def ofText (s : String) : Path :=
  let (anchor, rest) := splitAnchor s.toList
  ⟨anchor, (Text.splitAt '/' (String.ofList rest)).filter isPart⟩

/-- The path below another one; an anchored path stands for itself. -/
def join (base p : Path) : Path :=
  if p.anchor = .relative then ⟨base.anchor, base.parts ++ p.parts⟩ else p

def ofTexts (texts : List String) : Path :=
  texts.foldl (fun p s => p.join (ofText s)) here

def child (p : Path) (part : String) : Path := ⟨p.anchor, p.parts ++ [part]⟩

/-- The written form; the empty path is a dot. -/
def text (p : Path) : String :=
  let s := p.anchor.text ++ String.intercalate "/" p.parts
  if s.isEmpty then "." else s

def name? (p : Path) : Option String := p.parts.getLast?

def parent (p : Path) : Path := ⟨p.anchor, p.parts.dropLast⟩

def isAbsolute (p : Path) : Bool := p.anchor != .relative

/-- The anchor and the parts as one list, by which paths are ordered. -/
def components (p : Path) : List String :=
  if p.anchor = .relative then p.parts else p.anchor.text :: p.parts

/-- The order of lists of parts: the first difference counts, and a list comes before those that
it begins. -/
def partsLe : List String → List String → Bool
  | [], _ => true
  | _ :: _, [] => false
  | a :: as, b :: bs => if a = b then partsLe as bs else a < b

/-- Paths are ordered by their components. -/
def le (p q : Path) : Bool := partsLe p.components q.components

/-- The parts of `p` below `base`, if it lies there. -/
def below? (base p : Path) : Option (List String) :=
  if base.anchor = p.anchor && base.parts.isPrefixOf p.parts then
    some (p.parts.drop base.parts.length)
  else none

/-- The path without two-dot parts, each of which takes away the part before it. -/
def resolved (p : Path) : Path :=
  ⟨p.anchor, (p.parts.foldl (fun done s => if s = ".." then done.drop 1 else s :: done) []).reverse⟩

end Path

end TypeStubs
