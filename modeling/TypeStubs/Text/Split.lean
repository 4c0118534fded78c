/-!
# Taking texts apart at separators
-/

namespace TypeStubs.Text

/-- The pieces of a list between the occurrences of `sep`; there is always at least one. -/
def pieces (sep : Char) : List Char → List (List Char)
  | [] => [[]]
  | c :: cs =>
    match pieces sep cs with
    | [] => [[c]]
    | p :: ps => if c = sep then [] :: p :: ps else (c :: p) :: ps

/-- The pieces of a text between the occurrences of `sep`. -/
def splitAt (sep : Char) (s : String) : List String := (pieces sep s.toList).map String.ofList

def segments (s : String) : List String := splitAt '.' s

/-- The text before the first `sep`, and the text after it if there is one. -/
def cutAtFirst (sep : Char) (s : String) : String × Option String :=
  let cs := s.toList
  match cs.dropWhile (· != sep) with
  | [] => (s, none)
  | _ :: rest => (String.ofList (cs.takeWhile (· != sep)), some (String.ofList rest))

/-- The text before the last `sep` if there is one, and the text after it. -/
def cutAtLast (sep : Char) (s : String) : Option String × String :=
  let cs := s.toList.reverse
  match cs.dropWhile (· != sep) with
  | [] => (none, s)
  | _ :: rest =>
    (some (String.ofList rest.reverse), String.ofList (cs.takeWhile (· != sep)).reverse)

/-- The rest of a text after a given beginning. -/
def afterStart? (start s : String) : Option String :=
  if start.toList.isPrefixOf s.toList then some (String.ofList (s.toList.drop start.length))
  else none

def startsWith (start s : String) : Bool := start.toList.isPrefixOf s.toList

end TypeStubs.Text
