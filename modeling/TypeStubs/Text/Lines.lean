/-!
# Lines

Two notions of line: on reading a file, the three newline forms become one; for comparing texts,
every character that ends a line counts and is kept.
-/

namespace TypeStubs.Text

def unifyNewlines : List Char → List Char
  | [] => []
  | '\r' :: '\n' :: cs => '\n' :: unifyNewlines cs
  | '\r' :: cs => '\n' :: unifyNewlines cs
  | c :: cs => c :: unifyNewlines cs

/-- Characters that end a line, the carriage return included. -/
def endsLine (c : Char) : Bool :=
  let n := c.toNat
  (10 ≤ n && n ≤ 13) || (28 ≤ n && n ≤ 30) || n == 0x85 || n == 0x2028 || n == 0x2029

/-- The lines with their ends; `line` is the reverse of what the current line holds so far. -/
def linesFrom (line : List Char) : List Char → List (List Char)
  | [] => if line.isEmpty then [] else [line.reverse]
  | '\r' :: '\n' :: cs => ('\n' :: '\r' :: line).reverse :: linesFrom [] cs
  | c :: cs =>
    if endsLine c then (c :: line).reverse :: linesFrom [] cs else linesFrom (c :: line) cs

/-- The lines of a text, each with the characters that end it. -/
def lines (s : String) : List String := (linesFrom [] s.toList).map String.ofList

end TypeStubs.Text
