import TypeStubs.Text.Case

/-!
# Names of characters

The characters of the basic Latin block by their names, in which the case of letters is of no
account.
-/

namespace TypeStubs.Text

/-- The names of the letters of a row. -/
def letterNames (row : String) : List String :=
  "abcdefghijklmnopqrstuvwxyz".toList.map fun c => row.push c

/-- The names of the block in the order of their characters, in parts that come with the number of
the first of them. -/
def basicNames : List (Nat × List String) :=
  [(0x20, ["space", "exclamation mark", "quotation mark", "number sign", "dollar sign",
      "percent sign", "ampersand", "apostrophe", "left parenthesis", "right parenthesis",
      "asterisk", "plus sign", "comma", "hyphen-minus", "full stop", "solidus", "digit zero",
      "digit one", "digit two", "digit three", "digit four", "digit five", "digit six",
      "digit seven", "digit eight", "digit nine", "colon", "semicolon", "less-than sign",
      "equals sign", "greater-than sign", "question mark", "commercial at"]),
   (0x41, letterNames "latin capital letter "),
   (0x5B, ["left square bracket", "reverse solidus", "right square bracket", "circumflex accent",
      "low line", "grave accent"]),
   (0x61, letterNames "latin small letter "),
   (0x7B, ["left curly bracket", "vertical line", "right curly bracket", "tilde"])]

/-- The number of the character of a name, if it is one of the block. -/
def basicCode? (name : String) : Option Nat :=
  basicNames.findSome? fun (first, names) => (names.idxOf? (lower name)).map (first + ·)

end TypeStubs.Text
