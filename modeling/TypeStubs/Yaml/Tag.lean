import TypeStubs.Pattern.Matcher
import TypeStubs.Pattern.Reader

/-!
# Tags of YAML nodes

A node without a tag of its own takes one by its kind, and a plain scalar by its text.
-/

namespace TypeStubs.Yaml

namespace Tag

def standardStart : String := "tag:yaml.org,2002:"

def standard (word : String) : String := standardStart ++ word

/-- Is the text of a scalar of the form that a regular expression gives? -/
def hasForm (form text : String) : Bool :=
  match Pattern.read (fun _ => none) form with
  | .ok node => node.search text
  | .error _ => false

def boolForm : String :=
  "^(?:yes|Yes|YES|no|No|NO|true|True|TRUE|false|False|FALSE|on|On|ON|off|Off|OFF)$"

def floatForm : String :=
  "^(?:[-+]?(?:[0-9][0-9_]*)\\.[0-9_]*(?:[eE][-+][0-9]+)?" ++
    "|\\.[0-9][0-9_]*(?:[eE][-+][0-9]+)?" ++
    "|[-+]?[0-9][0-9_]*(?::[0-5]?[0-9])+\\.[0-9_]*" ++
    "|[-+]?\\.(?:inf|Inf|INF)" ++
    "|\\.(?:nan|NaN|NAN))$"

def intForm : String :=
  "^(?:[-+]?0b[0-1_]+" ++
    "|[-+]?0[0-7_]+" ++
    "|[-+]?(?:0|[1-9][0-9_]*)" ++
    "|[-+]?0x[0-9a-fA-F_]+" ++
    "|[-+]?[1-9][0-9_]*(?::[0-5]?[0-9])+)$"

def timestampForm : String :=
  "^(?:[0-9][0-9][0-9][0-9]-[0-9][0-9]-[0-9][0-9]" ++
    "|[0-9][0-9][0-9][0-9]-[0-9][0-9]?-[0-9][0-9]?" ++
    "(?:[Tt]|[ \\t]+)[0-9][0-9]?" ++
    ":[0-9][0-9]:[0-9][0-9](?:\\.[0-9]*)?" ++
    "(?:[ \\t]*(?:Z|[-+][0-9][0-9]?(?::[0-9][0-9])?))?)$"

def nullForm : String := "^(?:~|null|Null|NULL|)$"

/-- The forms of plain scalars: the characters with which they may begin, the regular expression
and the tag. -/
def forms : List (String × String × String) :=
  [("yYnNtTfFoO", boolForm, "bool"), ("-+0123456789.", floatForm, "float"),
   ("-+0123456789", intForm, "int"), ("<", "^(?:<<)$", "merge"), ("~nN", nullForm, "null"),
   ("0123456789", timestampForm, "timestamp"), ("=", "^(?:=)$", "value"),
   ("!&*", "^(?:!|&|\\*)$", "yaml")]

def ofPlain (text : String) : String :=
  match text.toList with
  | [] => standard "null"
  | c :: _ =>
    match forms.find? fun f => f.1.toList.contains c && hasForm f.2.1 text with
    | some f => standard f.2.2
    | none => standard "str"

end Tag

end TypeStubs.Yaml
