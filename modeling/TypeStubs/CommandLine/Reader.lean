import TypeStubs.CommandLine.Word

/-!
# Reading the command line

Words are taken from left to right. What no option and no operand takes is left over, which is
complained about only when everything else is in order.
-/

namespace TypeStubs.CommandLine

/-- Why reading stops early. -/
inductive Halt where
  | help
  | complaint (c : Complaint)

/-- How a word with short options ends. -/
inductive Ending where
  /-- In an option without an attached value. -/
  | bare (form : OptionForm)
  | value (form : OptionForm) (text : String)
  /-- In something that is no option. -/
  | extra (text : String)

/-- A word with several options: flags, and how it ends. -/
structure Cluster where
  flags : List OptionForm
  ending : Ending

def shortName (c : Char) : String := String.ofList ['-', c]

/-- What is attached to a flag: more flags if the flag is a short one. -/
def Grammar.openCluster (g : Grammar) (flags : List OptionForm) (form : OptionForm)
    (short marked : Bool) : List Char → Except Complaint Cluster
  | [] =>
    if form.effect.takesValue then .ok ⟨flags, .value form ""⟩ else .error (.valueIgnored form "")
  | c :: cs =>
    let text := String.ofList (c :: cs)
    if form.effect.takesValue then .ok ⟨flags, .value form text⟩
    else if !short || marked || c = '-' then .error (.valueIgnored form text)
    else
      match g.option? (shortName c), cs with
      | none, _ => .ok ⟨flags ++ [form], .extra ("-" ++ text)⟩
      | some next, [] => .ok ⟨flags ++ [form], .bare next⟩
      | some next, d :: ds =>
        if d = '=' then g.openCluster (flags ++ [form]) next true true ds
        else g.openCluster (flags ++ [form]) next true false (d :: ds)

def Grammar.cluster (g : Grammar) (name : String) (form : OptionForm) :
    Option Attached → Except Complaint Cluster
  | none => .ok ⟨[], .bare form⟩
  | some a => g.openCluster [] form (isShort name) a.marked a.text.toList

/-- Carries out an option without a value. -/
def OptionForm.apply (o : OptionForm) (d : Draft) : Except Halt Draft :=
  match o.effect with
  | .help => .error .help
  | .flag set => .ok (set d)
  | .text _ | .number _ => .error (.complaint (.valueExpected o))

def OptionForm.applyTo (o : OptionForm) (given : String) (d : Draft) : Except Halt Draft :=
  match o.effect with
  | .text set => .ok (set given d)
  | .number set =>
    match Decimal.integer? 10 given with
    | some i => .ok (set i d)
    | none => .error (.complaint (.notNumber o given))
  | .help | .flag _ => .error (.complaint (.valueIgnored o given))

/-- What has been read: the draft, words left over, and a command with the words after it. -/
structure Scan where
  draft : Draft
  extras : List String := []
  command : Option (String × List String) := none

namespace Scan

def leave (s : Scan) (words : List String) : Scan := { s with extras := s.extras ++ words }

def applyFlags (s : Scan) (flags : List OptionForm) : Except Halt Scan := do
  return { s with draft := ← flags.foldlM (fun d o => o.apply d) s.draft }

/-- Carries out the options of a word. The word after it may be the value of the last one; the
flag says whether it was taken. -/
def applyCluster (s : Scan) (c : Cluster) (following : Option Word) : Except Halt (Scan × Bool) :=
  match c.ending, following with
  | .value form text, _ => do
    let s ← s.applyFlags c.flags
    return ({ s with draft := ← form.applyTo text s.draft }, false)
  | .extra text, _ => do return ((← s.applyFlags c.flags).leave [text], false)
  | .bare form, some (.operand value) =>
    if form.effect.takesValue then do
      let s ← s.applyFlags c.flags
      return ({ s with draft := ← form.applyTo value s.draft }, true)
    else do return (← s.applyFlags (c.flags ++ [form]), false)
  | .bare form, _ =>
    if form.effect.takesValue then .error (.complaint (.valueExpected form))
    else do return (← s.applyFlags (c.flags ++ [form]), false)

/-- Takes the name of a command with all words after it. -/
def takeCommand (s : Scan) (names : List String) (name : String) (rest : List Word) :
    Except Halt Scan :=
  if names.contains name then .ok { s with command := some (name, rest.map Word.text) }
  else .error (.complaint (.unknownCommand name names))

end Scan

/-- Words without a separator at their beginning. -/
def withoutSeparator : List Word → List Word
  | .separator :: rest => rest
  | words => words

theorem length_withoutSeparator (words : List Word) :
    (withoutSeparator words).length ≤ words.length := by
  cases words with
  | nil => simp [withoutSeparator]
  | cons w rest => cases w <;> simp [withoutSeparator]

/-- Takes words from left to right. `free` says that the operand has not been taken yet; a
separator next to the operand goes with it. -/
def Grammar.scan (g : Grammar) (free : Bool) (s : Scan) (words : List Word) : Except Halt Scan :=
  match words with
  | [] => .ok s
  | .unknown text :: rest => g.scan free (s.leave [text]) rest
  | .option _ name form attached :: rest =>
    match g.cluster name form attached with
    | .error c => .error (.complaint c)
    | .ok c =>
      match s.applyCluster c rest.head? with
      | .error h => .error h
      | .ok (s, taken) => g.scan free s (if taken then rest.drop 1 else rest)
  | .operand text :: rest =>
    match free, g.operand with
    | true, .optional set =>
      g.scan false { s with draft := set text s.draft } (withoutSeparator rest)
    | true, .command names => s.takeCommand names text rest
    | _, _ => g.scan free (s.leave [text]) rest
  | .separator :: rest =>
    match free, g.operand, rest with
    | true, .optional set, w :: later => g.scan false { s with draft := set w.text s.draft } later
    | true, .optional _, [] => .ok s
    | true, .command names, _ :: _ => s.takeCommand names separatorText rest
    | _, _, rest => .ok (s.leave (separatorText :: rest.map Word.text))
termination_by words.length
decreasing_by
  · simp
  · have : (rest.drop 1).length ≤ rest.length := by rw [List.length_drop]; omega
    simp only [List.length_cons]
    split <;> omega
  · have := length_withoutSeparator rest
    simp
    omega
  · simp
  · simp only [wfParam, List.length_cons]
    omega

/-- Reads the words of a program or command into a draft. -/
def Grammar.read (g : Grammar) (d : Draft) (words : List String) : Except Halt Scan :=
  match g.readWords words with
  | .error c => .error (.complaint c)
  | .ok ws => g.scan true { draft := d } ws

inductive Command where
  | generate
  | list
  | serve
  deriving DecidableEq, Repr

namespace Command

def ofName (name : String) : Command :=
  if name = "generate" then generate else if name = "list" then list else serve

def grammar : Command → Grammar
  | generate => generateGrammar
  | list => listGrammar
  | serve => serveGrammar

end Command

/-- Why the program does not start: help was asked for, or a complaint by a program of a name. -/
inductive Refusal where
  | help
  | complaint (program : String) (c : Complaint)

def Grammar.refusal (g : Grammar) : Halt → Refusal
  | .help => .help
  | .complaint c => .complaint g.program c

def read (words : List String) : Except Refusal (Command × Draft) := do
  let main ← (mainGrammar.read {} words).mapError mainGrammar.refusal
  match main.command with
  | none => throw (.complaint mainGrammar.program (.required "command"))
  | some (name, rest) =>
    let command := Command.ofName name
    let scan ← (command.grammar.read main.draft rest).mapError command.grammar.refusal
    match main.extras ++ scan.extras with
    | [] => return (command, scan.draft)
    | extras => throw (.complaint mainGrammar.program (.unrecognized extras))

end TypeStubs.CommandLine
