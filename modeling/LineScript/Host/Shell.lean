import LineScript.Host.FileTree

/-!
A small shell over a tree of files: simple commands joined by `;`, `&&` and `||`, with quoting,
the parameters `$$` and `$?`, and output sent to files.  It is enough for the commands that
scripts issue to look at, make and remove files, to print, and to end with an exit code.
-/

namespace LineScript.Shell

/-! ## Words -/

inductive WordPart
  | char (c : Char)
  /-- The number of the shell's process. -/
  | process
  /-- The exit code of the last command. -/
  | status

/-- What a command line consists of. -/
inductive Symbol
  | word (parts : List WordPart)
  /-- The end of a command: the next one runs in any case. -/
  | always
  /-- The end of a command: the next one runs if this one succeeds. -/
  | ifSucceeded
  /-- The end of a command: the next one runs if this one fails. -/
  | ifFailed
  /-- Output goes to the file that the next word names, behind what the file holds or in place of
  it. -/
  | redirect (behind : Bool)
  /-- What goes to the error stream is sent to the file that the next word names, or to the
  output, and is lost. -/
  | silence

/-- What quotes the characters that are being read. -/
inductive Quoting
  | none
  | single
  | double

/-- The symbol of a word that has begun. -/
def closeWord : Option (List WordPart) → List Symbol
  | some parts => [.word parts.reverse]
  | none => []

def addPart (word : Option (List WordPart)) (part : WordPart) : Option (List WordPart) :=
  some (part :: word.getD [])

/-- Cuts a command line into symbols; `word` is the word that has begun, last part first.  There
is no result if a quote is not closed. -/
def symbols : Quoting → Option (List WordPart) → List Char → Option (List Symbol)
  | .none, word, [] => some (closeWord word)
  | _, _, [] => none
  | .single, word, '\'' :: rest => symbols .none word rest
  | .single, word, c :: rest => symbols .single (addPart word (.char c)) rest
  | .double, word, '"' :: rest => symbols .none word rest
  | .none, word, '\\' :: c :: rest => symbols .none (addPart word (.char c)) rest
  | .double, word, '\\' :: c :: rest =>
    if c ∈ ['$', '"', '\\'] then symbols .double (addPart word (.char c)) rest
    else symbols .double (addPart (addPart word (.char '\\')) (.char c)) rest
  | quoting, word, '$' :: '$' :: rest => symbols quoting (addPart word .process) rest
  | quoting, word, '$' :: '?' :: rest => symbols quoting (addPart word .status) rest
  | .double, word, c :: rest => symbols .double (addPart word (.char c)) rest
  | .none, word, '\'' :: rest => symbols .single (some (word.getD [])) rest
  | .none, word, '"' :: rest => symbols .double (some (word.getD [])) rest
  | .none, word, ' ' :: rest => (closeWord word ++ ·) <$> symbols .none none rest
  | .none, word, '\t' :: rest => (closeWord word ++ ·) <$> symbols .none none rest
  | .none, word, ';' :: rest => (closeWord word ++ .always :: ·) <$> symbols .none none rest
  | .none, word, '\n' :: rest => (closeWord word ++ .always :: ·) <$> symbols .none none rest
  | .none, word, '&' :: '&' :: rest =>
    (closeWord word ++ .ifSucceeded :: ·) <$> symbols .none none rest
  | .none, word, '|' :: '|' :: rest =>
    (closeWord word ++ .ifFailed :: ·) <$> symbols .none none rest
  | .none, some [.char '2'], '>' :: '&' :: '1' :: rest => symbols .none none rest
  | .none, some [.char '2'], '>' :: rest => (.silence :: ·) <$> symbols .none none rest
  | .none, word, '>' :: '>' :: rest =>
    (closeWord word ++ .redirect true :: ·) <$> symbols .none none rest
  | .none, word, '>' :: rest =>
    (closeWord word ++ .redirect false :: ·) <$> symbols .none none rest
  | .none, word, c :: rest => symbols .none (addPart word (.char c)) rest

/-! ## The state of a shell -/

/-- How a shell ends before the end of its command line. -/
inductive Exit
  | code (status : Nat)
  | signal (number : Nat)

/-- The state between two commands. -/
structure State where
  tree : FileTree
  output : String
  errors : String
  /-- The exit code of the last command. -/
  status : Nat
  ended : Option Exit

/-- The number of the shell's process, as commands see it. -/
def processNumber : String := "1"

/-- The text of a word. -/
def State.expand (s : State) (parts : List WordPart) : String :=
  String.join (parts.map fun
    | .char c => c.toString
    | .process => processNumber
    | .status => toString s.status)

/-- A command ended with this exit code. -/
def State.ends (s : State) (status : Nat) : State :=
  { s with status := status }

/-- A command ended well or failed. -/
def State.succeedsIf (s : State) (condition : Bool) : State :=
  s.ends (if condition then 0 else 1)

/-- A command complained and failed. -/
def State.complain (s : State) (text : String) (status : Nat) : State :=
  { s with errors := s.errors ++ text ++ "\n", status := status }

/-! ## Commands -/

/-- The question that `test` answers. -/
def test (tree : FileTree) : List String → Bool
  | "!" :: rest => !test tree rest
  | ["-n", text] => !text.isEmpty
  | ["-z", text] => text.isEmpty
  | ["-f", path] => (tree.read path).isOk
  | ["-s", path] =>
    match tree.read path with
    | .ok bytes => bytes.size != 0
    | .error fault => fault == .isDirectory
  | ["-d", path] =>
    match tree.read path with
    | .ok _ => false
    | .error fault => fault == .isDirectory
  | ["-e", path] | ["-r", path] | ["-w", path] =>
    match tree.read path with
    | .ok _ => true
    | .error fault => fault == .isDirectory
  | [a, "=", b] => a == b
  | [a, "!=", b] => a != b
  | [text] => !text.isEmpty
  | _ => false

def signalNames : List (String × Nat) :=
  [("HUP", 1), ("INT", 2), ("QUIT", 3), ("ILL", 4), ("TRAP", 5), ("ABRT", 6), ("BUS", 7),
    ("FPE", 8), ("KILL", 9), ("USR1", 10), ("SEGV", 11), ("USR2", 12), ("PIPE", 13),
    ("ALRM", 14), ("TERM", 15)]

/-- The number that a word of decimal digits writes. -/
def wholeNumber? (text : String) : Option Nat :=
  let digits := text.toList
  if digits ≠ [] ∧ digits.all Char.isDigit then some (Nat.ofDigitChars 10 digits 0) else none

/-- The number of a signal that is given by number or name. -/
def signal? (text : String) : Option Nat :=
  match wholeNumber? text with
  | some n => some n
  | none => signalNames.lookup text

/-- Sends a signal.  A signal that the shell gets ends it, unless the signal is harmless. -/
def kill (s : State) (signal : Nat) (process : String) : State :=
  if process ≠ processNumber then s.complain "sh: 1: kill: No such process" 1
  else if signal ∈ [0, 17, 18, 23, 28] then s.ends 0
  else { s with ended := some (.signal signal) }

/-- Changes the tree, if that is possible. -/
def State.change (s : State) (command path : String) (result : Except PathFault FileTree) :
    State :=
  match result with
  | .ok tree => { s with tree := tree, status := 0 }
  | .error _ => s.complain (command ++ ": cannot use '" ++ path ++ "'") 1

def baseName (path : String) : String :=
  String.ofList ((pathParts path.toList).getLast?.getD [])

/-- Copies a file, into a directory if the target is one. -/
def copy (tree : FileTree) (source target : String) : Except PathFault FileTree := do
  let bytes ← tree.read source
  match tree.read target with
  | .error .isDirectory => tree.write (joinPath target (baseName source)) bytes false
  | _ => tree.write target bytes false

def remove (tree : FileTree) (path : String) : Except PathFault FileTree := do
  let location ← tree.locate path
  let _ ← tree.read path
  return { tree with files := tree.files.filter (·.1 ≠ location) }

def makeDirectory (tree : FileTree) (path : String) : Except PathFault FileTree := do
  let location ← tree.locate path
  return tree.addDirectory location

/-- The text that `printf` writes: a backslash marks line feeds, tabs and itself, and a doubled
percent sign is one. -/
def unescape : List Char → String
  | [] => ""
  | '\\' :: 'n' :: rest => "\n" ++ unescape rest
  | '\\' :: 't' :: rest => "\t" ++ unescape rest
  | '\\' :: '\\' :: rest => "\\" ++ unescape rest
  | '%' :: '%' :: rest => "%" ++ unescape rest
  | c :: rest => c.toString ++ unescape rest

def simple (s : State) : List String → State
  | [] => s.ends 0
  | "true" :: _ | ":" :: _ => s.ends 0
  | "false" :: _ => s.ends 1
  | ["exit"] => { s with ended := some (.code s.status) }
  | "exit" :: code :: _ =>
    match wholeNumber? code with
    | some n => { s with ended := some (.code (n % 256)) }
    | none => { s.complain ("sh: 1: exit: Illegal number: " ++ code) 2 with
        ended := some (.code 2) }
  | "echo" :: "-n" :: words => { s.ends 0 with output := s.output ++ " ".intercalate words }
  | "echo" :: words => { s.ends 0 with output := s.output ++ " ".intercalate words ++ "\n" }
  | ["printf", format] => { s.ends 0 with output := s.output ++ unescape format.toList }
  | "sleep" :: _ => s.ends 0
  | "test" :: question => s.succeedsIf (test s.tree question)
  | "[" :: question => s.succeedsIf (test s.tree question.dropLast)
  | ["kill", process] => kill s 15 process
  | ["kill", "-s", signal, process] | ["kill", "-n", signal, process] =>
    match signal? signal with
    | some n => kill s n process
    | none => s.complain ("sh: 1: kill: Illegal option " ++ signal) 2
  | ["kill", option, process] =>
    match signal? (String.ofList (option.toList.drop 1)) with
    | some n => kill s n process
    | none => s.complain ("sh: 1: kill: Illegal option " ++ option) 2
  | ["cp", source, target] => s.change "cp" source (copy s.tree source target)
  | ["touch", path] => s.change "touch" path (s.tree.write path ByteArray.empty true)
  | ["rm", path] => s.change "rm" path (remove s.tree path)
  | ["rm", "-f", path] =>
    match remove s.tree path with
    | .ok tree => { s with tree := tree, status := 0 }
    | .error _ => s.ends 0
  | ["mkdir", path] | ["mkdir", "-p", path] =>
    s.change "mkdir" path (makeDirectory s.tree path)
  | ["cat", path] =>
    match s.tree.readText path with
    | .ok text => { s.ends 0 with output := s.output ++ text }
    | .error _ => s.complain ("cat: " ++ path ++ ": No such file or directory") 1
  | name :: _ => s.complain ("sh: 1: " ++ name ++ ": not found") 127

/-- Sends what a command printed to a file instead. -/
def redirected (s : State) (path : String) (behind : Bool) (words : List String) : State :=
  match s.tree.write path ByteArray.empty behind with
  | .error _ => s.complain ("sh: 1: cannot create " ++ path ++ ": Directory nonexistent") 2
  | .ok tree =>
    let after := simple { s with tree := tree, output := "" } words
    let written := after.tree.write path after.output.toUTF8 true
    { after with
      tree := written.toOption.getD after.tree
      output := s.output }

/-! ## Command lines -/

/-- A simple command: when it runs, its words, the file for its output, and whether its
complaints are lost. -/
structure Step where
  condition : Symbol
  words : List (List WordPart)
  target : Option (List WordPart × Bool)
  silent : Bool

/-- The steps of a command line; `step` is the one that has begun, its last word first.  There is
no result if a redirection has no file. -/
def steps (step : Step) : List Symbol → Option (List Step)
  | [] => some [{ step with words := step.words.reverse }]
  | .word parts :: rest => steps { step with words := parts :: step.words } rest
  | .redirect behind :: .word parts :: rest =>
    steps { step with target := some (parts, behind) } rest
  | .silence :: .word _ :: rest => steps { step with silent := true } rest
  | .redirect _ :: _ | .silence :: _ => none
  | condition :: rest =>
    ({ step with words := step.words.reverse } :: ·) <$> steps ⟨condition, [], none, false⟩ rest

/-- Runs a step, unless the shell has ended or the step's condition does not hold. -/
def State.run (s : State) (step : Step) : State :=
  let runs := match step.condition with
    | .ifSucceeded => s.status == 0
    | .ifFailed => s.status != 0
    | _ => true
  if s.ended.isSome || !runs then s
  else if step.words.isEmpty && step.target.isNone then s
  else
    let words := step.words.map s.expand
    let after := match step.target with
      | some (parts, behind) => redirected s (s.expand parts) behind words
      | none => simple s words
    if step.silent then { after with errors := s.errors } else after

/-- The state after a command line. -/
def finish (tree : FileTree) (command : String) : State :=
  let start : State := { tree := tree, output := "", errors := "", status := 0, ended := none }
  match symbols .none none command.toList >>= steps ⟨.always, [], none, false⟩ with
  | some steps => steps.foldl State.run start
  | none => start.complain "sh: 1: Syntax error" 2

/-- The exit code of a shell.  A shell that a signal ended has 128 and the signal's number. -/
def State.exitCode (s : State) : Nat :=
  match s.ended with
  | some (.code n) => n
  | some (.signal n) => 128 + n
  | none => s.status

end LineScript.Shell
