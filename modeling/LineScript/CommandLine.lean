import LineScript.Host.Workplace
import LineScript.Run

/-!
The command line: what the arguments ask for, and what the program then writes and ends with.

With a script, the program runs it, and nested scripts are looked for beside it.  Without one it
runs the lines of its input one by one.
-/

namespace LineScript.CommandLine

/-! ## Arguments -/

/-- What the arguments ask for. -/
inductive Request
  | help
  | run (script : Option String) (maxRunDepth : Nat)
deriving DecidableEq, Repr

/-- What is wrong with the arguments. -/
inductive UsageFault
  | unrecognized (argument : String)
  | noValue (option : String)
  | badValue (option value reason : String)
  | argumentsAfterHelp
deriving DecidableEq, Repr

def UsageFault.message : UsageFault → String
  | unrecognized argument => "Unrecognized argument: " ++ argument ++ "\n"
  | noValue option => "No value provided for option '" ++ option ++ "'.\n"
  | badValue option value reason =>
    "Error parsing option '" ++ option ++ "' with value '" ++ value ++ "': " ++ reason ++ "\n"
  | argumentsAfterHelp => "Trailing arguments are not allowed after \x60help\x60."

def programName : String := "uniscript"

def depthOption : String := "--max-run-depth"

def helpText : String :=
  "Usage: " ++ programName ++ " [--max-run-depth <max-run-depth>] [-v] [--] [<script>]\n" ++
  "\n" ++
  "Run a script file, or start an interactive session when none is given.\n" ++
  "\n" ++
  "Positional Arguments:\n" ++
  "  script            script to execute\n" ++
  "\n" ++
  "Options:\n" ++
  "  --max-run-depth   how many RUN statements may be nested\n" ++
  "  -v, --verbose     log every dispatched statement\n" ++
  "  --help, help      display usage information\n"

/-- Adds decimal digits to a number that must stay in 64 bits. -/
def countDigits (n : Nat) : List Char → Except String Nat
  | [] => .ok n
  | c :: rest =>
    let more := Nat.ofDigitChars 10 [c] n
    if !c.isDigit then .error "invalid digit found in string"
    else if UInt64.size ≤ more then .error "number too large to fit in target type"
    else countDigits more rest

/-- A count: decimal digits behind an optional plus sign. -/
def readCount (text : String) : Except String Nat :=
  match text.toList with
  | [] => .error "cannot parse integer from empty string"
  | ['+'] => .error "invalid digit found in string"
  | '+' :: digits => countDigits 0 digits
  | digits => countDigits 0 digits

/-- What was found while the arguments are read. -/
structure Findings where
  script : Option String
  maxRunDepth : Option Nat
  help : Bool
  /-- Behind `--` nothing is an option. -/
  optionsEnded : Bool

/-- A positional argument: there is room for one. -/
def Findings.position (found : Findings) (argument : String) : Except UsageFault Findings :=
  if found.script.isSome then .error (.unrecognized argument)
  else .ok { found with script := some argument }

/-- The value of the option that limits nesting, which may be given once. -/
def Findings.limit (found : Findings) (value : String) : Except UsageFault Findings :=
  if found.maxRunDepth.isSome then
    .error (.badValue depthOption value "duplicate values provided")
  else
    match readCount value with
    | .ok n => .ok { found with maxRunDepth := some n }
    | .error reason => .error (.badValue depthOption value reason)

/-- Reads the arguments from left to right. -/
def Findings.read (found : Findings) : List String → Except UsageFault Findings
  | [] => .ok found
  | argument :: rest =>
    if found.optionsEnded then do (← found.position argument).read rest
    else if argument = "--help" ∨ argument = "help" then
      Findings.read { found with help := true } rest
    else if argument = "--" then Findings.read { found with optionsEnded := true } rest
    else if argument.toList.head? ≠ some '-' then do (← found.position argument).read rest
    else if found.help then .error .argumentsAfterHelp
    else if argument = "-v" ∨ argument = "--verbose" then found.read rest
    else if argument = depthOption then
      match rest with
      | [] => .error (.noValue argument)
      | value :: rest => do (← found.limit value).read rest
    else .error (.unrecognized argument)

def parse (arguments : List String) : Except UsageFault Request := do
  let start : Findings :=
    { script := none, maxRunDepth := none, help := false, optionsEnded := false }
  let found ← start.read arguments
  return if found.help then .help
    else .run found.script (found.maxRunDepth.getD Config.default.maxRunDepth)

/-! ## Running -/

/-- What the program leaves: its exit code and the bytes on its two output streams. -/
structure Report where
  exitCode : Nat
  output : ByteArray
  errors : ByteArray
  /-- Did the run end because its input did? -/
  wantsInput : Bool

def faultLine (fault : Fault) : String :=
  "Error: " ++ fault.message ++ "\n"

def runFile (path : String) (s : Session Workplace) : Ending Workplace Unit :=
  match s.world.tree.readText path with
  | .ok text => s.runSource text
  | .error cause => (.error (.stream cause), s)

/-- The settings for a script: nested scripts are looked for where it stands. -/
def configFor (script : Option String) (maxRunDepth : Nat) : Config :=
  let directory := (script.map parentPath).getD ""
  { Config.default with
    maxRunDepth := maxRunDepth
    scriptRoot := if directory.isEmpty then Config.default.scriptRoot else directory }

/-- A session with the process's own streams. -/
def openSession (tree : FileTree) (input : List UInt8) (seed : UInt64) (config : Config) :
    Session Workplace :=
  { Session.start Host.ofFiles ⟨tree, config.scriptRoot⟩ with
    console := { Console.ofInput input with shared := true }
    config := config
    chance := .ofSeed seed UInt64.size }

/-- Writes a fault to the stream for errors. -/
def showFault (s : Session Workplace) (fault : Fault) : Session Workplace :=
  let errors := s.console.errors.write (faultLine fault).toUTF8
  { s with console := { s.console with errors := errors } }

/-- What a session has written, with an exit code. -/
def report (exitCode : Nat) (s : Session Workplace) (wantsInput : Bool) : Report :=
  ⟨exitCode, s.console.output.written, s.console.errors.written, wantsInput⟩

/-- Is the fault that the input has ended? -/
def isEndOfInput : Fault → Bool
  | .stream .endOfInput => true
  | _ => false

/-- Runs the lines of the input, at most so many; a fault is shown and the next line runs. -/
def interact : Nat → Session Workplace → Session Workplace
  | 0, s => s
  | count + 1, s =>
    match s.readLine with
    | (.error (.stream .endOfInput), s) => s
    | (.error fault, s) => showFault s fault
    | (.ok line, s) =>
      if Text.isBlank line then interact count s
      else
        match s.runLine line with
        | (.ok _, s) => interact count s
        | (.error fault, s) => interact count (showFault s fault)

/-- Runs the program on a tree of files, with the bytes of its input and a seed for its random
numbers. -/
def run (tree : FileTree) (arguments : List String) (input : List UInt8) (seed : UInt64) :
    Report :=
  match parse arguments with
  | .error fault =>
    let text := fault.message ++ "\nRun " ++ programName ++ " --help for more information.\n"
    ⟨1, ByteArray.empty, text.toUTF8, false⟩
  | .ok .help => ⟨0, (helpText ++ "\n").toUTF8, ByteArray.empty, false⟩
  | .ok (.run (some script) maxRunDepth) =>
    match runFile script (openSession tree input seed (configFor script maxRunDepth)) with
    | (.ok _, s) => report 0 s false
    | (.error fault, s) => report 1 (showFault s fault) (isEndOfInput fault)
  | .ok (.run none maxRunDepth) =>
    let s := openSession tree input seed (configFor none maxRunDepth)
    report 0 (interact (input.length + 1) s) true

end LineScript.CommandLine
