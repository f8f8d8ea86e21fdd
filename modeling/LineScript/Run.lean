import LineScript.Execute
import LineScript.Text.Lines
import LineScript.Token.Scan

/-!
Running lines, programs and nested scripts.

A script that is run inside another one uses up a place of nesting; where no place is left, the
run ends with a fault.  The number of places left is what the recursion of `nestedRun` goes down
on, so every run ends, whatever the scripts say.

Main statement: running the lines of two programs one behind the other is running the first and,
if that does not fail, the second (`runLinesWith_append`).
-/

namespace LineScript

namespace Session

variable {ω : Type}

/-- Runs a line.  A line that cannot be cut into tokens leaves no trace. -/
def runLineWith (nested : String → Session ω → Ending ω Unit) (line : String)
    (s : Session ω) : Ending ω Outcome :=
  match tokenize line with
  | .error e => (.error (.lex e), s)
  | .ok tokens => executeWith nested tokens (s.note (.scanned tokens))

/-- Runs lines in order, up to the first fault.  Lines of white space are passed over. -/
def runLinesWith (nested : String → Session ω → Ending ω Unit) :
    List String → Session ω → Ending ω Unit
  | [], s => (.ok (), s)
  | line :: rest, s =>
    if Text.isBlank line then runLinesWith nested rest s
    else (runLineWith nested line s).andThen fun _ s => runLinesWith nested rest s

theorem runLinesWith_append (nested : String → Session ω → Ending ω Unit)
    (first second : List String) (s : Session ω) :
    runLinesWith nested (first ++ second) s =
      (runLinesWith nested first s).andThen fun _ s => runLinesWith nested second s := by
  induction first generalizing s with
  | nil => rfl
  | cons line rest ih =>
    rw [List.cons_append, runLinesWith, runLinesWith]
    split
    · exact ih s
    · rw [Ending.andThen_assoc]
      congr 1
      funext _ s
      exact ih s

/-- Runs a script inside another one, with so many places of nesting left. -/
def nestedRun : Nat → String → Session ω → Ending ω Unit
  | 0, _, s => (.error (.nestingTooDeep s.config.maxRunDepth), s)
  | places + 1, text, s =>
    let (result, s) := runLinesWith (nestedRun places) (Text.lines text) s.enter
    (result, s.leave)

def execute (tokens : List Token) (s : Session ω) : Ending ω Outcome :=
  executeWith (nestedRun s.room) tokens s

def runLine (line : String) (s : Session ω) : Ending ω Outcome :=
  runLineWith (nestedRun s.room) line s

def runLines (lines : List String) (s : Session ω) : Ending ω Unit :=
  runLinesWith (nestedRun s.room) lines s

def runSource (text : String) (s : Session ω) : Ending ω Unit :=
  s.runLines (Text.lines text)

end Session

end LineScript
