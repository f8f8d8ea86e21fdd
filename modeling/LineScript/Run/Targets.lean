import LineScript.Value
import LineScript.Text.Blank
import LineScript.Text.Lines
import LineScript.Token.Scan

/-!
The scripts that a program names.  They are read off its lines, without running them, so they
are all that it can ever ask its host for, and perhaps more.
-/

namespace LineScript

/-- The script that a line of tokens asks for. -/
def runTargetOf? : List Token → Option String
  | head :: file :: _ =>
    if head.text = Keyword.run.name then some (unquote file.text) else none
  | _ => none

def runTarget? (line : String) : Option String :=
  if Text.isBlank line then none
  else
    match tokenize line with
    | .ok tokens => runTargetOf? tokens
    | .error _ => none

/-- The scripts that the lines of a program ask for, in order. -/
def runTargets (program : String) : List String :=
  (Text.lines program).filterMap runTarget?

end LineScript
