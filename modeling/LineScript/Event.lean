import LineScript.Operation
import LineScript.Token

/-!
The journal of a run: what it scanned, dispatched, applied and asked of its host, in order.  Some
events are log lines as well.
-/

namespace LineScript

/-- How important a log line is. -/
inductive LogLevel
  | error
  | info
  | debug
deriving DecidableEq, Repr

/-- Something that a run did. -/
inductive Event
  /-- A line was cut into tokens. -/
  | scanned (tokens : List Token)
  /-- A statement went to a registered operation. -/
  | dispatched (name : String)
  /-- A statement went to a built-in command. -/
  | performed (command : Keyword)
  /-- A statement named neither an operation nor a built-in command. -/
  | unknownCommand (name : String)
  /-- A built-in command was given more operands than it has. -/
  | extraOperands (command : Keyword) (operands : List String)
  /-- An operation was put under a name. -/
  | registered (name : String) (arity : Arity) (replaced : Bool)
  /-- An operation was applied. -/
  | applied (application : Application)
  /-- A called operation gave no value. -/
  | noResult (function target : String)
  /-- The host was asked for a script. -/
  | scriptRequested (name : String)
  /-- A nested script began, so many scripts deep. -/
  | entered (depth : Nat)
  /-- The host was given a command line. -/
  | commandIssued (command : String)
  /-- The command line ended with this exit code. -/
  | commandFinished (command : String) (code : Int)
  /-- A unit was imported. -/
  | imported (unit : String)
  /-- The host logged a line of its own. -/
  | hostNote (text : String)

namespace Event

def logLine? : Event → Option (LogLevel × String)
  | scanned tokens =>
    some (.debug, "tokens = [" ++ ", ".intercalate (tokens.map Token.describe) ++ "]")
  | dispatched name => some (.debug, "dispatching " ++ name ++ " to the registry")
  | unknownCommand name => some (.error, "command not found: " ++ name)
  | extraOperands command operands =>
    some (.debug, command.name ++ ": ignoring extra operands " ++ Text.quoteList operands)
  | registered name arity replaced =>
    some (.debug, (if replaced then "replacing" else "registering") ++ " command " ++ name ++
      " (" ++ arity.text ++ " args)")
  | noResult function target =>
    some (.debug, function ++ " returned no value, " ++ target ++ " left as is")
  | entered depth => some (.debug, "entering nested script at depth " ++ toString depth)
  | commandFinished command code =>
    some (.debug, "EXECCMD " ++ Text.quote command ++ " finished with " ++ toString code)
  | imported unit => some (.info, "imported extension " ++ unit)
  | hostNote text => some (.debug, text)
  | performed _ | applied _ | scriptRequested _ | commandIssued _ => none

def application? : Event → Option Application
  | applied a => some a
  | _ => none

/-- The command line that was given to the host, if the event is that. -/
def command? : Event → Option String
  | commandIssued command => some command
  | _ => none

end Event

end LineScript
