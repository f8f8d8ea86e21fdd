import LineScript.Operation
import LineScript.Token

/-!
What makes a statement fail, by cause, and the words for each cause.  A fault ends the run of the
program that holds the statement.
-/

namespace LineScript

/-- Why a stream of the console or a file cannot be used. -/
inductive StreamFault
  | refused (reason : String)
  | invalidEncoding
  | endOfInput
deriving DecidableEq

def StreamFault.message : StreamFault → String
  | refused reason => reason
  | invalidEncoding => "stream did not contain valid UTF-8"
  | endOfInput => "INPUT: end of input"

/-- Why a unit cannot be imported. -/
inductive ImportFault
  | notQuoted
  | missing (unit : String)
  | failed (reason : String)
deriving DecidableEq

def ImportFault.message : ImportFault → String
  | notQuoted => "module name must be enclosed in double quotes"
  | missing unit => "no extension unit named " ++ unit
  | failed reason => reason

/-- What makes a statement fail. -/
inductive Fault
  /-- The line has a character that begins no token. -/
  | lex (error : LexError)
  /-- The command needs a number and was given a value of another type. -/
  | notANumber (command : Keyword) (typeName : String)
  /-- A bound of a random number is no number. -/
  | boundNotANumber
  /-- A text that should write a number does not. -/
  | notNumeric (text : String)
  /-- A store cannot become a number. -/
  | mappingNotNumeric
  | divisionByZero
  | boundNotFinite
  | boundsReversed (low high : Float)
  | negativeDuration (seconds : Float)
  | excessiveDuration (seconds : Float)
  /-- The number lies outside the domain of the command's function. -/
  | mathDomain (command : Keyword) (value : Float)
  | invocation (function : String) (cause : CallFailure)
  | extensionLoad (unit : String) (cause : ImportFault)
  | missingOperands (command : Keyword) (fields : List String)
  | missingResult
  | nestingTooDeep (limit : Nat)
  /-- The host failed while it served the command. -/
  | external (command : Keyword) (reason : String)
  | stream (cause : StreamFault)

/-- A number in a message. -/
def messageNumber (x : Float) : String :=
  Decimal.Layout.message.write x

namespace Fault

/-- The words behind the name of the command. -/
def ofCommand (command : Keyword) (words : String) : String :=
  command.name ++ ": " ++ words

def durationText (seconds : Float) (reason : String) : String :=
  ofCommand .wait ("invalid duration " ++ messageNumber seconds ++
    ": cannot convert float seconds to Duration: value is " ++ reason)

def message : Fault → String
  | lex e => "unexpected character: " ++ e.character.toString
  | notANumber command typeName =>
    ofCommand command ("cannot use a " ++ typeName ++ " value as a number")
  | boundNotANumber => ofCommand .random "min and max values must be numbers"
  | notNumeric text =>
    ofCommand .numberOf ("could not convert " ++ Text.quote text ++ " to a number")
  | mappingNotNumeric => ofCommand .numberOf "cannot convert a mapping to a number"
  | divisionByZero => ofCommand .divide "division by zero is not allowed"
  | boundNotFinite => ofCommand .random "bounds must be finite"
  | boundsReversed low high =>
    ofCommand .random ("min value " ++ messageNumber low ++
      " must not be greater than max value " ++ messageNumber high)
  | negativeDuration seconds => durationText seconds "negative"
  | excessiveDuration seconds => durationText seconds "either too big or NaN"
  | mathDomain command value =>
    ofCommand command ("math domain error for " ++ messageNumber value)
  | invocation function cause => "error calling function " ++ function ++ ": " ++ cause.message
  | extensionLoad unit cause => "cannot import " ++ unit ++ ": " ++ cause.message
  | missingOperands command fields =>
    ofCommand command ("Required positional arguments not provided:" ++
      String.join (fields.map ("\n    " ++ ·)))
  | missingResult => ofCommand .call "missing result identifier"
  | nestingTooDeep limit =>
    ofCommand .run ("nesting deeper than " ++ toString limit ++ " scripts")
  | external command reason => ofCommand command reason
  | stream cause => "io error: " ++ cause.message

end Fault

end LineScript
