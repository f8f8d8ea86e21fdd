import LineScript.Keyword
import LineScript.Text.Quoted

/-!
Tokens: the pieces of a line, each with the exact text that it was cut from.
-/

namespace LineScript

/-- What a piece of a line is.  Blanks and stray characters are pieces, but no token of a line
that was scanned has these kinds. -/
inductive TokenKind
  /-- The name of a built-in command, as a whole word. -/
  | keyword
  /-- A text in double quotes, with its quotes. -/
  | string
  /-- An unsigned numeral. -/
  | number
  /-- Any other word. -/
  | identifier
  /-- A run of spaces and tabs. -/
  | blank
  /-- A character that begins no other piece. -/
  | stray
deriving DecidableEq, Repr

/-- The name of the kind in log lines. -/
def TokenKind.name : TokenKind → String
  | keyword => "Keyword"
  | string => "Str"
  | number => "Number"
  | identifier => "Identifier"
  | blank => "Skip"
  | stray => "Mismatch"

/-- A piece of a line. -/
structure Token where
  kind : TokenKind
  text : String
deriving DecidableEq, Repr

/-- The token as log lines show it. -/
def Token.describe (t : Token) : String :=
  "Token \x7b kind: " ++ t.kind.name ++ ", text: " ++ Text.quote t.text ++ " \x7d"

/-- The line holds a character that begins no token. -/
structure LexError where
  character : Char
  /-- Where it stands: the number of UTF-8 bytes in front of it, comments being cut off. -/
  position : Nat
deriving DecidableEq, Repr

end LineScript
