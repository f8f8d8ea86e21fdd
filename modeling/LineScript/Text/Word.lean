import LineScript.Text.Word.Table

/-!
The characters of words and numerals.  Main statements: what begins a name and every decimal
digit are word characters, so a word never ends in front of a digit.
-/

namespace LineScript.Text

def isDecimalDigit (c : Char) : Bool :=
  decimalDigits.contains c

/-- A name begins with an ASCII letter or an underscore. -/
def isNameStart (c : Char) : Bool :=
  c.isAlpha || c == '_'

/-- What words consist of: letters, marks, digits, connecting punctuation and joiners. -/
def isWordChar (c : Char) : Bool :=
  isNameStart c || isDecimalDigit c || wordLetters.contains c

/-- Does a word that stands in front of this text end there? -/
def atWordEnd : List Char → Bool
  | [] => true
  | c :: _ => !isWordChar c

theorem isWordChar_of_isNameStart {c : Char} (h : isNameStart c = true) :
    isWordChar c = true := by
  simp [isWordChar, h]

theorem isWordChar_of_isDecimalDigit {c : Char} (h : isDecimalDigit c = true) :
    isWordChar c = true := by
  simp [isWordChar, h]

end LineScript.Text
