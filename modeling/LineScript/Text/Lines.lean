/-!
The lines of a text.  A line ends at a line feed, which may follow one carriage return; what
stands after the last line feed is a line of its own unless it is empty.
-/

namespace LineScript.Text

/-- Puts a character in front of the first line. -/
def consLine (c : Char) : List (List Char) → List (List Char)
  | [] => [[c]]
  | line :: rest => (c :: line) :: rest

/-- The lines of the characters, without what ends them. -/
def lineLists : List Char → List (List Char)
  | [] => []
  | '\n' :: rest => [] :: lineLists rest
  | '\r' :: '\n' :: rest => [] :: lineLists rest
  | c :: rest => consLine c (lineLists rest)

def lines (text : String) : List String :=
  (lineLists text.toList).map String.ofList

example : lines "a\r\n\r\nb\r" = ["a", "", "b\r"] := by decide

end LineScript.Text
