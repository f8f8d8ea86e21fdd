/-!
White space, and texts that are nothing else.
-/

namespace LineScript.Text

/-- White space of all scripts: the ASCII controls from tab to carriage return, the next-line
control and the spaces and separators. -/
def isWhite (c : Char) : Bool :=
  let n := c.toNat
  (9 ≤ n && n ≤ 13) || n == 0x20 || n == 0x85 || n == 0xA0 || n == 0x1680 ||
    (0x2000 ≤ n && n ≤ 0x200A) || n == 0x2028 || n == 0x2029 || n == 0x202F || n == 0x205F ||
    n == 0x3000

/-- The text without the white space at its two ends. -/
def trimList (cs : List Char) : List Char :=
  ((cs.dropWhile isWhite).reverse.dropWhile isWhite).reverse

def trim (text : String) : String :=
  String.ofList (trimList text.toList)

/-- A blank text holds nothing but white space. -/
def isBlank (text : String) : Bool :=
  text.toList.all isWhite

end LineScript.Text
