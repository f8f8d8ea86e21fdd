import LineScript.Token
import LineScript.Text.Word

/-!
Cutting a line into tokens.  A line is cut from left to right, comment removed; at each place the
longest quoted text, numeral, word or run of blanks that can stand there is taken, and a
character that begins none of them is an error.

Main statements: what `nextPiece` takes and what it leaves make up the text again
(`nextPiece_append`), and it never takes nothing (`nextPiece_taken_ne_nil`), so scanning ends.
-/

namespace LineScript

open Text

def commentMarker : String := "//"

/-- The line up to its first comment marker.  A comment begins even inside a quoted text. -/
def stripCommentList : List Char → List Char
  | [] => []
  | c :: rest =>
    if commentMarker.toList.isPrefixOf (c :: rest) then [] else c :: stripCommentList rest

def stripComment (line : String) : String :=
  String.ofList (stripCommentList line.toList)

/-! ## Pieces -/

/-- Spaces and tabs separate tokens. -/
def isSeparator (c : Char) : Bool :=
  c == ' ' || c == '\t'

/-- A piece at the beginning of a text: its kind, its characters and what follows it. -/
structure Piece where
  kind : TokenKind
  taken : List Char
  rest : List Char

/-- The text behind an opening quote, up to the closing one. -/
def quotedPiece (afterQuote : List Char) : Piece :=
  match afterQuote.dropWhile (· != '"') with
  | '"' :: rest => ⟨.string, '"' :: (afterQuote.takeWhile (· != '"') ++ ['"']), rest⟩
  | _ => ⟨.stray, ['"'], afterQuote⟩

/-- A numeral ends where a word would end.  A fraction that runs into a word is left over, with
its point; a whole part that runs into a word makes its first digit stray. -/
def numeralPiece (first : Char) (after : List Char) : Piece :=
  let whole := first :: after.takeWhile isDecimalDigit
  let rest := after.dropWhile isDecimalDigit
  match rest with
  | '.' :: more =>
    let fraction := more.takeWhile isDecimalDigit
    let behind := more.dropWhile isDecimalDigit
    if fraction ≠ [] ∧ atWordEnd behind then ⟨.number, whole ++ '.' :: fraction, behind⟩
    else ⟨.number, whole, rest⟩
  | _ => if atWordEnd rest then ⟨.number, whole, rest⟩ else ⟨.stray, [first], after⟩

def wordKind (word : List Char) : TokenKind :=
  if String.ofList word ∈ keywords then .keyword else .identifier

/-- A word goes on as long as word characters follow. -/
def wordPiece (first : Char) (after : List Char) : Piece :=
  let word := first :: after.takeWhile isWordChar
  ⟨wordKind word, word, after.dropWhile isWordChar⟩

/-- The piece that begins with `first`, `after` being what follows that character. -/
def nextPiece (first : Char) (after : List Char) : Piece :=
  if first = '"' then quotedPiece after
  else if isDecimalDigit first then numeralPiece first after
  else if isNameStart first then wordPiece first after
  else if isSeparator first then
    ⟨.blank, first :: after.takeWhile isSeparator, after.dropWhile isSeparator⟩
  else ⟨.stray, [first], after⟩

/-! ## Nothing is lost -/

theorem quotedPiece_append (after : List Char) :
    (quotedPiece after).taken ++ (quotedPiece after).rest = '"' :: after := by
  have whole := List.takeWhile_append_dropWhile (p := (· != '"')) (l := after)
  unfold quotedPiece
  split
  · next rest h =>
    rw [h] at whole
    simpa using whole
  · simp

theorem numeralPiece_append (first : Char) (after : List Char) :
    (numeralPiece first after).taken ++ (numeralPiece first after).rest = first :: after := by
  have whole := List.takeWhile_append_dropWhile (p := isDecimalDigit) (l := after)
  unfold numeralPiece
  dsimp only
  split
  · next more h =>
    split
    · simpa [List.takeWhile_append_dropWhile, h] using whole
    · simpa [h] using whole
  · split <;> simp [List.takeWhile_append_dropWhile]

theorem nextPiece_append (first : Char) (after : List Char) :
    (nextPiece first after).taken ++ (nextPiece first after).rest = first :: after := by
  unfold nextPiece
  split
  · next h => rw [h]; exact quotedPiece_append after
  split
  · exact numeralPiece_append first after
  split
  · simp [wordPiece, List.takeWhile_append_dropWhile]
  split <;> simp [List.takeWhile_append_dropWhile]

theorem nextPiece_taken_ne_nil (first : Char) (after : List Char) :
    (nextPiece first after).taken ≠ [] := by
  unfold nextPiece quotedPiece numeralPiece wordPiece
  dsimp only
  repeat' split
  all_goals simp

theorem nextPiece_rest_lt (first : Char) (after : List Char) :
    (nextPiece first after).rest.length < (first :: after).length := by
  have whole := congrArg List.length (nextPiece_append first after)
  have := List.length_pos_iff.mpr (nextPiece_taken_ne_nil first after)
  rw [List.length_append] at whole
  omega

/-! ## Tokens -/

/-- The number of bytes that the characters take in UTF-8. -/
def byteLength (cs : List Char) : Nat :=
  cs.foldr (fun c n => c.utf8Size + n) 0

/-- The tokens of a text that stands at byte `position` of its line. -/
def scan (position : Nat) (cs : List Char) : Except LexError (List Token) :=
  match cs with
  | [] => .ok []
  | first :: after =>
    let piece := nextPiece first after
    let behind := position + byteLength piece.taken
    match piece.kind with
    | .stray => .error ⟨first, position⟩
    | .blank => scan behind piece.rest
    | kind =>
      match scan behind piece.rest with
      | .ok tokens => .ok (⟨kind, String.ofList piece.taken⟩ :: tokens)
      | .error e => .error e
termination_by cs.length
decreasing_by all_goals exact nextPiece_rest_lt first after

def tokenize (line : String) : Except LexError (List Token) :=
  scan 0 (stripCommentList line.toList)

end LineScript
