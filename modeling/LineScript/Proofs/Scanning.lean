import LineScript.Token.Scan
import LineScript.Value
import LineScript.Text.Blank

/-!
Scanning a line that is known in pieces.

* A text without `//` is no comment, nor is what follows it (`stripCommentList_append`).
* A word, a run of blanks, a quoted text and a numeral are taken whole where they stand
  (`nextPiece_word`, `nextPiece_blanks`, `nextPiece_quoted`, `nextPiece_whole`,
  `nextPiece_fraction`).

So scanning goes on behind each of them (`scan_blank`, `scan_token`).
-/

namespace LineScript

open Text

/-! ## Comments -/

theorem stripCommentList_cons (c : Char) (rest : List Char)
    (h : c = '/' → rest.head? ≠ some '/') :
    stripCommentList (c :: rest) = c :: stripCommentList rest := by
  rw [stripCommentList, if_neg]
  intro hmarker
  obtain ⟨more, hmore⟩ := List.isPrefixOf_iff_prefix.mp hmarker
  obtain ⟨rfl, rfl⟩ := List.cons.inj hmore
  exact h rfl rfl

theorem stripCommentList_marker (rest : List Char) : stripCommentList ('/' :: '/' :: rest) = [] :=
  if_pos (List.isPrefixOf_iff_prefix.mpr ⟨rest, rfl⟩)

theorem stripCommentList_append (cs rest : List Char) (h : ¬ ['/', '/'] <:+: cs)
    (hrest : rest.head? ≠ some '/') :
    stripCommentList (cs ++ rest) = cs ++ stripCommentList rest := by
  induction cs with
  | nil => rfl
  | cons c cs ih =>
    have hcs : ¬ ['/', '/'] <:+: cs := fun hpart => h (hpart.trans (List.suffix_cons c cs).isInfix)
    rw [List.cons_append, stripCommentList_cons c (cs ++ rest), ih hcs, List.cons_append]
    rintro rfl
    cases cs with
    | nil => exact hrest
    | cons d ds =>
      intro hd
      obtain rfl : d = '/' := by simpa using hd
      exact h (List.prefix_append ['/', '/'] ds).isInfix

/-! ## Pieces -/

theorem takeWhile_dropWhile_append {p : Char → Bool} (taken rest : List Char)
    (htaken : ∀ c ∈ taken, p c = true) (hrest : ∀ c, rest.head? = some c → p c = false) :
    (taken ++ rest).takeWhile p = taken ∧ (taken ++ rest).dropWhile p = rest := by
  rw [List.takeWhile_append_of_pos htaken, List.dropWhile_append_of_pos htaken]
  cases rest with
  | nil => simp
  | cons c more =>
    have hc := hrest c rfl
    simp [hc]

/-- A word is taken up to where no word character follows. -/
theorem nextPiece_word (first : Char) (word rest : List Char) (hquote : first ≠ '"')
    (hdigit : isDecimalDigit first = false) (hstart : isNameStart first = true)
    (hword : ∀ c ∈ word, isWordChar c = true)
    (hrest : ∀ c, rest.head? = some c → isWordChar c = false) :
    nextPiece first (word ++ rest) = ⟨wordKind (first :: word), first :: word, rest⟩ := by
  obtain ⟨htake, hdrop⟩ := takeWhile_dropWhile_append word rest hword hrest
  simp [nextPiece, hquote, hdigit, hstart, wordPiece, htake, hdrop]

theorem eq_of_isSeparator {c : Char} (h : isSeparator c = true) : c = ' ' ∨ c = '\t' := by
  simpa [isSeparator] using h

/-- A run of blanks is taken up to where no blank follows. -/
theorem nextPiece_blanks (first : Char) (more rest : List Char) (hfirst : isSeparator first = true)
    (hmore : ∀ c ∈ more, isSeparator c = true)
    (hrest : ∀ c, rest.head? = some c → isSeparator c = false) :
    nextPiece first (more ++ rest) = ⟨.blank, first :: more, rest⟩ := by
  obtain ⟨htake, hdrop⟩ := takeWhile_dropWhile_append more rest hmore hrest
  obtain ⟨hquote, hdigit, hstart⟩ :
      first ≠ '"' ∧ isDecimalDigit first = false ∧ isNameStart first = false := by
    rcases eq_of_isSeparator hfirst with rfl | rfl <;> decide
  simp [nextPiece, hquote, hdigit, hstart, hfirst, htake, hdrop]

/-- A quoted text is taken up to the first quote behind the opening one. -/
theorem nextPiece_quoted (inner rest : List Char) (hinner : '"' ∉ inner) :
    nextPiece '"' (inner ++ '"' :: rest) = ⟨.string, '"' :: (inner ++ ['"']), rest⟩ := by
  have hopen : ∀ c ∈ inner, (c != '"') = true := by
    intro c hc
    simp only [bne_iff_ne]
    rintro rfl
    exact hinner hc
  obtain ⟨htake, hdrop⟩ := takeWhile_dropWhile_append inner ('"' :: rest) hopen (by simp)
  simp [nextPiece, quotedPiece, htake, hdrop]

theorem atWordEnd_iff {rest : List Char} :
    atWordEnd rest = true ↔ ∀ c, rest.head? = some c → isWordChar c = false := by
  cases rest <;> simp [atWordEnd]

theorem isDecimalDigit_of_not_isWordChar {c : Char} (h : isWordChar c = false) :
    isDecimalDigit c = false := by
  rw [Bool.eq_false_iff]
  intro hdigit
  rw [isWordChar_of_isDecimalDigit hdigit] at h
  cases h

theorem nextPiece_eq_numeralPiece (first : Char) (after : List Char)
    (h : isDecimalDigit first = true) : nextPiece first after = numeralPiece first after := by
  have hquote : first ≠ '"' := by
    rintro rfl
    exact absurd h (by decide)
  simp [nextPiece, hquote, h]

/-- A numeral without a point is taken where neither a word nor a point follows. -/
theorem nextPiece_whole (first : Char) (digits rest : List Char)
    (hfirst : isDecimalDigit first = true) (hdigits : ∀ c ∈ digits, isDecimalDigit c = true)
    (hrest : ∀ c, rest.head? = some c → isWordChar c = false) (hpoint : rest.head? ≠ some '.') :
    nextPiece first (digits ++ rest) = ⟨.number, first :: digits, rest⟩ := by
  obtain ⟨htake, hdrop⟩ := takeWhile_dropWhile_append digits rest hdigits
    fun c hc => isDecimalDigit_of_not_isWordChar (hrest c hc)
  have hend := atWordEnd_iff.mpr hrest
  rw [nextPiece_eq_numeralPiece first _ hfirst, numeralPiece]
  simp only [htake, hdrop]
  split
  · exact absurd rfl hpoint
  · rw [if_pos hend]

/-- A numeral with a fraction is taken where no word follows. -/
theorem nextPiece_fraction (first : Char) (digits fraction rest : List Char)
    (hfirst : isDecimalDigit first = true) (hdigits : ∀ c ∈ digits, isDecimalDigit c = true)
    (hne : fraction ≠ []) (hfraction : ∀ c ∈ fraction, isDecimalDigit c = true)
    (hrest : ∀ c, rest.head? = some c → isWordChar c = false) :
    nextPiece first (digits ++ '.' :: (fraction ++ rest)) =
      ⟨.number, first :: (digits ++ '.' :: fraction), rest⟩ := by
  have hpoint : ∀ c, ('.' :: (fraction ++ rest)).head? = some c → isDecimalDigit c = false := by
    intro c hc
    obtain rfl := Option.some.inj hc
    decide
  obtain ⟨htake, hdrop⟩ := takeWhile_dropWhile_append digits _ hdigits hpoint
  obtain ⟨htake', hdrop'⟩ := takeWhile_dropWhile_append fraction rest hfraction
    fun c hc => isDecimalDigit_of_not_isWordChar (hrest c hc)
  have hend := atWordEnd_iff.mpr hrest
  rw [nextPiece_eq_numeralPiece first _ hfirst, numeralPiece]
  simp only [htake, hdrop, htake', hdrop']
  rw [if_pos ⟨hne, hend⟩]
  rfl

/-! ## Scanning on behind a piece -/

theorem scan_blank (position : Nat) (first : Char) (after taken rest : List Char)
    (h : nextPiece first after = ⟨.blank, taken, rest⟩) :
    scan position (first :: after) = scan (position + byteLength taken) rest := by
  rw [scan]
  simp only [h]

theorem scan_token (position : Nat) (first : Char) (after taken rest : List Char)
    (kind : TokenKind) (tokens : List Token) (h : nextPiece first after = ⟨kind, taken, rest⟩)
    (hkind : kind ≠ .blank ∧ kind ≠ .stray)
    (hrest : scan (position + byteLength taken) rest = .ok tokens) :
    scan position (first :: after) = .ok (⟨kind, String.ofList taken⟩ :: tokens) := by
  rw [scan]
  simp only [h, hrest]
  cases kind with
  | blank => exact absurd rfl hkind.1
  | stray => exact absurd rfl hkind.2
  | _ => rfl

/-! ## Capital letters -/

theorem toNat_of_isUpper {c : Char} (h : c.isUpper = true) : 65 ≤ c.toNat ∧ c.toNat ≤ 90 := by
  obtain ⟨hlow, hhigh⟩ : c.val ≥ 'A'.val ∧ c.val ≤ 'Z'.val := of_decide_eq_true h
  exact ⟨UInt32.le_iff_toNat_le.mp hlow, UInt32.le_iff_toNat_le.mp hhigh⟩

theorem isNameStart_of_isUpper {c : Char} (h : c.isUpper = true) : isNameStart c = true := by
  show ((c.isUpper || c.isLower) || c == '_') = true
  simp [h]

/-- No decimal digit stands between the ASCII digits and the next ones of the table. -/
theorem isDecimalDigit_of_between {c : Char} (hlow : 0x39 < c.toNat) (hhigh : c.toNat < 0x660) :
    isDecimalDigit c = false := by
  have hfirst : decide (c.toNat ≤ 0x39) = false := decide_eq_false (by omega)
  have hsecond : decide (0x660 ≤ c.toNat) = false := decide_eq_false (by omega)
  rw [isDecimalDigit, CharTable.contains, decimalDigits, inRanges, inRanges, hfirst, hsecond]
  simp

theorem isWhite_of_isUpper {c : Char} (h : c.isUpper = true) : isWhite c = false := by
  obtain ⟨hlow, hhigh⟩ := toNat_of_isUpper h
  simp [isWhite]
  omega

theorem ne_of_isUpper {c d : Char} (h : c.isUpper = true) (hd : d.isUpper = false) : c ≠ d := by
  rintro rfl
  rw [h] at hd
  cases hd

/-! ## A command with a quoted operand -/

namespace Keyword

/-- The line that gives the command one operand, in quotes. -/
def quotedLine (command : Keyword) (operand : String) : String :=
  command.name ++ " \"" ++ operand ++ "\""

def quotedTokens (command : Keyword) (operand : String) : List Token :=
  [⟨.keyword, command.name⟩, ⟨.string, "\"" ++ operand ++ "\""⟩]

/-- The name of a command is a word of ASCII letters. -/
theorem name_letters (command : Keyword) :
    ∃ first word, command.name.toList = first :: word ∧
      ∀ c ∈ first :: word, c.isUpper = true := by
  have hupper : command.name.toList.all Char.isUpper = true := by cases command <;> decide
  have hname : command.name.toList ≠ [] := by cases command <;> decide
  cases hletters : command.name.toList with
  | nil => exact absurd hletters hname
  | cons first word =>
    rw [hletters] at hupper
    exact ⟨first, word, rfl, List.all_eq_true.mp hupper⟩

end Keyword

theorem isBlank_quotedLine (command : Keyword) (operand : String) :
    isBlank (command.quotedLine operand) = false := by
  obtain ⟨first, word, hname, hupper⟩ := command.name_letters
  have hwhite := isWhite_of_isUpper (hupper first List.mem_cons_self)
  simp [isBlank, Keyword.quotedLine, hname, hwhite]

theorem unquote_quoted (operand : String) : unquote ("\"" ++ operand ++ "\"") = operand := by
  simp [unquote, unquoted?, String.toList_append]

end LineScript
