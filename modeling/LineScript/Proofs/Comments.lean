import LineScript.Proofs.Comparison
import LineScript.Proofs.Spacing

/-!
What comments do to a program.

A line is scanned without its comment, so with and without it the line has the same tokens
(`tokenize_stripComment`).  But whether a line is passed over as blank is decided with its comment
in place, and by all white space, whereas the scanner takes spaces and tabs alone for blanks.  The
two notions of a blank line part where nothing but other white space stands in front of a comment
(`WhiteBeforeComment`).  Such a line cannot be scanned, and without its comment it is passed over.

Main statement: of all other lines the comments may be added, changed and removed without a change
to what a program does (`comments_are_transparent`).
-/

namespace LineScript

open Text

/-! ## The line without its comment -/

theorem prefix_stripCommentList (cs : List Char) : stripCommentList cs <+: cs := by
  fun_induction stripCommentList cs with
  | case1 => exact List.prefix_rfl
  | case2 => exact List.nil_prefix
  | case3 c rest _ ih => exact List.cons_prefix_cons.mpr ⟨rfl, ih⟩

theorem stripCommentList_stripCommentList (cs : List Char) :
    stripCommentList (stripCommentList cs) = stripCommentList cs := by
  have h := stripCommentList_append _ [] (not_infix_stripCommentList cs) (by simp)
  simpa [stripCommentList] using h

theorem tokenize_stripComment (line : String) : tokenize (stripComment line) = tokenize line := by
  rw [tokenize, tokenize, stripComment, String.toList_ofList, stripCommentList_stripCommentList]

theorem isBlank_stripComment {line : String} (h : isBlank line = true) :
    isBlank (stripComment line) = true := by
  rw [isBlank, List.all_eq_true] at h
  rw [isBlank, stripComment, String.toList_ofList, List.all_eq_true]
  exact fun c hc => h c ((prefix_stripCommentList line.toList).subset hc)

/-! ## Scanning white space -/

def whiteCodes : List Nat :=
  [0x9, 0xA, 0xB, 0xC, 0xD, 0x20, 0x85, 0xA0, 0x1680, 0x2000, 0x2001, 0x2002, 0x2003, 0x2004,
    0x2005, 0x2006, 0x2007, 0x2008, 0x2009, 0x200A, 0x2028, 0x2029, 0x202F, 0x205F, 0x3000]

theorem toNat_mem_whiteCodes {c : Char} (h : isWhite c = true) : c.toNat ∈ whiteCodes := by
  simp only [isWhite, Bool.or_eq_true, Bool.and_eq_true, decide_eq_true_eq, beq_iff_eq] at h
  simp only [whiteCodes, List.mem_cons, List.not_mem_nil, or_false]
  omega

/-- White space begins no token. -/
theorem classes_of_isWhite {c : Char} (h : isWhite c = true) :
    c ≠ '"' ∧ isDecimalDigit c = false ∧ isNameStart c = false := by
  have hcode := toNat_mem_whiteCodes h
  have hcodes : ∀ n ∈ whiteCodes, n ≠ 34 ∧ inRanges decimalDigits.ranges n = false ∧
      (n < 65 ∨ 122 < n) := by decide
  obtain ⟨hquote, hdigit, hletter⟩ := hcodes c.toNat hcode
  refine ⟨?_, hdigit, ?_⟩
  · rintro rfl
    exact hquote rfl
  · rw [Bool.eq_false_iff]
    intro hstart
    have := toNat_of_isNameStart hstart
    omega

theorem nextPiece_of_isWhite {c : Char} (hwhite : isWhite c = true)
    (hseparator : isSeparator c = false) (after : List Char) :
    nextPiece c after = ⟨.stray, [c], after⟩ := by
  obtain ⟨hquote, hdigit, hstart⟩ := classes_of_isWhite hwhite
  simp [nextPiece, hquote, hdigit, hstart, hseparator]

/-- Blanks at the front of a text are taken as one piece. -/
theorem scan_blanks (position : Nat) (blanks rest : List Char)
    (hblanks : ∀ c ∈ blanks, isSeparator c = true)
    (hrest : ∀ c, rest.head? = some c → isSeparator c = false) :
    scan position (blanks ++ rest) = scan (position + byteLength blanks) rest := by
  cases blanks with
  | nil => rfl
  | cons first more =>
    obtain ⟨hfirst, hmore⟩ := List.forall_mem_cons.mp hblanks
    exact scan_blank position first (more ++ rest) (first :: more) rest
      (nextPiece_blanks first more rest hfirst hmore hrest)

/-- A text of blanks has no tokens. -/
theorem scan_of_separators (position : Nat) (cs : List Char)
    (h : ∀ c ∈ cs, isSeparator c = true) : scan position cs = .ok [] := by
  have hscan := scan_blanks position cs [] h (by simp)
  rw [List.append_nil] at hscan
  rw [hscan, scan]

/-- White space that is no blank cannot be scanned. -/
theorem scan_of_white (position : Nat) (cs : List Char) (hwhite : cs.all isWhite = true)
    (hodd : ∃ c ∈ cs, isSeparator c = false) : ∃ e, scan position cs = .error e := by
  have hwhole := List.takeWhile_append_dropWhile (p := isSeparator) (l := cs)
  obtain ⟨c, rest, hdrop⟩ : ∃ c rest, cs.dropWhile isSeparator = c :: rest := by
    refine List.exists_cons_of_ne_nil fun hnil => ?_
    obtain ⟨c, hc, hseparator⟩ := hodd
    rw [hnil, List.append_nil] at hwhole
    rw [← hwhole] at hc
    rw [List.all_eq_true.mp List.all_takeWhile c hc] at hseparator
    cases hseparator
  have hhead : isSeparator c = false := head?_dropWhile (by rw [hdrop]; rfl)
  rw [hdrop] at hwhole
  have hc : isWhite c = true := List.all_eq_true.mp hwhite c (by rw [← hwhole]; simp)
  rw [← hwhole, scan_blanks position _ _ (List.all_eq_true.mp List.all_takeWhile)
    (by simpa using hhead), scan]
  simp only [nextPiece_of_isWhite hc hhead]
  exact ⟨_, rfl⟩

/-! ## Lines that a comment matters to -/

/-- The line has a comment, and in front of it white space alone, some of which is neither space nor
tab. -/
structure WhiteBeforeComment (line : String) : Prop where
  commented : isBlank line = false
  white : isBlank (stripComment line) = true
  odd : ∃ c ∈ (stripComment line).toList, isSeparator c = false

instance (line : String) : Decidable (WhiteBeforeComment line) :=
  decidable_of_iff (isBlank line = false ∧ isBlank (stripComment line) = true ∧
      (stripComment line).toList.all isSeparator = false)
    ⟨fun h => ⟨h.1, h.2.1, by simpa using h.2.2⟩,
      fun h => ⟨h.commented, h.white, by simpa using h.odd⟩⟩

theorem WhiteBeforeComment.tokenize_eq {line : String} (h : WhiteBeforeComment line) :
    ∃ e, tokenize line = .error e := by
  obtain ⟨-, hwhite, hodd⟩ := h
  rw [isBlank, stripComment, String.toList_ofList] at hwhite
  rw [stripComment, String.toList_ofList] at hodd
  exact scan_of_white 0 _ hwhite hodd

/-- Any other line that is blank without its comment has no tokens. -/
theorem tokenize_of_isBlank {line : String} (h : ¬ WhiteBeforeComment line)
    (hline : isBlank line = false) (hstripped : isBlank (stripComment line) = true) :
    tokenize line = .ok [] := by
  refine scan_of_separators 0 _ fun c hc => ?_
  by_contra hseparator
  refine h ⟨hline, hstripped, c, ?_, Bool.eq_false_iff.mpr hseparator⟩
  rwa [stripComment, String.toList_ofList]

/-! ## Runs without comments -/

/-- A line without a token was scanned. -/
def Event.isEmptyScan : Event → Bool
  | .scanned [] => true
  | _ => false

namespace Session

variable {ω : Type}

theorem runLineWith_stripComment (nested : String → Session ω → Ending ω Unit) (line : String)
    (s : Session ω) : runLineWith nested (stripComment line) s = runLineWith nested line s := by
  unfold runLineWith
  rw [tokenize_stripComment]

theorem agrees_stripComment {own : StoreId} {nested : String → Session ω → Ending ω Unit}
    (hn : (Comparison.ignoring own Event.isEmptyScan).AgreesNested nested nested)
    (lines : List String) (hlines : ∀ line ∈ lines, ¬ WhiteBeforeComment line)
    {s t : Session ω} (hs : (Comparison.ignoring own Event.isEmptyScan).Matched s t) :
    (Comparison.ignoring own Event.isEmptyScan).Agrees (runLinesWith nested lines s)
      (runLinesWith nested (lines.map stripComment) t) := by
  induction lines generalizing s t with
  | nil => exact .of_matched hs _
  | cons line rest ih =>
    obtain ⟨hline, hrest⟩ := List.forall_mem_cons.mp hlines
    rw [List.map_cons, runLinesWith, runLinesWith]
    cases hblank : isBlank line with
    | true =>
      rw [isBlank_stripComment hblank]
      exact ih hrest hs
    | false =>
      cases hstripped : isBlank (stripComment line) with
      | true =>
        -- the line without its comment is passed over, the line itself has no tokens
        rw [runLineWith_of_tokens _ _ _ _ (tokenize_of_isBlank hline hblank hstripped)]
        exact ih hrest (hs.note_left rfl)
      | false =>
        rw [runLineWith_stripComment]
        exact (Comparison.agrees_runLineWith hn hs line (Comparison.exact_lineAllowed line)).andThen
          fun _ _ _ _ hs' => ih hrest hs'

/-- The lines without their comments do what the lines do. -/
theorem runLines_stripComment (s : Session ω) (lines : List String)
    (hlines : ∀ line ∈ lines, ¬ WhiteBeforeComment line) :
    (s.runLines (lines.map stripComment)).1 = (s.runLines lines).1 ∧
      (s.runLines lines).2.SameBut Event.isEmptyScan (s.runLines (lines.map stripComment)).2 := by
  refine sameBut_of_agrees (later_runLines lines s) (later_runLines _ s) ?_
  exact agrees_stripComment (Comparison.agrees_nestedRun (Nat.le_refl _) (.inr rfl)) lines hlines
    (Comparison.exact_matched s)

/-- **Comments are transparent.**  Let no line have a comment with nothing in front of it but white
space other than spaces and tabs.  Then a program does what it does without its comments, and two
programs that differ in their comments alone do the same; only lines that are nothing but a comment
are scanned in the one and passed over in the other.  A line that has such a comment cannot be
scanned, whereas without the comment it is passed over. -/
theorem comments_are_transparent (s : Session ω) :
    (∀ lines, (∀ line ∈ lines, ¬ WhiteBeforeComment line) →
      (s.runLines (lines.map stripComment)).1 = (s.runLines lines).1 ∧
      (s.runLines lines).2.SameBut Event.isEmptyScan (s.runLines (lines.map stripComment)).2) ∧
    (∀ lines edited, (∀ line ∈ lines ++ edited, ¬ WhiteBeforeComment line) →
      edited.map stripComment = lines.map stripComment →
      (s.runLines edited).1 = (s.runLines lines).1 ∧
      (s.runLines lines).2.SameBut Event.isEmptyScan (s.runLines edited).2) ∧
    ∀ line, WhiteBeforeComment line →
      (∃ e, s.runLines [line] = (.error (.lex e), s)) ∧
      s.runLines [stripComment line] = (.ok (), s) := by
  refine ⟨runLines_stripComment s, fun lines edited hlines hedited => ?_, fun line hline => ?_⟩
  · rw [List.forall_mem_append] at hlines
    obtain ⟨hresult, hstate⟩ := runLines_stripComment s lines hlines.1
    obtain ⟨hresult', hstate'⟩ := runLines_stripComment s edited hlines.2
    rw [hedited] at hresult' hstate'
    exact ⟨hresult'.symm.trans hresult, hstate.trans hstate'.symm⟩
  · obtain ⟨e, hscan⟩ := hline.tokenize_eq
    refine ⟨⟨e, ?_⟩, ?_⟩
    · simp only [runLines, runLinesWith, runLineWith, hline.commented, hscan]
      rfl
    · simp only [runLines, runLinesWith, hline.white, if_true]

/-- Comments that are changed, one behind a statement and one alone in its line, and a no-break
space in front of a comment. -/
theorem comments_are_transparent_of_notes :
    let s := start Host.ofTable ⟨[], []⟩
    let lines := ["STORE x 1 // one", "  // note", "PRINT x"]
    let edited := ["STORE x 1 // first", "  //", "PRINT x"]
    let odd := "\u00a0// note"
    (∀ line ∈ lines ++ edited, ¬ WhiteBeforeComment line) ∧
    edited.map stripComment = lines.map stripComment ∧ WhiteBeforeComment odd ∧
    ((s.runLines (lines.map stripComment)).1 = (s.runLines lines).1 ∧
      (s.runLines lines).2.SameBut Event.isEmptyScan (s.runLines (lines.map stripComment)).2) ∧
    ((s.runLines edited).1 = (s.runLines lines).1 ∧
      (s.runLines lines).2.SameBut Event.isEmptyScan (s.runLines edited).2) ∧
    (∃ e, s.runLines [odd] = (.error (.lex e), s)) ∧
    s.runLines [stripComment odd] = (.ok (), s) := by
  intro s lines edited odd
  have hlines : ∀ line ∈ lines ++ edited, ¬ WhiteBeforeComment line := by decide
  have hedited : edited.map stripComment = lines.map stripComment := by decide
  have hodd : WhiteBeforeComment odd := by decide
  obtain ⟨hstripped, hchanged, hparted⟩ := comments_are_transparent s
  exact ⟨hlines, hedited, hodd,
    hstripped lines fun line hline => hlines line (List.mem_append_left _ hline),
    hchanged lines edited hlines hedited, hparted odd hodd⟩

/-- A no-break space in front of a comment: with the comment the program fails, without it the
program ends well. -/
theorem comment_behind_odd_white_is_not_transparent :
    let s := start Host.ofTable ⟨[], []⟩
    let lines := ["\u00a0// note"]
    (s.runLines lines).1 = .error (.lex ⟨'\u00a0', 0⟩) ∧
      (s.runLines (lines.map stripComment)).1 = .ok () := by
  intro s lines
  have hblank : isBlank "\u00a0// note" = false ∧
      isBlank (stripComment "\u00a0// note") = true := by decide
  have hscan : tokenize "\u00a0// note" = .error ⟨'\u00a0', 0⟩ := by cbv
  constructor
  · simp only [lines, runLines, runLinesWith, runLineWith, hblank.1, hscan]
    rfl
  · simp only [lines, List.map_cons, List.map_nil, runLines, runLinesWith, hblank.2, if_true]

end Session

end LineScript
