import Mathlib
import LineScript.Proofs.Spacing

/-!
Where scanning fails.

The scanner yields the tokens of a line one by one and stops at the first character that begins
none (`scanItems`, `scan_eq_mapM`).  In front of that character the line is cut into segments
(`failsBehind_of_scan`), although the scanner looked behind each of them to see where it ends: what
stops a segment is the first character behind it, so the segments stay what they are where the text
is cut off behind them.

Main statement: an error points at the character that it names, the text in front of it is scanned
as the tokens that the scanner had yielded, and the character begins no token
(`tokenize_error_points_at_character`).
-/

namespace LineScript

open Text

/-! ## What the scanner yields -/

/-- What the scanner yields on a text that stands at byte `position` of its line: tokens, and at
last the error that it stops at. -/
def scanItems (position : Nat) (cs : List Char) : List (Except LexError Token) :=
  match cs with
  | [] => []
  | first :: after =>
    let piece := nextPiece first after
    let behind := position + byteLength piece.taken
    match piece.kind with
    | .stray => [.error ⟨first, position⟩]
    | .blank => scanItems behind piece.rest
    | kind => .ok ⟨kind, String.ofList piece.taken⟩ :: scanItems behind piece.rest
termination_by cs.length
decreasing_by all_goals exact nextPiece_rest_lt first after

theorem scanItems_stray {position : Nat} {first : Char} {after : List Char}
    (h : (nextPiece first after).kind = .stray) :
    scanItems position (first :: after) = [.error ⟨first, position⟩] := by
  rw [scanItems]
  simp only [h]

theorem scanItems_blank {position : Nat} {first : Char} {after : List Char}
    (h : (nextPiece first after).kind = .blank) :
    scanItems position (first :: after) =
      scanItems (position + byteLength (nextPiece first after).taken)
        (nextPiece first after).rest := by
  rw [scanItems]
  simp only [h]

theorem scanItems_token {position : Nat} {first : Char} {after : List Char}
    (hstray : (nextPiece first after).kind ≠ .stray)
    (hblank : (nextPiece first after).kind ≠ .blank) :
    scanItems position (first :: after) =
      .ok ⟨(nextPiece first after).kind, String.ofList (nextPiece first after).taken⟩ ::
        scanItems (position + byteLength (nextPiece first after).taken)
          (nextPiece first after).rest := by
  rw [scanItems]
  split
  · next h => exact absurd h hstray
  · next h => exact absurd h hblank
  · rfl

/-- Scanning collects what the scanner yields, up to the first error. -/
theorem scan_eq_mapM (position : Nat) (cs : List Char) :
    scan position cs = (scanItems position cs).mapM id := by
  fun_induction scan position cs with
  | case1 => rw [scanItems]; rfl
  | case2 position first after piece hstray => rw [scanItems_stray hstray]; rfl
  | case3 position first after piece behind hblank ih => rw [scanItems_blank hblank, ← ih]
  | case4 position first after piece behind tokens hrest hstray hblank ih =>
    rw [scanItems_token hstray hblank, List.mapM_cons, ← ih, hrest]
    rfl
  | case5 position first after piece behind e hrest hstray hblank ih =>
    rw [scanItems_token hstray hblank, List.mapM_cons, ← ih, hrest]
    rfl

/-! ## In front of an error -/

/-- A character that begins no piece is no blank, and a quote only where no other one follows. -/
theorem classes_of_stray {first : Char} {after : List Char}
    (h : (nextPiece first after).kind = .stray) :
    isSeparator first = false ∧ (first = '"' → '"' ∉ after) := by
  constructor
  · rw [Bool.eq_false_iff]
    intro hseparator
    have hpiece := nextPiece_blanks first (after.takeWhile isSeparator)
      (after.dropWhile isSeparator) hseparator (List.all_eq_true.mp List.all_takeWhile)
      fun c hc => head?_dropWhile hc
    rw [List.takeWhile_append_dropWhile] at hpiece
    rw [hpiece] at h
    cases h
  · rintro rfl hquote
    obtain ⟨inner, rest, rfl, hinner⟩ := List.eq_append_cons_of_mem hquote
    rw [nextPiece_quoted inner rest hinner] at h
    cases h

theorem byteLength_eq (cs : List Char) : byteLength cs = (String.ofList cs).utf8ByteSize := by
  induction cs with
  | nil => rfl
  | cons c cs ih =>
    rw [← List.singleton_append, String.ofList_append, String.utf8ByteSize_append, ← ih]
    simp [byteLength]

theorem byteLength_append (xs ys : List Char) :
    byteLength (xs ++ ys) = byteLength xs + byteLength ys := by
  rw [byteLength_eq, byteLength_eq, byteLength_eq, String.ofList_append,
    String.utf8ByteSize_append]

/-- How a scan fails: in front of a stray character the text is cut into segments, whose tokens the
scanner yields before the error. -/
structure FailsBehind (position : Nat) (cs : List Char) (e : LexError)
    (segments : List Segment) (front after : List Char) : Prop where
  text : cs = front ++ e.character :: after
  cuts : Cuts segments front
  offset : e.position = position + byteLength front
  stray : (nextPiece e.character after).kind = .stray
  items : scanItems position cs = (segments.filterMap Segment.token?).map .ok ++ [.error e]

/-- A segment in front of a text whose scan fails. -/
theorem FailsBehind.cons {position : Nat} {first : Char} {after : List Char} {e : LexError}
    {segments : List Segment} {front behind : List Char}
    (hstray : (nextPiece first after).kind ≠ .stray)
    (h : FailsBehind (position + byteLength (nextPiece first after).taken)
      (nextPiece first after).rest e segments front behind) :
    ∃ x : Segment, FailsBehind position (first :: after) e (x :: segments) (x.chars ++ front)
      behind := by
  obtain ⟨x, hkind, hchars, hstops⟩ := (nextPiece_isSegment first after).resolve_left hstray
  -- the segment looked at the text behind it, which begins as the part in front of the error does
  have hstops' : x.kind.Stops front := by
    intro c hc
    refine hstops c ?_
    rw [h.text, List.head?_append, hc]
    rfl
  refine ⟨x, ?_, .cons (Cuts.mayPrecede hstops' h.cuts) h.cuts, ?_, h.stray, ?_⟩
  · rw [List.append_assoc, ← h.text, hchars, nextPiece_append]
  · rw [h.offset, byteLength_append, hchars, Nat.add_assoc]
  · by_cases hblank : (nextPiece first after).kind = .blank
    · have htoken : x.token? = none := if_pos (x.tokenKind_eq_blank_iff.mp (hkind.trans hblank))
      rw [scanItems_blank hblank, h.items, List.filterMap_cons_none htoken]
    · have htoken : x.token? =
          some ⟨(nextPiece first after).kind, String.ofList (nextPiece first after).taken⟩ := by
        refine (x.token?_eq_some_iff _).mpr ⟨fun hx => ?_, hkind, ?_⟩
        · exact hblank (hkind.symm.trans (x.tokenKind_eq_blank_iff.mpr hx))
        · rw [hchars, String.toList_ofList]
      rw [scanItems_token hstray hblank, h.items, List.filterMap_cons_some htoken]
      rfl

theorem failsBehind_of_scan {position : Nat} {cs : List Char} {e : LexError}
    (h : scan position cs = .error e) :
    ∃ segments front after, FailsBehind position cs e segments front after := by
  fun_induction scan position cs with
  | case1 => cases h
  | case2 position first after piece hstray =>
    obtain rfl := Except.error.inj h
    exact ⟨[], [], after, rfl, .nil, rfl, hstray, scanItems_stray hstray⟩
  | case3 position first after piece behind hblank ih =>
    obtain ⟨segments, front, after', hfails⟩ := ih h
    have hstray : piece.kind ≠ .stray := by rw [hblank]; simp
    obtain ⟨x, hcons⟩ := hfails.cons hstray
    exact ⟨_, _, _, hcons⟩
  | case4 => cases h
  | case5 position first after piece behind e' hrest hstray hblank ih =>
    obtain rfl := Except.error.inj h
    obtain ⟨segments, front, after', hfails⟩ := ih hrest
    obtain ⟨x, hcons⟩ := hfails.cons hstray
    exact ⟨_, _, _, hcons⟩

/-! ## The error of a line -/

/-- The text in front of a place in a line without its comment has no comment either. -/
theorem tokenize_of_cuts {line : String} {segments : List Segment} {front behind : List Char}
    (hline : stripCommentList line.toList = front ++ behind) (hcuts : Cuts segments front) :
    tokenize (String.ofList front) = .ok (segments.filterMap Segment.token?) := by
  have hcomment : ¬ ['/', '/'] <:+: front := by
    intro hpart
    refine not_infix_stripCommentList line.toList ?_
    rw [hline]
    exact hpart.trans (List.prefix_append front behind).isInfix
  have hstrip := stripCommentList_append front [] hcomment (by simp)
  rw [List.append_nil, stripCommentList, List.append_nil] at hstrip
  rw [tokenize, String.toList_ofList, hstrip]
  exact scan_of_cuts hcuts 0

/-- **Errors point at the first character that begins no token.**  Where the scan of a line fails,
the position is a place in the line without its comment, and the character that stands there is the
one that the error names.  The text in front of it is scanned on its own as the tokens that the
scanner yielded before the error.  The character is neither space nor tab, and a double quote only
where no other double quote follows in the line. -/
theorem tokenize_error_points_at_character (line : String) (e : LexError)
    (h : tokenize line = .error e) :
    ∃ (place : (stripComment line).Pos) (inside : place ≠ (stripComment line).endPos)
      (tokens : List Token),
      place.offset.byteIdx = e.position ∧ e.position < (stripComment line).utf8ByteSize ∧
      place.get inside = e.character ∧
      tokenize ((stripComment line).sliceTo place).copy = .ok tokens ∧
      scanItems 0 (stripComment line).toList = tokens.map .ok ++ [.error e] ∧
      e.character ≠ ' ' ∧ e.character ≠ '\t' ∧
      (e.character = '"' →
        '"' ∉ ((stripComment line).sliceFrom (place.next inside)).copy.toList) := by
  obtain ⟨segments, front, after, hfails⟩ := failsBehind_of_scan h
  obtain ⟨hseparator, hquote⟩ := classes_of_stray hfails.stray
  have hline : stripComment line =
      String.ofList front ++ (String.singleton e.character ++ String.ofList after) := by
    apply String.toList_injective
    simp [stripComment, hfails.text]
  have hvalid : String.Pos.Raw.IsValid (stripComment line) (String.ofList front).rawEndPos :=
    String.Pos.Raw.isValid_iff_exists_append.mpr ⟨_, _, hline, rfl⟩
  have hplace : ((stripComment line).pos _ hvalid).Splits (String.ofList front)
      (String.singleton e.character ++ String.ofList after) := ⟨hline, rfl⟩
  have hposition : (String.ofList front).utf8ByteSize = e.position := by
    rw [hfails.offset, byteLength_eq, Nat.zero_add]
  refine ⟨_, hplace.ne_endPos_of_singleton, segments.filterMap Segment.token?, hposition, ?_,
    hplace.next.get_eq_of_singleton, ?_, ?_, ?_, ?_, ?_⟩
  · rw [hline, String.utf8ByteSize_append, String.utf8ByteSize_append, hposition,
      String.utf8ByteSize_singleton]
    have := e.character.utf8Size_pos
    omega
  · rw [hplace.copy_sliceTo_eq]
    exact tokenize_of_cuts hfails.text hfails.cuts
  · rw [stripComment, String.toList_ofList]
    exact hfails.items
  · intro hspace
    rw [hspace] at hseparator
    cases hseparator
  · intro htab
    rw [htab] at hseparator
    cases hseparator
  · rw [hplace.next.copy_sliceFrom_eq, String.toList_ofList]
    exact hquote

set_option maxRecDepth 20000 in
/-- A fraction that runs into a word, behind text of several bytes: its point is left over. -/
theorem tokenize_error_points_at_point :
    let line := "PRINT \"é\" 1.5x // note"
    tokenize line = .error ⟨'.', 12⟩ ∧
    ∃ (place : (stripComment line).Pos) (inside : place ≠ (stripComment line).endPos)
      (tokens : List Token),
      place.offset.byteIdx = 12 ∧ 12 < (stripComment line).utf8ByteSize ∧
      place.get inside = '.' ∧
      tokenize ((stripComment line).sliceTo place).copy = .ok tokens ∧
      scanItems 0 (stripComment line).toList = tokens.map .ok ++ [.error ⟨'.', 12⟩] ∧
      '.' ≠ ' ' ∧ '.' ≠ '\t' ∧
      ('.' = '"' → '"' ∉ ((stripComment line).sliceFrom (place.next inside)).copy.toList) := by
  intro line
  have hscan : tokenize line = .error ⟨'.', 12⟩ := by cbv
  exact ⟨hscan, tokenize_error_points_at_character line _ hscan⟩

end LineScript
