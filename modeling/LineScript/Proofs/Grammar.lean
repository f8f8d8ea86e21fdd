import LineScript.Proofs.Scanning
import Mathlib.Data.Set.Subsingleton

/-!
The grammar of a line.  Behind the removal of its comment a line is made of segments: runs of
blanks, quoted texts, words and numerals.  Words and numerals never touch each other.

* What may follow a segment is what does not continue it (`stops_append_iff`).
* In front of a text that does not continue it, a segment is the next piece
  (`nextPiece_of_segment`), and every piece that is not stray is a segment
  (`nextPiece_isSegment`).

Main statement: a line is scanned iff it can be cut into segments, which is possible in one way at
most, and its tokens are the segments that are no blanks (`tokenize_eq_ok_iff_cuts`).
-/

namespace LineScript

open Text

/-! ## Segments -/

/-- What a line is made of. -/
inductive SegmentKind
  | blanks
  | quoted
  | word
  | numeral
deriving DecidableEq, Repr

def IsDigits (cs : List Char) : Prop :=
  cs ≠ [] ∧ ∀ c ∈ cs, isDecimalDigit c = true

/-- What a segment of each kind looks like. -/
inductive Shape : SegmentKind → List Char → Prop
  /-- Spaces and tabs. -/
  | blanks {cs : List Char} (hne : cs ≠ []) (hcs : ∀ c ∈ cs, isSeparator c = true) :
      Shape .blanks cs
  /-- Anything but quotes, between quotes. -/
  | quoted {inner : List Char} (hinner : '"' ∉ inner) : Shape .quoted ('"' :: (inner ++ ['"']))
  /-- An ASCII letter or an underscore, and any word characters. -/
  | word {first : Char} {more : List Char} (hfirst : isNameStart first = true)
      (hmore : ∀ c ∈ more, isWordChar c = true) : Shape .word (first :: more)
  | whole {whole : List Char} (hwhole : IsDigits whole) : Shape .numeral whole
  | fraction {whole behind : List Char} (hwhole : IsDigits whole) (hbehind : IsDigits behind) :
      Shape .numeral (whole ++ '.' :: behind)

/-- A part of a line that is of one of these shapes. -/
@[ext] structure Segment where
  kind : SegmentKind
  chars : List Char
  shape : Shape kind chars

namespace Segment

/-- Words and numerals, which must not touch each other. -/
def IsWordLike (x : Segment) : Prop :=
  x.kind = .word ∨ x.kind = .numeral

/-- May `y` follow `x`?  Two runs of blanks would be one longer run. -/
structure MayPrecede (x y : Segment) : Prop where
  blanks : ¬ (x.kind = .blanks ∧ y.kind = .blanks)
  wordLike : ¬ (x.IsWordLike ∧ y.IsWordLike)

/-- What the segment is as a token.  A word that names a built-in command is a keyword. -/
def tokenKind (x : Segment) : TokenKind :=
  match x.kind with
  | .blanks => .blank
  | .quoted => .string
  | .numeral => .number
  | .word =>
    if String.ofList x.chars ∈ keywords then .keyword else .identifier

/-- The token that the segment is, with its exact text.  Blanks are none. -/
def token? (x : Segment) : Option Token :=
  if x.kind = .blanks then none else some ⟨x.tokenKind, String.ofList x.chars⟩

end Segment

/-- The segments, one behind the other, are the text. -/
inductive Cuts : List Segment → List Char → Prop
  | nil : Cuts [] []
  | cons {x : Segment} {segments : List Segment} {cs : List Char}
      (hnext : ∀ y, segments.head? = some y → x.MayPrecede y) (hrest : Cuts segments cs) :
      Cuts (x :: segments) (x.chars ++ cs)

/-! ## How a segment begins -/

theorem toNat_of_isNameStart {c : Char} (h : isNameStart c = true) :
    65 ≤ c.toNat ∧ c.toNat ≤ 122 := by
  have hcases : (c.isUpper = true ∨ c.isLower = true) ∨ c = '_' := by
    have h' : ((c.isUpper || c.isLower) || c == '_') = true := h
    simpa using h'
  rcases hcases with (hupper | hlower) | rfl
  · obtain ⟨hlow, hhigh⟩ := toNat_of_isUpper hupper
    omega
  · have hlower' : (decide (c.val ≥ 'a'.val) && decide (c.val ≤ 'z'.val)) = true := hlower
    rw [Bool.and_eq_true] at hlower'
    have hlow : 97 ≤ c.toNat := UInt32.le_iff_toNat_le.mp (of_decide_eq_true hlower'.1)
    have hhigh : c.toNat ≤ 122 := UInt32.le_iff_toNat_le.mp (of_decide_eq_true hlower'.2)
    omega
  · decide

theorem isDecimalDigit_of_isNameStart {c : Char} (h : isNameStart c = true) :
    isDecimalDigit c = false := by
  obtain ⟨hlow, hhigh⟩ := toNat_of_isNameStart h
  exact isDecimalDigit_of_between (by omega) (by omega)

/-- What a segment of this kind begins with. -/
def SegmentKind.Begins : SegmentKind → Char → Prop
  | blanks, c => isSeparator c = true
  | quoted, c => c = '"'
  | word, c => isNameStart c = true
  | numeral, c => isDecimalDigit c = true

theorem Shape.begins {kind : SegmentKind} {chars : List Char} (h : Shape kind chars) :
    ∃ first more, chars = first :: more ∧ kind.Begins first := by
  have hdigits {digits : List Char} (hd : IsDigits digits) (behind : List Char) :
      ∃ first more, digits ++ behind = first :: more ∧ isDecimalDigit first = true := by
    obtain ⟨first, more, rfl⟩ := List.exists_cons_of_ne_nil hd.1
    exact ⟨first, more ++ behind, rfl, hd.2 first List.mem_cons_self⟩
  cases h with
  | blanks hne hcs =>
    obtain ⟨first, more, rfl⟩ := List.exists_cons_of_ne_nil hne
    exact ⟨first, more, rfl, hcs first List.mem_cons_self⟩
  | quoted _ => exact ⟨'"', _, rfl, rfl⟩
  | word hfirst _ => exact ⟨_, _, rfl, hfirst⟩
  | whole hwhole =>
    have h := hdigits hwhole []
    rwa [List.append_nil] at h
  | fraction hwhole _ => exact hdigits hwhole _

/-- The first character tells runs of blanks and words from the others. -/
theorem SegmentKind.Begins.classes {kind : SegmentKind} {c : Char} (h : kind.Begins c) :
    (isSeparator c = true ↔ kind = .blanks) ∧
    (isWordChar c = true ↔ kind = .word ∨ kind = .numeral) ∧ c ≠ '.' := by
  have hseparator (hword : isWordChar c = true) : isSeparator c = false := by
    rw [Bool.eq_false_iff]
    intro hc
    rcases eq_of_isSeparator hc with rfl | rfl
    · exact absurd hword (by decide)
    · exact absurd hword (by decide)
  have hpoint (hword : isWordChar c = true) : c ≠ '.' := by
    rintro rfl
    exact absurd hword (by decide)
  cases kind with
  | blanks => rcases eq_of_isSeparator h with rfl | rfl <;> decide
  | quoted =>
    obtain rfl : c = '"' := h
    decide
  | word =>
    have hword := isWordChar_of_isNameStart h
    simp [hword, hseparator hword, hpoint hword]
  | numeral =>
    have hword := isWordChar_of_isDecimalDigit h
    simp [hword, hseparator hword, hpoint hword]

/-- A character that a segment of this kind would have taken in. -/
def SegmentKind.Continues : SegmentKind → Char → Prop
  | blanks, c => isSeparator c = true
  | quoted, _ => False
  | word, c | numeral, c => isWordChar c = true

/-- The text does not continue a segment of this kind that stands in front of it. -/
def SegmentKind.Stops (kind : SegmentKind) (rest : List Char) : Prop :=
  ∀ c, rest.head? = some c → ¬ kind.Continues c

theorem continues_iff (x : Segment) {y : Segment} {first : Char} (h : y.kind.Begins first) :
    x.kind.Continues first ↔
      (x.kind = .blanks ∧ y.kind = .blanks) ∨ (x.IsWordLike ∧ y.IsWordLike) := by
  obtain ⟨hblanks, hword, -⟩ := h.classes
  unfold Segment.IsWordLike
  cases x.kind with
  | blanks => simp [SegmentKind.Continues, hblanks]
  | quoted => simp [SegmentKind.Continues]
  | word => simp [SegmentKind.Continues, hword]
  | numeral => simp [SegmentKind.Continues, hword]

/-- A segment may follow iff it does not continue the one in front of it. -/
theorem stops_append_iff (x y : Segment) (rest : List Char) :
    x.kind.Stops (y.chars ++ rest) ↔ x.MayPrecede y := by
  obtain ⟨first, more, hchars, hbegins⟩ := y.shape.begins
  have hstops : x.kind.Stops (y.chars ++ rest) ↔ ¬ x.kind.Continues first := by
    rw [hchars]
    simp [SegmentKind.Stops]
  rw [hstops, continues_iff x hbegins, not_or]
  exact ⟨fun h => ⟨h.1, h.2⟩, fun h => ⟨h.blanks, h.wordLike⟩⟩

namespace Cuts

variable {x : Segment} {segments : List Segment} {cs : List Char}

theorem stops (hnext : ∀ y, segments.head? = some y → x.MayPrecede y) (h : Cuts segments cs) :
    x.kind.Stops cs := by
  cases h with
  | nil => intro c hc; cases hc
  | @cons y _ rest => exact (stops_append_iff x y rest).mpr (hnext y rfl)

theorem mayPrecede (hstops : x.kind.Stops cs) (h : Cuts segments cs) :
    ∀ y, segments.head? = some y → x.MayPrecede y := by
  intro y hy
  cases h with
  | nil => cases hy
  | @cons z _ rest =>
    obtain rfl := Option.some.inj hy
    exact (stops_append_iff x z rest).mp hstops

theorem head?_ne_point (h : Cuts segments cs) : cs.head? ≠ some '.' := by
  cases h with
  | nil => simp
  | @cons y _ rest =>
    obtain ⟨first, more, hchars, hbegins⟩ := y.shape.begins
    obtain ⟨-, -, hpoint⟩ := hbegins.classes
    simpa [hchars] using hpoint

end Cuts

/-! ## Segments and pieces -/

/-- A segment is the next piece where nothing follows that would continue it. -/
theorem nextPiece_of_segment (x : Segment) (rest : List Char) (hstops : x.kind.Stops rest)
    (hpoint : rest.head? ≠ some '.') {first : Char} {after : List Char}
    (h : first :: after = x.chars ++ rest) :
    nextPiece first after = ⟨x.tokenKind, x.chars, rest⟩ := by
  obtain ⟨kind, chars, shape⟩ := x
  have hstops' : ∀ c, rest.head? = some c → ¬ kind.Continues c := hstops
  cases shape with
  | blanks hne hcs =>
    obtain ⟨c, more, rfl⟩ := List.exists_cons_of_ne_nil hne
    obtain ⟨rfl, rfl⟩ := List.cons.inj h
    obtain ⟨hfirst, hmore⟩ := List.forall_mem_cons.mp hcs
    exact nextPiece_blanks _ more rest hfirst hmore
      fun c hc => Bool.eq_false_iff.mpr (hstops' c hc)
  | @quoted inner hinner =>
    obtain ⟨rfl, rfl⟩ := List.cons.inj h
    show nextPiece '"' (inner ++ ['"'] ++ rest) = ⟨.string, '"' :: (inner ++ ['"']), rest⟩
    rw [List.append_assoc]
    exact nextPiece_quoted inner rest hinner
  | @word c more hfirst hmore =>
    obtain ⟨rfl, rfl⟩ := List.cons.inj h
    have hquote : first ≠ '"' := by
      rintro rfl
      exact absurd hfirst (by decide)
    show nextPiece first (more ++ rest) = ⟨_, first :: more, rest⟩
    rw [nextPiece_word first more rest hquote (isDecimalDigit_of_isNameStart hfirst) hfirst hmore
      fun c hc => Bool.eq_false_iff.mpr (hstops' c hc)]
    rfl
  | whole hwhole =>
    obtain ⟨hne, hdigits⟩ := hwhole
    obtain ⟨c, more, rfl⟩ := List.exists_cons_of_ne_nil hne
    obtain ⟨rfl, rfl⟩ := List.cons.inj h
    obtain ⟨hfirst, hmore⟩ := List.forall_mem_cons.mp hdigits
    exact nextPiece_whole _ more rest hfirst hmore
      (fun c hc => Bool.eq_false_iff.mpr (hstops' c hc)) hpoint
  | @fraction _ behind hwhole hbehind =>
    obtain ⟨hne, hdigits⟩ := hwhole
    obtain ⟨c, more, rfl⟩ := List.exists_cons_of_ne_nil hne
    obtain ⟨rfl, rfl⟩ := List.cons.inj h
    obtain ⟨hfirst, hmore⟩ := List.forall_mem_cons.mp hdigits
    show nextPiece first (more ++ '.' :: behind ++ rest) =
      ⟨.number, first :: (more ++ '.' :: behind), rest⟩
    rw [List.append_assoc]
    exact nextPiece_fraction first more behind rest hfirst hmore hbehind.1 hbehind.2
      fun c hc => Bool.eq_false_iff.mpr (hstops' c hc)

theorem head?_dropWhile {p : Char → Bool} {cs : List Char} {c : Char}
    (h : (cs.dropWhile p).head? = some c) : p c = false := by
  have := List.head?_dropWhile_not p cs
  rwa [h] at this

/-- The piece is a segment, and what is left of the text does not continue it. -/
def Piece.IsSegment (piece : Piece) : Prop :=
  ∃ x : Segment, x.tokenKind = piece.kind ∧ x.chars = piece.taken ∧ x.kind.Stops piece.rest

theorem quotedPiece_isSegment (after : List Char) :
    (quotedPiece after).kind = .stray ∨ (quotedPiece after).IsSegment := by
  unfold quotedPiece
  split
  · have hinner : '"' ∉ after.takeWhile (· != '"') := by
      intro hmem
      simpa using List.all_eq_true.mp List.all_takeWhile _ hmem
    exact .inr ⟨⟨.quoted, _, .quoted hinner⟩, rfl, rfl, fun _ _ h => h⟩
  · exact .inl rfl

theorem numeralPiece_isSegment (first : Char) (after : List Char)
    (hfirst : isDecimalDigit first = true) :
    (numeralPiece first after).kind = .stray ∨ (numeralPiece first after).IsSegment := by
  have htaken (cs : List Char) : ∀ c ∈ cs.takeWhile isDecimalDigit, isDecimalDigit c = true :=
    List.all_eq_true.mp List.all_takeWhile
  have hwhole : IsDigits (first :: after.takeWhile isDecimalDigit) :=
    ⟨by simp, List.forall_mem_cons.mpr ⟨hfirst, htaken after⟩⟩
  have hstops {rest : List Char} (hend : atWordEnd rest = true) : SegmentKind.numeral.Stops rest :=
    fun c hc => Bool.eq_false_iff.mp (atWordEnd_iff.mp hend c hc)
  unfold numeralPiece
  dsimp only
  split
  · next more hmore =>
    right
    split
    · next hfraction =>
      obtain ⟨hne, hend⟩ := hfraction
      exact ⟨⟨.numeral, _, .fraction hwhole ⟨hne, htaken more⟩⟩, rfl, rfl, hstops hend⟩
    · refine ⟨⟨.numeral, _, .whole hwhole⟩, rfl, rfl, ?_⟩
      rw [hmore]
      exact hstops rfl
  · split
    · next hend => exact .inr ⟨⟨.numeral, _, .whole hwhole⟩, rfl, rfl, hstops hend⟩
    · exact .inl rfl

/-- Every piece but a stray character is a segment. -/
theorem nextPiece_isSegment (first : Char) (after : List Char) :
    (nextPiece first after).kind = .stray ∨ (nextPiece first after).IsSegment := by
  unfold nextPiece
  split
  · exact quotedPiece_isSegment after
  split
  · next hdigit => exact numeralPiece_isSegment first after hdigit
  split
  · next hstart =>
    refine .inr ⟨⟨.word, _, .word hstart (List.all_eq_true.mp List.all_takeWhile)⟩, ?_, rfl, ?_⟩
    · rfl
    · exact fun c hc => Bool.eq_false_iff.mp (head?_dropWhile hc)
  split
  · next hseparator =>
    have htaken : ∀ c ∈ first :: after.takeWhile isSeparator, isSeparator c = true :=
      List.forall_mem_cons.mpr ⟨hseparator, List.all_eq_true.mp List.all_takeWhile⟩
    refine .inr ⟨⟨.blanks, _, .blanks (by simp) htaken⟩, rfl, rfl, ?_⟩
    exact fun c hc => Bool.eq_false_iff.mp (head?_dropWhile hc)
  · exact .inl rfl

/-! ## Cuttings and scans -/

namespace Segment

theorem tokenKind_ne_stray (x : Segment) : x.tokenKind ≠ .stray := by
  unfold tokenKind
  split
  · simp
  · simp
  · simp
  · split <;> simp

theorem tokenKind_eq_blank_iff (x : Segment) : x.tokenKind = .blank ↔ x.kind = .blanks := by
  unfold tokenKind
  split
  · next h => simp [h]
  · next h => simp [h]
  · next h => simp [h]
  · next h => split <;> simp [h]

theorem token?_eq_some_iff (x : Segment) (t : Token) :
    x.token? = some t ↔ x.kind ≠ .blanks ∧ x.tokenKind = t.kind ∧ x.chars = t.text.toList := by
  unfold token?
  split
  · next h => simp [h]
  · next h =>
    constructor
    · intro htoken
      rw [← Option.some.inj htoken]
      exact ⟨h, rfl, String.toList_ofList.symm⟩
    · rintro ⟨-, hkind, hchars⟩
      rw [hkind, hchars, String.ofList_toList]

/-- The token that the segment is tells its kind. -/
theorem eq_of_tokenKind {x y : Segment} (hchars : x.chars = y.chars)
    (hkind : x.tokenKind = y.tokenKind) : x = y := by
  ext1
  · unfold tokenKind at hkind
    rw [hchars] at hkind
    revert hkind
    cases x.kind <;> cases y.kind <;> simp <;> split <;> simp
  · exact hchars

end Segment

/-- Scanning on behind a segment. -/
theorem scan_of_segment (x : Segment) (position : Nat) {first : Char} {after rest : List Char}
    (h : nextPiece first after = ⟨x.tokenKind, x.chars, rest⟩) {segments : List Segment}
    (hrest : scan (position + byteLength x.chars) rest =
      .ok (segments.filterMap Segment.token?)) :
    scan position (first :: after) = .ok ((x :: segments).filterMap Segment.token?) := by
  by_cases hkind : x.kind = .blanks
  · have htoken : x.token? = none := if_pos hkind
    rw [(Segment.tokenKind_eq_blank_iff x).mpr hkind] at h
    rw [List.filterMap_cons_none htoken, scan_blank position first after _ _ h, hrest]
  · have htoken : x.token? = some ⟨x.tokenKind, String.ofList x.chars⟩ := if_neg hkind
    have hblank : x.tokenKind ≠ .blank := fun hx => hkind (x.tokenKind_eq_blank_iff.mp hx)
    rw [List.filterMap_cons_some htoken]
    exact scan_token position first after _ _ _ _ h ⟨hblank, x.tokenKind_ne_stray⟩ hrest

theorem scan_of_cuts {segments : List Segment} {cs : List Char} (h : Cuts segments cs)
    (position : Nat) : scan position cs = .ok (segments.filterMap Segment.token?) := by
  induction h generalizing position with
  | nil => rw [scan]; rfl
  | @cons x segments cs hnext hrest ih =>
    obtain ⟨first, more, hchars, -⟩ := x.shape.begins
    have htext : first :: (more ++ cs) = x.chars ++ cs := by rw [hchars]; rfl
    have hpiece := nextPiece_of_segment x cs (Cuts.stops hnext hrest) hrest.head?_ne_point htext
    have hscan := scan_of_segment x position hpiece (ih _)
    rwa [hchars]

namespace Cuts

/-- The first segment of a cutting is the next piece. -/
theorem nextPiece_eq {segments : List Segment} {first : Char} {after : List Char}
    (h : Cuts segments (first :: after)) :
    ∃ x tail rest, segments = x :: tail ∧ Cuts tail rest ∧
      nextPiece first after = ⟨x.tokenKind, x.chars, rest⟩ := by
  generalize htext : first :: after = text at h
  cases h with
  | nil => cases htext
  | @cons x tail rest hnext hrest =>
    exact ⟨x, tail, rest, rfl, hrest,
      nextPiece_of_segment x rest (stops hnext hrest) hrest.head?_ne_point htext⟩

/-- A piece in front of a text that is cut is cut as well. -/
theorem of_nextPiece {segments : List Segment} {first : Char} {after : List Char}
    (hstray : (nextPiece first after).kind ≠ .stray)
    (h : Cuts segments (nextPiece first after).rest) :
    ∃ x : Segment, x.tokenKind = (nextPiece first after).kind ∧
      x.chars = (nextPiece first after).taken ∧ Cuts (x :: segments) (first :: after) := by
  obtain ⟨x, hkind, hchars, hstops⟩ := (nextPiece_isSegment first after).resolve_left hstray
  refine ⟨x, hkind, hchars, ?_⟩
  rw [← nextPiece_append, ← hchars]
  exact .cons (mayPrecede hstops h) h

theorem eq_nil {segments : List Segment} (h : Cuts segments []) : segments = [] := by
  generalize htext : [] = text at h
  cases h with
  | nil => rfl
  | @cons x tail rest =>
    obtain ⟨first, more, hchars, -⟩ := x.shape.begins
    rw [hchars] at htext
    cases htext

/-- A text can be cut in one way at most. -/
theorem unique {xs ys : List Segment} {cs : List Char} (hx : Cuts xs cs) (hy : Cuts ys cs) :
    xs = ys := by
  induction hx generalizing ys with
  | nil => exact hy.eq_nil.symm
  | @cons x xs cs hnext hrest ih =>
    obtain ⟨first, more, hchars, -⟩ := x.shape.begins
    have htext : first :: (more ++ cs) = x.chars ++ cs := by rw [hchars]; rfl
    have hpiece := nextPiece_of_segment x cs (stops hnext hrest) hrest.head?_ne_point htext
    rw [← htext] at hy
    obtain ⟨y, tail, rest, rfl, htail, hpiece'⟩ := hy.nextPiece_eq
    rw [hpiece] at hpiece'
    obtain ⟨hkind, hchars', rfl⟩ := Piece.mk.inj hpiece'
    rw [Segment.eq_of_tokenKind hchars' hkind, ih htail]

end Cuts

theorem cuts_of_scan {position : Nat} {cs : List Char} {tokens : List Token}
    (h : scan position cs = .ok tokens) :
    ∃ segments, Cuts segments cs ∧ tokens = segments.filterMap Segment.token? := by
  fun_induction scan position cs generalizing tokens with
  | case1 => exact ⟨[], .nil, (Except.ok.inj h).symm⟩
  | case2 => cases h
  | case3 position first after piece behind hblank =>
    rename_i ih
    obtain ⟨segments, hcuts, htokens⟩ := ih h
    have hstray : piece.kind ≠ .stray := by rw [hblank]; simp
    obtain ⟨x, hkind, -, hcuts'⟩ := Cuts.of_nextPiece hstray hcuts
    refine ⟨x :: segments, hcuts', ?_⟩
    have htoken : x.token? = none := if_pos (x.tokenKind_eq_blank_iff.mp (hkind.trans hblank))
    rw [List.filterMap_cons_none htoken, htokens]
  | case4 position first after piece behind rest hrest hstray hblank =>
    rename_i ih
    obtain ⟨segments, hcuts, htokens⟩ := ih hrest
    obtain ⟨x, hkind, hchars, hcuts'⟩ := Cuts.of_nextPiece hstray hcuts
    refine ⟨x :: segments, hcuts', ?_⟩
    have hblanks : x.kind ≠ .blanks := fun hx =>
      hblank (hkind.symm.trans (x.tokenKind_eq_blank_iff.mpr hx))
    have htoken : x.token? = some ⟨piece.kind, String.ofList piece.taken⟩ :=
      (x.token?_eq_some_iff _).mpr ⟨hblanks, hkind, hchars.trans String.toList_ofList.symm⟩
    rw [List.filterMap_cons_some htoken, ← htokens]
    exact (Except.ok.inj h).symm
  | case5 => cases h

/-- **The tokens of a line.**  A line is scanned iff the text in front of its comment can be cut
into segments; its tokens are then the segments without the blanks, in order and with their exact
text.  There is one way at most to cut a text. -/
theorem tokenize_eq_ok_iff_cuts (line : String) :
    (∀ tokens, tokenize line = .ok tokens ↔
      ∃ segments, Cuts segments (stripComment line).toList ∧
        tokens = segments.filterMap Segment.token?) ∧
    {segments | Cuts segments (stripComment line).toList}.Subsingleton := by
  refine ⟨fun tokens => ⟨fun h => ?_, ?_⟩, fun _ hx _ hy => Cuts.unique hx hy⟩
  · rw [stripComment, String.toList_ofList]
    exact cuts_of_scan h
  · rintro ⟨segments, hcuts, rfl⟩
    rw [stripComment, String.toList_ofList] at hcuts
    exact scan_of_cuts hcuts 0

end LineScript
