import Mathlib
import LineScript.Proofs.Grammar
import LineScript.Run

/-!
Writing tokens and scanning them again.

* A token has the form that its kind asks for iff it is a segment (`hasForm_iff`), and a line
  without its comment has no `//` (`not_infix_stripCommentList`), so the tokens of a line are all
  well formed (`wellFormed_of_tokenize`).
* Well-formed tokens with blanks between them are scanned as these tokens (`SpacedLine.tokenize_text`).

Main statement: writing tokens and scanning are inverse to each other, and a line may be written
anew from its tokens without a change to what it does (`tokens_round_trip`).
-/

namespace LineScript

open Text

/-! ## Well-formed tokens -/

/-- The text is what the kind of the token says. -/
def Token.HasForm (t : Token) : Prop :=
  match t.kind with
  | .keyword => t.text ∈ keywords
  | .identifier => Shape .word t.text.toList ∧ t.text ∉ keywords
  | .number => Shape .numeral t.text.toList
  | .string => Shape .quoted t.text.toList
  | .blank | .stray => False

structure Token.WellFormed (t : Token) : Prop where
  form : t.HasForm
  comment : ¬ ['/', '/'] <:+: t.text.toList

theorem shape_keyword (command : Keyword) : Shape .word command.name.toList := by
  obtain ⟨first, word, hname, hupper⟩ := command.name_letters
  obtain ⟨hfirst, hword⟩ := List.forall_mem_cons.mp hupper
  rw [hname]
  exact .word (isNameStart_of_isUpper hfirst)
    fun c hc => isWordChar_of_isNameStart (isNameStart_of_isUpper (hword c hc))

theorem tokenKind_word {chars : List Char} (shape : Shape .word chars) :
    Segment.tokenKind ⟨.word, chars, shape⟩ =
      if String.ofList chars ∈ keywords then .keyword else .identifier :=
  rfl

/-- The tokens that have the form of their kind are the segments that are no blanks. -/
theorem hasForm_iff (t : Token) : t.HasForm ↔ ∃ x : Segment, x.token? = some t := by
  simp only [Segment.token?_eq_some_iff]
  unfold Token.HasForm
  constructor
  · intro h
    cases hkind : t.kind with
    | keyword =>
      rw [hkind] at h
      obtain ⟨command, hname⟩ := mem_keywords_iff.mp h
      have hshape := shape_keyword command
      rw [hname] at hshape
      refine ⟨⟨.word, _, hshape⟩, by simp, ?_, rfl⟩
      rw [tokenKind_word, String.ofList_toList, if_pos h]
    | identifier =>
      rw [hkind] at h
      refine ⟨⟨.word, _, h.1⟩, by simp, ?_, rfl⟩
      rw [tokenKind_word, String.ofList_toList, if_neg h.2]
    | number =>
      rw [hkind] at h
      exact ⟨⟨.numeral, _, h⟩, by simp, rfl, rfl⟩
    | string =>
      rw [hkind] at h
      exact ⟨⟨.quoted, _, h⟩, by simp, rfl, rfl⟩
    | blank => rw [hkind] at h; exact h.elim
    | stray => rw [hkind] at h; exact h.elim
  · rintro ⟨⟨kind, chars, shape⟩, hblanks, hkind, hchars⟩
    obtain rfl : chars = t.text.toList := hchars
    rw [← hkind]
    cases kind with
    | blanks => exact absurd rfl hblanks
    | quoted => exact shape
    | numeral => exact shape
    | word =>
      rw [tokenKind_word, String.ofList_toList]
      by_cases hname : t.text ∈ keywords
      · rw [if_pos hname]
        exact hname
      · rw [if_neg hname]
        exact ⟨shape, hname⟩

/-! ## The text without its comment -/

theorem head?_of_stripCommentList {cs : List Char} {c : Char}
    (h : (stripCommentList cs).head? = some c) : cs.head? = some c := by
  unfold stripCommentList at h
  split at h
  · cases h
  · split at h
    · cases h
    · exact h

theorem not_infix_stripCommentList (cs : List Char) : ¬ ['/', '/'] <:+: stripCommentList cs := by
  induction cs with
  | nil => simp [stripCommentList]
  | cons c rest ih =>
    by_cases h : c = '/' ∧ rest.head? = some '/'
    · obtain ⟨rfl, hrest⟩ := h
      obtain ⟨d, more, rfl⟩ : ∃ d more, rest = d :: more := by
        cases rest with
        | nil => cases hrest
        | cons d more => exact ⟨d, more, rfl⟩
      obtain rfl := Option.some.inj hrest
      rw [stripCommentList_marker]
      simp
    · rw [stripCommentList_cons c rest fun hc hrest => h ⟨hc, hrest⟩, List.infix_cons_iff]
      rintro (hfront | hinside)
      · obtain ⟨more, hmore⟩ := hfront
        obtain ⟨rfl, hstripped⟩ := List.cons.inj hmore
        have hhead : (stripCommentList rest).head? = some '/' := by
          rw [← hstripped]
          rfl
        exact h ⟨rfl, head?_of_stripCommentList hhead⟩
      · exact ih hinside

theorem Cuts.isInfix {segments : List Segment} {cs : List Char} (h : Cuts segments cs)
    {x : Segment} (hx : x ∈ segments) : x.chars <:+: cs := by
  induction h with
  | nil => cases hx
  | @cons y tail rest _ _ ih =>
    rcases List.mem_cons.mp hx with rfl | hx
    · exact (List.prefix_append _ _).isInfix
    · exact (ih hx).trans (List.suffix_append _ _).isInfix

/-- What is scanned is well formed. -/
theorem wellFormed_of_tokenize {line : String} {tokens : List Token}
    (h : tokenize line = .ok tokens) : ∀ t ∈ tokens, t.WellFormed := by
  obtain ⟨segments, hcuts, rfl⟩ := cuts_of_scan h
  intro t ht
  obtain ⟨x, hx, htoken⟩ := List.mem_filterMap.mp ht
  have hchars := ((x.token?_eq_some_iff t).mp htoken).2.2
  refine ⟨(hasForm_iff t).mpr ⟨x, htoken⟩, fun hcomment => ?_⟩
  rw [← hchars] at hcomment
  exact not_infix_stripCommentList _ (hcomment.trans (hcuts.isInfix hx))

/-! ## Tokens with blanks between them -/

/-- Spaces and tabs, or nothing. -/
def IsGap (gap : String) : Prop :=
  ∀ c ∈ gap.toList, isSeparator c = true

/-- Each token with the gap behind it.  Only behind the last one the gap may be empty. -/
structure WellSpaced (entries : List (Token × String)) : Prop where
  tokens : ∀ entry ∈ entries, entry.1.WellFormed
  gaps : ∀ entry ∈ entries, IsGap entry.2
  apart : ∀ entry ∈ entries.dropLast, entry.2 ≠ ""

structure SpacedLine where
  before : String
  entries : List (Token × String)
  before_isGap : IsGap before
  wellSpaced : WellSpaced entries

namespace SpacedLine

def tokens (line : SpacedLine) : List Token :=
  line.entries.map Prod.fst

def text (line : SpacedLine) : String :=
  line.before ++ String.join (line.entries.map fun entry => entry.1.text ++ entry.2)

end SpacedLine

/-- The characters of tokens and gaps. -/
def entryChars (entries : List (Token × String)) : List Char :=
  entries.flatMap fun entry => entry.1.text.toList ++ entry.2.toList

theorem entryChars_cons (t : Token) (gap : String) (entries : List (Token × String)) :
    entryChars ((t, gap) :: entries) =
      t.text.toList ++ (gap.toList ++ entryChars entries) := by
  rw [entryChars, List.flatMap_cons, List.append_assoc]
  rfl

theorem SpacedLine.toList_text (line : SpacedLine) :
    line.text.toList = line.before.toList ++ entryChars line.entries := by
  simp [SpacedLine.text, entryChars, String.toList_join, List.flatMap_map]

theorem Token.WellFormed.exists_segment {t : Token} (h : t.WellFormed) :
    ∃ x : Segment, x.token? = some t ∧ x.kind ≠ .blanks ∧ x.chars = t.text.toList := by
  obtain ⟨x, htoken⟩ := (hasForm_iff t).mp h.form
  obtain ⟨hblanks, -, hchars⟩ := (x.token?_eq_some_iff t).mp htoken
  exact ⟨x, htoken, hblanks, hchars⟩

/-- A token does not begin with a blank or a slash. -/
theorem Token.WellFormed.begins {t : Token} (h : t.WellFormed) :
    ∃ first more, t.text.toList = first :: more ∧ isSeparator first = false ∧ first ≠ '/' := by
  obtain ⟨x, -, hblanks, hchars⟩ := h.exists_segment
  obtain ⟨first, more, hfirst, hbegins⟩ := x.shape.begins
  refine ⟨first, more, hchars.symm.trans hfirst, ?_, ?_⟩
  · exact Bool.eq_false_iff.mpr fun hseparator => hblanks (hbegins.classes.1.mp hseparator)
  · rintro rfl
    revert hbegins
    cases x.kind with
    | _ => simp only [SegmentKind.Begins]; decide

namespace WellSpaced

variable {t : Token} {gap : String} {entries : List (Token × String)}

theorem tail (h : WellSpaced ((t, gap) :: entries)) : WellSpaced entries where
  tokens := fun entry hentry => h.tokens entry (List.mem_cons_of_mem _ hentry)
  gaps := fun entry hentry => h.gaps entry (List.mem_cons_of_mem _ hentry)
  apart := fun entry hentry => h.apart entry (by
    cases entries with
    | nil => cases hentry
    | cons next more => exact List.mem_cons_of_mem _ hentry)

/-- What follows a token begins with a blank, if anything follows. -/
theorem head?_gap (h : WellSpaced ((t, gap) :: entries)) {c : Char}
    (hc : (gap.toList ++ entryChars entries).head? = some c) : isSeparator c = true := by
  have hgap : IsGap gap := h.gaps (t, gap) List.mem_cons_self
  cases hchars : gap.toList with
  | cons first more =>
    rw [hchars] at hc
    obtain rfl := Option.some.inj hc
    exact hgap _ (by rw [hchars]; simp)
  | nil =>
    cases entries with
    | nil => rw [hchars] at hc; cases hc
    | cons next more =>
      have hne := h.apart (t, gap) List.mem_cons_self
      exact absurd (String.toList_eq_nil_iff.mp hchars) hne

/-- Behind a gap there is nothing or a token. -/
theorem head?_entryChars (h : WellSpaced entries) {c : Char}
    (hc : (entryChars entries).head? = some c) : isSeparator c = false ∧ c ≠ '/' := by
  cases entries with
  | nil => cases hc
  | cons entry more =>
    obtain ⟨first, rest, hfirst, hclass⟩ := (h.tokens entry List.mem_cons_self).begins
    rw [entryChars, List.flatMap_cons, hfirst] at hc
    obtain rfl := Option.some.inj hc
    exact hclass

end WellSpaced

/-! ## Cutting what was written -/

/-- Blanks in front of a text that is cut and does not begin with a blank. -/
theorem Cuts.exists_gap {segments : List Segment} {rest : List Char} (h : Cuts segments rest)
    (hrest : ∀ c, rest.head? = some c → isSeparator c = false) {gap : String} (hgap : IsGap gap) :
    ∃ segments', Cuts segments' (gap.toList ++ rest) ∧
      segments'.filterMap Segment.token? = segments.filterMap Segment.token? := by
  by_cases hne : gap.toList = []
  · rw [hne]
    exact ⟨segments, h, rfl⟩
  · let x : Segment := ⟨.blanks, gap.toList, .blanks hne hgap⟩
    have hstops : x.kind.Stops rest := fun c hc => Bool.eq_false_iff.mp (hrest c hc)
    exact ⟨x :: segments, .cons (mayPrecede hstops h) h, List.filterMap_cons_none rfl⟩

/-- A token in front of a text that is cut and begins with a blank. -/
theorem Cuts.cons_token {segments : List Segment} {rest : List Char} (h : Cuts segments rest)
    (hrest : ∀ c, rest.head? = some c → isSeparator c = true) {x : Segment}
    (hx : x.kind ≠ .blanks) : Cuts (x :: segments) (x.chars ++ rest) := by
  refine .cons (mayPrecede (fun c hc hcontinues => ?_) h) h
  have hword : isWordChar c = false := by
    rcases eq_of_isSeparator (hrest c hc) with rfl | rfl <;> decide
  cases hkind : x.kind with
  | blanks => exact hx hkind
  | quoted => rw [hkind] at hcontinues; exact hcontinues
  | word => rw [hkind] at hcontinues; exact Bool.eq_false_iff.mp hword hcontinues
  | numeral => rw [hkind] at hcontinues; exact Bool.eq_false_iff.mp hword hcontinues

theorem WellSpaced.exists_cuts {entries : List (Token × String)} (h : WellSpaced entries) :
    ∃ segments, Cuts segments (entryChars entries) ∧
      segments.filterMap Segment.token? = entries.map Prod.fst := by
  induction entries with
  | nil => exact ⟨[], .nil, rfl⟩
  | cons entry entries ih =>
    obtain ⟨t, gap⟩ := entry
    obtain ⟨segments, hcuts, htokens⟩ := ih h.tail
    obtain ⟨segments', hcuts', htokens'⟩ :=
      hcuts.exists_gap (fun c hc => (h.tail.head?_entryChars hc).1)
        (h.gaps (t, gap) List.mem_cons_self)
    obtain ⟨x, htoken, hblanks, hchars⟩ :=
      (h.tokens (t, gap) List.mem_cons_self).exists_segment
    have hline := hcuts'.cons_token (fun c hc => h.head?_gap hc) hblanks
    refine ⟨x :: segments', ?_, ?_⟩
    · rw [hchars] at hline
      rw [entryChars_cons]
      exact hline
    · rw [List.filterMap_cons_some htoken, htokens', htokens]
      rfl

/-- No comment begins in what was written. -/
theorem WellSpaced.stripCommentList_eq {entries : List (Token × String)} (h : WellSpaced entries)
    {gap : String} (hgap : IsGap gap) :
    stripCommentList (gap.toList ++ entryChars entries) = gap.toList ++ entryChars entries := by
  have hblank {c : Char} (hc : isSeparator c = true) : c ≠ '/' := by
    rintro rfl
    exact absurd hc (by decide)
  have hfront {gap : String} (hgap : IsGap gap) : ¬ ['/', '/'] <:+: gap.toList :=
    fun hcomment => hblank (hgap '/' (hcomment.subset List.mem_cons_self)) rfl
  induction entries generalizing gap with
  | nil => rw [stripCommentList_append _ _ (hfront hgap) (by simp [entryChars])]; rfl
  | cons entry entries ih =>
    obtain ⟨t, behind⟩ := entry
    have ht := h.tokens (t, behind) List.mem_cons_self
    have htext : (entryChars ((t, behind) :: entries)).head? ≠ some '/' :=
      fun hc => (h.head?_entryChars hc).2 rfl
    have hbehind : (behind.toList ++ entryChars entries).head? ≠ some '/' :=
      fun hc => hblank (h.head?_gap hc) rfl
    have hentries := ih h.tail (h.gaps (t, behind) List.mem_cons_self)
    rw [stripCommentList_append _ _ (hfront hgap) htext, entryChars_cons,
      stripCommentList_append _ _ ht.comment hbehind, hentries]

theorem SpacedLine.tokenize_text (line : SpacedLine) :
    tokenize line.text = .ok line.tokens := by
  obtain ⟨segments, hcuts, htokens⟩ := line.wellSpaced.exists_cuts
  obtain ⟨segments', hcuts', htokens'⟩ :=
    hcuts.exists_gap (fun c hc => (line.wellSpaced.head?_entryChars hc).1) line.before_isGap
  rw [tokenize, line.toList_text, line.wellSpaced.stripCommentList_eq line.before_isGap,
    scan_of_cuts hcuts', htokens', htokens]
  rfl

/-! ## Single spaces -/

/-- The texts of the tokens, with a space between each two. -/
def joinTokens (tokens : List Token) : String :=
  " ".intercalate (tokens.map (·.text))

/-- The tokens with a space behind each but the last. -/
def singleSpaced : List Token → List (Token × String)
  | [] => []
  | t :: rest => (t, if rest.isEmpty then "" else " ") :: singleSpaced rest

theorem map_fst_singleSpaced (tokens : List Token) :
    (singleSpaced tokens).map Prod.fst = tokens := by
  induction tokens with
  | nil => rfl
  | cons t rest ih => rw [singleSpaced, List.map_cons, ih]

theorem WellSpaced.cons {t : Token} {gap : String} {entries : List (Token × String)}
    (ht : t.WellFormed) (hgap : IsGap gap) (hne : entries ≠ [] → gap ≠ "")
    (h : WellSpaced entries) : WellSpaced ((t, gap) :: entries) where
  tokens := List.forall_mem_cons.mpr ⟨ht, h.tokens⟩
  gaps := List.forall_mem_cons.mpr ⟨hgap, h.gaps⟩
  apart := by
    cases entries with
    | nil => simp
    | cons next more => exact List.forall_mem_cons.mpr ⟨hne (by simp), h.apart⟩

theorem wellSpaced_singleSpaced {tokens : List Token} (h : ∀ t ∈ tokens, t.WellFormed) :
    WellSpaced (singleSpaced tokens) := by
  induction tokens with
  | nil => exact ⟨by simp [singleSpaced], by simp [singleSpaced], by simp [singleSpaced]⟩
  | cons t rest ih =>
    obtain ⟨ht, hrest⟩ := List.forall_mem_cons.mp h
    refine .cons ht ?_ ?_ (ih hrest)
    · cases rest with
      | nil => simp [IsGap]
      | cons _ _ => simp [IsGap, isSeparator]
    · cases rest with
      | nil => exact fun hne => absurd rfl hne
      | cons _ _ => simp

theorem entryChars_singleSpaced (tokens : List Token) :
    entryChars (singleSpaced tokens) = (joinTokens tokens).toList := by
  induction tokens with
  | nil => rfl
  | cons t rest ih =>
    rw [singleSpaced, entryChars_cons, ih]
    cases rest with
    | nil => simp [joinTokens]
    | cons _ _ => simp [joinTokens, String.intercalate_cons_cons]

theorem tokenize_joinTokens {tokens : List Token} (h : ∀ t ∈ tokens, t.WellFormed) :
    tokenize (joinTokens tokens) = .ok tokens := by
  let line : SpacedLine := ⟨"", singleSpaced tokens, by simp [IsGap], wellSpaced_singleSpaced h⟩
  have htext : line.text = joinTokens tokens := by
    rw [← String.toList_inj, line.toList_text, ← entryChars_singleSpaced]
    rfl
  have htokens : line.tokens = tokens := map_fst_singleSpaced tokens
  rw [← htext, line.tokenize_text, htokens]

/-! ## A command with a quoted operand -/

/-- In quotes there is no comment that was not there without them. -/
theorem not_infix_quoted {operand : String} (hcomment : ¬ ['/', '/'] <:+: operand.toList) :
    ¬ ['/', '/'] <:+: ("\"" ++ operand ++ "\"").toList := by
  have hquoted : ("\"" ++ operand ++ "\"").toList = '"' :: (operand.toList ++ ['"']) := by simp
  have hstripped : stripCommentList ('"' :: (operand.toList ++ ['"'])) =
      '"' :: (operand.toList ++ ['"']) := by
    rw [stripCommentList_cons '"' _ (by simp), stripCommentList_append _ _ hcomment (by simp)]
    rfl
  rw [hquoted, ← hstripped]
  exact not_infix_stripCommentList _

theorem Keyword.not_infix_name (command : Keyword) : ¬ ['/', '/'] <:+: command.name.toList := by
  intro hpart
  obtain ⟨first, word, hletters, hupper⟩ := command.name_letters
  rw [hletters] at hpart
  exact ne_of_isUpper (hupper '/' (hpart.subset (by simp))) (by decide) rfl

theorem wellFormed_keyword (command : Keyword) :
    (⟨.keyword, command.name⟩ : Token).WellFormed :=
  ⟨command.name_mem_keywords, command.not_infix_name⟩

theorem wellFormed_quotedTokens (command : Keyword) (operand : String)
    (hquote : '"' ∉ operand.toList) (hcomment : ¬ ['/', '/'] <:+: operand.toList) :
    ∀ t ∈ command.quotedTokens operand, t.WellFormed := by
  have hoperand : (⟨.string, "\"" ++ operand ++ "\""⟩ : Token).WellFormed := by
    refine ⟨?_, not_infix_quoted hcomment⟩
    show Shape .quoted ("\"" ++ operand ++ "\"").toList
    simpa using Shape.quoted hquote
  refine List.forall_mem_cons.mpr ⟨wellFormed_keyword command, ?_⟩
  exact List.forall_mem_cons.mpr ⟨hoperand, by simp⟩

theorem tokenize_quotedLine (command : Keyword) (operand : String)
    (hquote : '"' ∉ operand.toList) (hcomment : ¬ ['/', '/'] <:+: operand.toList) :
    tokenize (command.quotedLine operand) = .ok (command.quotedTokens operand) := by
  have hline : command.quotedLine operand = joinTokens (command.quotedTokens operand) := by
    rw [← String.toList_inj]
    simp [Keyword.quotedLine, Keyword.quotedTokens, joinTokens, String.intercalate_cons_cons]
  rw [hline]
  exact tokenize_joinTokens (wellFormed_quotedTokens command operand hquote hcomment)

/-! ## There and back -/

open Session in
/-- **Writing tokens and scanning are inverse.**  Well-formed tokens, written with blanks around
them in any way that keeps them apart, are scanned as these tokens, and all tokens that are scanned
are well formed.  So the tokens of a line, joined by single spaces, are its tokens again, and the
line written so does what the line did. -/
theorem tokens_round_trip :
    (∀ line : SpacedLine, tokenize line.text = .ok line.tokens) ∧
    ∀ line tokens, tokenize line = .ok tokens →
      (∀ t ∈ tokens, t.WellFormed) ∧ tokenize (joinTokens tokens) = .ok tokens ∧
        ∀ {ω : Type} (s : Session ω), s.runLine (joinTokens tokens) = s.runLine line := by
  refine ⟨SpacedLine.tokenize_text, fun line tokens htokens => ?_⟩
  have hformed := wellFormed_of_tokenize htokens
  have hjoined := tokenize_joinTokens hformed
  refine ⟨hformed, hjoined, fun s => ?_⟩
  unfold runLine runLineWith
  rw [htokens, hjoined]

/-- The tokens of `JOIN 1 "a/b"x // end`, two of which touch. -/
def crowdedTokens : List Token :=
  [⟨.keyword, "JOIN"⟩, ⟨.number, "1"⟩, ⟨.string, "\"a/b\""⟩, ⟨.identifier, "x"⟩]

set_option maxRecDepth 20000 in
theorem crowdedTokens_round_trip :
    let line := "JOIN 1 \"a/b\"x // end"
    tokenize line = .ok crowdedTokens ∧
    (∀ t ∈ crowdedTokens, t.WellFormed) ∧
    tokenize (joinTokens crowdedTokens) = .ok crowdedTokens ∧
    ∀ {ω : Type} (s : Session ω), s.runLine (joinTokens crowdedTokens) = s.runLine line := by
  intro line
  have htokens : tokenize line = .ok crowdedTokens := by cbv
  exact ⟨htokens, tokens_round_trip.2 line crowdedTokens htokens⟩

end LineScript
