import LineScript.Proofs.Nearest
import LineScript.Proofs.ReadBack

/-!
What the number tokens of a line stand for.

The scanner takes the decimal digits of all alphabets for digits, while a number that is read has
ASCII digits only.  A numeral in ASCII digits is read as the float nearest to it
(`Decimal.readNumber?_of_isNumeral`).  One with any other digit is not read as a number at all
(`Decimal.readNumber?_of_foreign`), and is looked up like a variable.

Main statement: number tokens in ASCII digits stand for their numbers in every memory, and the
others for what their variable is bound to (`number_tokens_denote_numbers`,
`Session.number_token_is_redefined`).
-/

namespace LineScript

open Text

namespace Decimal

/-! ## Numerals in ASCII digits -/

/-- The characters are a numeral of the decimal system, and this is the number that it writes. -/
inductive IsNumeral : List Char → ℚ → Prop
  | whole {whole : List Char} (hne : whole ≠ []) (hwhole : ∀ c ∈ whole, c.isDigit = true) :
      IsNumeral whole (ofDigits whole)
  | fraction {whole behind : List Char} (hne : whole ≠ [])
      (hwhole : ∀ c ∈ whole, c.isDigit = true) (hne' : behind ≠ [])
      (hbehind : ∀ c ∈ behind, c.isDigit = true) :
      IsNumeral (whole ++ '.' :: behind) (ofDigits whole + ofDigits behind / 10 ^ behind.length)

/-- All digits of the numeral are ASCII digits. -/
def hasAsciiDigits (text : String) : Bool :=
  text.toList.all fun c => c.isDigit || c == '.'

theorem ofDigits_append (whole behind : List Char) :
    ofDigits (whole ++ behind) = ofDigits whole * 10 ^ behind.length + ofDigits behind := by
  unfold ofDigits
  rw [Nat.ofDigitChars_append, Nat.ofDigitChars_eq_ofDigitChars_zero, Nat.mul_comm]

theorem IsNumeral.exists_scientific {cs : List Char} {number : ℚ} (h : IsNumeral cs number) :
    ∃ x : Scientific, scientific? cs = some x ∧ x.value = number := by
  cases h with
  | @whole digits hne hwhole =>
    have hread := scientific?_of_whole hne hwhole (show ∀ c, [].head? = some c → _ by simp)
    rw [List.append_nil, exponent?, Option.map_some] at hread
    exact ⟨_, hread, by simp [Scientific.value]⟩
  | @fraction digits behind hne hwhole hne' hbehind =>
    refine ⟨_, scientific?_of_fraction hne hwhole hbehind, ?_⟩
    have hpower : (10 : ℚ) ^ behind.length ≠ 0 := by positivity
    rw [Scientific.value, ofDigits_append, zpow_neg, zpow_natCast]
    push_cast
    field_simp

/-- A numeral writes one number. -/
theorem IsNumeral.unique {cs : List Char} {number other : ℚ} (h : IsNumeral cs number)
    (h' : IsNumeral cs other) : number = other := by
  obtain ⟨x, hread, rfl⟩ := h.exists_scientific
  obtain ⟨y, hread', rfl⟩ := h'.exists_scientific
  rw [Option.some.inj (hread.symm.trans hread')]

/-- A numeral is read as the float nearest to it. -/
theorem readNumber?_of_isNumeral {text : String} {number : ℚ} (h : IsNumeral text.toList number) :
    ∃ x, readNumber? text = some x ∧ IsNearestFloat number x ∧ isNegative x = false := by
  obtain ⟨decimal, hscientific, rfl⟩ := h.exists_scientific
  have hread := readNumber?_of_numeral false (show (scientific? text.toList).map _ = some _ by
    rw [hscientific, Option.map_some])
  rw [if_neg (by simp), String.empty_append, String.ofList_toList] at hread
  exact ⟨_, hread, decimal.isNearestFloat,
    (magnitudeBits_floatOf decimal.isNearestPattern_nearestBits.le_infinity).2⟩

theorem isNumeral_of_shape {cs : List Char} (h : Shape .numeral cs)
    (hascii : ∀ c ∈ cs, c.isDigit = true ∨ c = '.') : ∃ number, IsNumeral cs number := by
  have hpoint : isDecimalDigit '.' = false := isDecimalDigit_of_not_isWordChar (by decide)
  have hdigits {digits : List Char} (hd : IsDigits digits) (hmem : ∀ c ∈ digits, c ∈ cs) :
      ∀ c ∈ digits, c.isDigit = true := by
    intro c hc
    refine (hascii c (hmem c hc)).resolve_right ?_
    rintro rfl
    exact Bool.eq_false_iff.mp hpoint (hd.2 _ hc)
  cases h with
  | whole hwhole => exact ⟨_, .whole hwhole.1 (hdigits hwhole fun _ hc => hc)⟩
  | fraction hwhole hbehind =>
    exact ⟨_, .fraction hwhole.1 (hdigits hwhole fun _ hc => by simp [hc]) hbehind.1
      (hdigits hbehind fun _ hc => by simp [hc])⟩

/-! ## Numerals in other digits -/

theorem ne_of_isDecimalDigit {c d : Char} (hc : isDecimalDigit c = true)
    (hd : isDecimalDigit d = false) : c ≠ d := by
  rintro rfl
  rw [hc] at hd
  cases hd

theorem ne_point_of_isDecimalDigit {c : Char} (hc : isDecimalDigit c = true) : c ≠ '.' :=
  ne_of_isDecimalDigit hc (isDecimalDigit_of_not_isWordChar (by decide))

/-- A decimal digit does not begin an exponent. -/
theorem exponent?_of_isDecimalDigit {c : Char} (hc : isDecimalDigit c = true) (rest : List Char) :
    exponent? (c :: rest) = none := by
  have hlower : c ≠ 'e' :=
    ne_of_isDecimalDigit hc (isDecimalDigit_of_between (by decide) (by decide))
  have hupper : c ≠ 'E' :=
    ne_of_isDecimalDigit hc (isDecimalDigit_of_between (by decide) (by decide))
  simp [exponent?, hlower, hupper]

/-- A digit for the scanner and not for the reader. -/
structure IsForeignDigit (c : Char) : Prop where
  isDecimalDigit : isDecimalDigit c = true
  not_isDigit : c.isDigit = false

/-- Digits are ASCII digits up to the first one that is none. -/
theorem ascii_or_foreign {digits : List Char} (h : ∀ c ∈ digits, isDecimalDigit c = true) :
    (∀ c ∈ digits, c.isDigit = true) ∨
      ∃ front c rest, digits = front ++ c :: rest ∧ (∀ d ∈ front, d.isDigit = true) ∧
        IsForeignDigit c := by
  induction digits with
  | nil => exact .inl (by simp)
  | cons first more ih =>
    obtain ⟨hfirst, hmore⟩ := List.forall_mem_cons.mp h
    cases hdigit : first.isDigit with
    | false => exact .inr ⟨[], first, more, rfl, by simp, hfirst, hdigit⟩
    | true =>
      rcases ih hmore with hall | ⟨front, c, rest, rfl, hfront, hc⟩
      · exact .inl (List.forall_mem_cons.mpr ⟨hdigit, hall⟩)
      · exact .inr ⟨first :: front, c, rest, rfl, List.forall_mem_cons.mpr ⟨hdigit, hfront⟩, hc⟩

/-- The reader stops at a foreign digit, where no exponent begins. -/
theorem scientific?_of_foreign {front : List Char} (hfront : ∀ d ∈ front, d.isDigit = true)
    {c : Char} (hc : IsForeignDigit c) (rest : List Char) :
    scientific? (front ++ c :: rest) = none := by
  have hpoint := ne_point_of_isDecimalDigit hc.isDecimalDigit
  by_cases hne : front = []
  · subst hne
    exact scientific?_of_head hc.not_isDigit hpoint rest
  · rw [scientific?_of_whole hne hfront (by rintro d hd; cases hd; exact ⟨hc.not_isDigit, hpoint⟩),
      exponent?_of_isDecimalDigit hc.isDecimalDigit, Option.map_none]

theorem scientific?_of_foreign_behind {whole front : List Char} (hne : whole ≠ [])
    (hwhole : ∀ d ∈ whole, d.isDigit = true) (hfront : ∀ d ∈ front, d.isDigit = true) {c : Char}
    (hc : IsForeignDigit c) (rest : List Char) :
    scientific? (whole ++ '.' :: (front ++ c :: rest)) = none := by
  rw [scientific?_of_point hne hwhole hfront (by rintro d hd; cases hd; exact hc.not_isDigit),
    exponent?_of_isDecimalDigit hc.isDecimalDigit, Option.map_none]

theorem scientific?_of_shape {cs : List Char} (h : Shape .numeral cs)
    (hforeign : ∃ c ∈ cs, c.isDigit = false ∧ c ≠ '.') : scientific? cs = none := by
  obtain ⟨stray, hstray, hdigit, hpoint⟩ := hforeign
  cases h with
  | whole hwhole =>
    rcases ascii_or_foreign hwhole.2 with hall | ⟨front, c, rest, rfl, hfront, hc⟩
    · rw [hall stray hstray] at hdigit
      cases hdigit
    · exact scientific?_of_foreign hfront hc rest
  | @fraction whole behind hwhole hbehind =>
    rcases ascii_or_foreign hwhole.2 with hall | ⟨front, c, rest, rfl, hfront, hc⟩
    · rcases ascii_or_foreign hbehind.2 with hall' | ⟨front, c, rest, rfl, hfront, hc⟩
      · rcases List.mem_append.mp hstray with hmem | hmem
        · rw [hall stray hmem] at hdigit
          cases hdigit
        · rw [hall' stray ((List.mem_cons.mp hmem).resolve_left hpoint)] at hdigit
          cases hdigit
      · exact scientific?_of_foreign_behind hwhole.1 hall hfront hc rest
    · rw [List.append_assoc, List.cons_append]
      exact scientific?_of_foreign hfront hc _

/-- A numeral with a foreign digit is not read as a number. -/
theorem readNumber?_of_foreign {text : String} (h : Shape .numeral text.toList)
    (hforeign : ∃ c ∈ text.toList, c.isDigit = false ∧ c ≠ '.') : readNumber? text = none := by
  have hscientific := scientific?_of_shape h hforeign
  obtain ⟨first, more, htext, hfirst⟩ := h.begins
  have hsign {d : Char} (hd : isWordChar d = false) : first ≠ d :=
    ne_of_isDecimalDigit hfirst (isDecimalDigit_of_not_isWordChar hd)
  have hletter {d : Char} (hlow : 0x39 < d.toNat) (hhigh : d.toNat < 0x660) : first ≠ d :=
    ne_of_isDecimalDigit hfirst (isDecimalDigit_of_between hlow hhigh)
  have hupper : first.isUpper = false := by
    rw [Bool.eq_false_iff]
    intro hupper
    obtain ⟨hlow, hhigh⟩ := toNat_of_isUpper hupper
    exact hletter (by omega) (by omega) rfl
  unfold readNumber?
  rw [htext] at hscientific ⊢
  rw [takeSign_of_head (hsign (by decide)) (hsign (by decide))]
  dsimp only
  rw [specialBits?_of_head hupper (hletter (by decide) (by decide))
    (hletter (by decide) (by decide)), hscientific]
  rfl

end Decimal

/-! ## What a number token stands for -/

/-- A number token of a line is a numeral. -/
theorem shape_of_number {line : String} {tokens : List Token} (h : tokenize line = .ok tokens)
    {token : Token} (htoken : token ∈ tokens) (hkind : token.kind = .number) :
    Shape .numeral token.text.toList := by
  have hform := (wellFormed_of_tokenize h token htoken).form
  unfold Token.HasForm at hform
  rwa [hkind] at hform

/-- A numeral with a foreign digit is looked up. -/
theorem resolve_of_foreign {text : String} (h : Shape .numeral text.toList)
    (hdigits : Decimal.hasAsciiDigits text = false) (heap : Heap) (store : StoreId) :
    heap.resolve store text = heap.lookup store text := by
  have hforeign : ∃ c ∈ text.toList, c.isDigit = false ∧ c ≠ '.' := by
    simpa [Decimal.hasAsciiDigits] using hdigits
  unfold Heap.resolve
  rw [unquoted?_of_shape h (.inr rfl), Decimal.readNumber?_of_foreign h hforeign]

/-- **Number tokens.**  A number token in ASCII digits is a decimal numeral and stands for the float
nearest to its number, whatever the variables are.  A number token with any other digit stands for
what the variable of its name is bound to, or for zero. -/
theorem number_tokens_denote_numbers {line : String} {tokens : List Token}
    (htokens : tokenize line = .ok tokens) {token : Token} (htoken : token ∈ tokens)
    (hkind : token.kind = .number) :
    (Decimal.hasAsciiDigits token.text = true →
      ∃ number x, Decimal.IsNumeral token.text.toList number ∧ Decimal.IsNearestFloat number x ∧
        Decimal.isNegative x = false ∧
        ∀ (heap : Heap) (store : StoreId), heap.resolve store token.text = .number x) ∧
    (Decimal.hasAsciiDigits token.text = false →
      ∀ (heap : Heap) (store : StoreId),
        heap.resolve store token.text = heap.lookup store token.text) := by
  have hshape := shape_of_number htokens htoken hkind
  refine ⟨fun hdigits => ?_, resolve_of_foreign hshape⟩
  have hascii : ∀ c ∈ token.text.toList, c.isDigit = true ∨ c = '.' := by
    simpa [Decimal.hasAsciiDigits] using hdigits
  obtain ⟨number, hnumeral⟩ := Decimal.isNumeral_of_shape hshape hascii
  obtain ⟨x, hread, hnearest, hsign⟩ := Decimal.readNumber?_of_isNumeral hnumeral
  refine ⟨number, x, hnumeral, hnearest, hsign, fun heap store => ?_⟩
  unfold Heap.resolve
  rw [unquoted?_of_shape hshape (.inr rfl), hread]

set_option maxRecDepth 20000 in
/-- A decimal fraction, and an Arabic digit three. -/
theorem number_tokens_denote_numbers_of_tenth :
    let tokens : List Token :=
      [⟨.keyword, "JOIN"⟩, ⟨.number, "0.1"⟩, ⟨.number, "٣"⟩, ⟨.identifier, "x"⟩]
    tokenize "JOIN 0.1 ٣ x" = .ok tokens ∧
    (∃ x, Decimal.IsNearestFloat (1 / 10) x ∧
      ∀ (heap : Heap) (store : StoreId), heap.resolve store "0.1" = .number x) ∧
    ∀ (heap : Heap) (store : StoreId), heap.resolve store "٣" = heap.lookup store "٣" := by
  intro tokens
  have htokens : tokenize "JOIN 0.1 ٣ x" = .ok tokens := by cbv
  have htenth : (⟨.number, "0.1"⟩ : Token) ∈ tokens := .tail _ (.head _)
  have hthree : (⟨.number, "٣"⟩ : Token) ∈ tokens := .tail _ (.tail _ (.head _))
  obtain ⟨number, x, hnumeral, hnearest, -, hresolve⟩ :=
    (number_tokens_denote_numbers htokens htenth rfl).1 (by decide)
  have hwritten : Decimal.IsNumeral (['0'] ++ '.' :: ['1']) _ :=
    .fraction (by simp) (by simp) (by simp) (by simp)
  obtain rfl := hnumeral.unique hwritten
  have hvalue : (Decimal.ofDigits ['0'] + Decimal.ofDigits ['1'] / 10 ^ ['1'].length : ℚ) =
      1 / 10 := by
    have hzero : Decimal.ofDigits ['0'] = 0 := by decide
    have hone : Decimal.ofDigits ['1'] = 1 := by decide
    simp [hzero, hone]
  rw [hvalue] at hnearest
  exact ⟨htokens, ⟨x, hnearest, hresolve⟩,
    (number_tokens_denote_numbers htokens hthree rfl).2 (by decide)⟩

namespace Session

set_option maxRecDepth 20000 in
/-- A number token that is redefined: the Arabic digit three, which stood for zero, is given a text
and printed. -/
theorem number_token_is_redefined :
    let s := start Host.ofTable ⟨[], []⟩
    let t := (s.runLine "LOAD \"a\" ٣").2
    tokenize "PRINT ٣" = .ok [⟨.keyword, "PRINT"⟩, ⟨.number, "٣"⟩] ∧
      s.resolve "٣" = .zero ∧ t.resolve "٣" = .text "a" ∧
      (t.runLine "PRINT ٣").2.console.output.written = "a\n".toUTF8 := by
  intro s t
  let tokens : List Token := [⟨.keyword, "LOAD"⟩, ⟨.string, "\"a\""⟩, ⟨.number, "٣"⟩]
  have htokens : tokenize "LOAD \"a\" ٣" = .ok tokens := by cbv
  have hprint : tokenize "PRINT ٣" = .ok [⟨.keyword, "PRINT"⟩, ⟨.number, "٣"⟩] := by cbv
  have hthree : (⟨.number, "٣"⟩ : Token) ∈ tokens := .tail _ (.tail _ (.head _))
  have hlookup (u : Session HostTable) : u.resolve "٣" = u.heap.lookup u.own "٣" :=
    resolve_of_foreign (shape_of_number htokens hthree rfl) (by decide) u.heap u.own
  have hline : t = ((s.note (.scanned tokens)).execute tokens).2 :=
    congrArg Prod.snd (runLineWith_of_tokens _ _ _ s htokens)
  have hbound : t.resolve "٣" = .text "a" := by
    rw [hlookup, hline]
    rfl
  refine ⟨hprint, hlookup s, hbound, ?_⟩
  have hplace : (t.note (.scanned [⟨.keyword, "PRINT"⟩, ⟨.number, "٣"⟩])).destination
      [⟨.keyword, "PRINT"⟩, ⟨.number, "٣"⟩] = .builtIn .print := by
    rw [hline]
    rfl
  have hrun := runLineWith_of_tokens (nestedRun t.room) _ _ t hprint
  obtain ⟨journal, hexecute⟩ := executeWith_of_builtIn (nestedRun t.room) hplace rfl
  rw [hexecute] at hrun
  have hwrite : t.runLine "PRINT ٣" = (({ t with journal := journal } : Session HostTable).write
      (t.heap.display (t.resolve "٣") ++ "\n")).andThen executed := hrun
  rw [hwrite, hbound, hline]
  rfl

end Session

end LineScript
