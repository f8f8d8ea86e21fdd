import Mathlib
import LineScript.Proofs.Effects
import LineScript.Proofs.NumberText
import LineScript.Proofs.Numerals

/-!
Numbers that are read back.

Every float is read back from its text (`Decimal.readNumber?_write`).  The fields of its bit pattern
say whether it is infinite, NaN or finite (`Decimal.isInf_iff`, `Decimal.isNaN_iff`), and a finite
one is written as a decimal of its rounding interval.  So TOSTRING and TONUMBER lead back to the
number (`Session.number_text_round_trips`).
-/

namespace LineScript

namespace Decimal

/-! ## Bit patterns -/

section

open Float.Model UnpackedFloat

variable (word : BitVec 64)

theorem toNat_unpackExponent :
    (@unpackExponent Format.binary64 word).toNat = word.toNat / fractionSize % 2048 := by
  rw [unpackExponent_def]
  simp [Nat.shiftRight_eq_div_pow, fractionSize, Format.binary64]

theorem unpackExponent_eq_iff :
    @unpackExponent Format.binary64 word = -1 ↔ word.toNat / fractionSize % 2048 = 2047 := by
  rw [← BitVec.toNat_inj, toNat_unpackExponent]
  rfl

theorem toNat_unpackMantissa :
    (@unpackMantissa Format.binary64 word).toNat = word.toNat % fractionSize := by
  rw [unpackMantissa_def]
  simp [fractionSize, Format.binary64]

theorem unpackMantissa_eq_iff :
    @unpackMantissa Format.binary64 word = 0 ↔ word.toNat % fractionSize = 0 := by
  rw [← BitVec.toNat_inj, toNat_unpackMantissa]
  rfl

/-- Infinity and NaN have all bits of the exponent; infinity has none of the fraction. -/
theorem unpack_special :
    ((UnpackedFloat.unpack Format.binary64 word).isNaN = true ↔
      @unpackExponent Format.binary64 word = -1 ∧ @unpackMantissa Format.binary64 word ≠ 0) ∧
    ((UnpackedFloat.unpack Format.binary64 word).isInf = true ↔
      @unpackExponent Format.binary64 word = -1 ∧ @unpackMantissa Format.binary64 word = 0) := by
  unfold UnpackedFloat.unpack
  dsimp only
  split
  · next hfull =>
    split
    · next hzero => simp [UnpackedFloat.isNaN, UnpackedFloat.isInf, hfull, hzero]
    · next hzero => simp [UnpackedFloat.isNaN, UnpackedFloat.isInf, hfull, hzero]
  · next hfull =>
    have hfull' : ¬ @unpackExponent Format.binary64 word = -1 := hfull
    simp only [hfull', false_and, iff_false]
    split
    · split <;> simp [UnpackedFloat.isNaN, UnpackedFloat.isInf]
    · simp [UnpackedFloat.isNaN, UnpackedFloat.isInf]

end

theorem isNaN_iff (x : Float) : x.isNaN = true ↔ infinityBits < magnitudeBits x := by
  have h := (unpack_special x.toBits.toBitVec).1
  rw [Ne, unpackExponent_eq_iff, unpackMantissa_eq_iff] at h
  refine h.trans ?_
  show _ ↔ infinityBits < x.toBits.toBitVec.toNat % signBit
  generalize x.toBits.toBitVec.toNat = word
  simp only [infinityBits, signBit, fractionSize]
  omega

theorem isInf_iff (x : Float) : x.isInf = true ↔ magnitudeBits x = infinityBits := by
  have h := (unpack_special x.toBits.toBitVec).2
  rw [unpackExponent_eq_iff, unpackMantissa_eq_iff] at h
  refine h.trans ?_
  show _ ↔ x.toBits.toBitVec.toNat % signBit = infinityBits
  generalize x.toBits.toBitVec.toNat = word
  simp only [infinityBits, signBit, fractionSize]
  omega

/-- A float is its sign and the bits of its magnitude. -/
theorem floatOf_magnitudeBits (x : Float) : floatOf (isNegative x) (magnitudeBits x) = x := by
  have hlt : x.toBits.toNat < 2 ^ 64 := x.toBits.toNat_lt
  have hbits : magnitudeBits x + (if isNegative x then signBit else 0) = x.toBits.toNat := by
    simp only [magnitudeBits, isNegative, decide_eq_true_eq]
    by_cases hsign : signBit ≤ x.toBits.toNat
    · rw [if_pos hsign]
      simp only [signBit] at hsign ⊢
      omega
    · rw [if_neg hsign]
      simp only [signBit] at hsign ⊢
      omega
  rw [floatOf, hbits, UInt64.ofNat_toNat, Float.ofBits_toBits]

/-- There is one NaN. -/
theorem floatOf_notANumberBits {x : Float} (h : x.isNaN = true) :
    floatOf false notANumberBits = x := by
  have hword : (floatOf false notANumberBits).isNaN = true := by decide +kernel
  rw [Float.isNaN_eq_decide_eq_nan, decide_eq_true_eq] at h hword
  rw [h, hword]

/-! ## Reading what was written -/

/-- The sign in front of a written number is read as the sign. -/
theorem takeSign_sign {first : Char} (hminus : first ≠ '-') (hplus : first ≠ '+')
    (rest : List Char) (negative : Bool) :
    takeSign ((if negative then "-" else "").toList ++ first :: rest) =
      (negative, first :: rest) := by
  cases negative
  · exact takeSign_of_head hminus hplus rest
  · rfl

/-- The words for numbers begin with the letters I and N. -/
theorem specialBits?_of_head {first : Char} (hupper : first.isUpper = false) (hi : first ≠ 'i')
    (hn : first ≠ 'n') (rest : List Char) : specialBits? (first :: rest) = none := by
  have hlower : first.toLower = first := Char.toLower_eq_of_not_isUpper (by simp [hupper])
  simp [specialBits?, hlower, hi, hn]

/-- A numeral is no word. -/
theorem specialBits?_of_numeral {first : Char} (h : first.isDigit = true ∨ first = '.')
    (rest : List Char) : specialBits? (first :: rest) = none := by
  refine specialBits?_of_head (Bool.eq_false_iff.mpr fun hupper => ?_) ?_ ?_ rest
  · have hlow := (toNat_of_isUpper hupper).1
    rcases h with h | rfl
    · exact absurd (hlow.trans (Char.isDigit_iff_toNat.mp h).2) (by decide)
    · exact absurd hlow (by decide)
  · rintro rfl
    simp at h
  · rintro rfl
    simp at h

/-- A sign, and a numeral behind it. -/
theorem readNumber?_of_numeral (negative : Bool) {cs : List Char} {bits : Nat}
    (h : (scientific? cs).map Scientific.nearestBits = some bits) :
    readNumber? ((if negative then "-" else "") ++ String.ofList cs) =
      some (floatOf negative bits) := by
  have hsome : scientific? cs ≠ none := by
    intro hnone
    simp [hnone] at h
  obtain ⟨first, rest, rfl, hfirst⟩ := head_of_scientific? hsome
  have hsign : first ≠ '-' ∧ first ≠ '+' := by
    constructor <;> rintro rfl <;> simp at hfirst
  unfold readNumber?
  rw [String.toList_append, String.toList_ofList, takeSign_sign hsign.1 hsign.2]
  dsimp only
  rw [specialBits?_of_numeral hfirst, h]
  rfl

/-- **Round trip.**  Every number is read back from its text. -/
theorem readNumber?_write (x : Float) : readNumber? (Layout.value.write x) = some x := by
  have hbits := floatOf_magnitudeBits x
  unfold Layout.write
  dsimp only
  split
  · next hnan => exact congrArg some (floatOf_notANumberBits hnan)
  · next hnan =>
    split
    · next hinf =>
      rw [(isInf_iff x).mp hinf] at hbits
      generalize isNegative x = negative at hbits ⊢
      cases negative
      · exact congrArg some hbits
      · exact congrArg some hbits
    · next hinf =>
      have hfinite : magnitudeBits x < infinityBits := by
        rw [isNaN_iff] at hnan
        rw [isInf_iff] at hinf
        omega
      have hread := nearestBits_scientific?_magnitude hfinite
        (Magnitude.holds_shortest (Magnitude.ofBits (magnitudeBits x)))
      rw [shortest, readNumber?_of_numeral _ hread, hbits]

end Decimal

/-! ## Values -/

theorem isWhite_of_isDigit {c : Char} (h : c.isDigit = true) : Text.isWhite c = false := by
  obtain ⟨hlow, hhigh⟩ : 48 ≤ c.toNat ∧ c.toNat ≤ 57 := Char.isDigit_iff_toNat.mp h
  simp only [Text.isWhite, Bool.or_eq_false_iff, Bool.and_eq_false_iff, decide_eq_false_iff_not,
    beq_eq_false_iff_ne]
  omega

theorem trim_of_not_isWhite {text : String} (h : ∀ c ∈ text.toList, Text.isWhite c = false) :
    Text.trim text = text := by
  have hall (cs : List Char) (hcs : ∀ c ∈ cs, Text.isWhite c = false) :
      cs.dropWhile Text.isWhite = cs := by
    cases cs with
    | nil => rfl
    | cons first rest => simp [hcs first]
  unfold Text.trim Text.trimList
  rw [hall _ h, hall, List.reverse_reverse, String.ofList_toList]
  simpa using h

/-- The text of a number has no white space. -/
theorem trim_formatNumber (x : Float) : Text.trim (formatNumber x) = formatNumber x := by
  refine trim_of_not_isWhite (Decimal.Layout.value.chars_write (fun c => isWhite_of_isDigit)
    ?_ ?_ ?_ ?_ x)
  all_goals simp [Decimal.Layout.value, Text.isWhite]

/-- The text of a number is read as the number. -/
theorem numberOf_formatNumber (x : Float) : numberOf (.text (formatNumber x)) = .ok x := by
  have hread : Decimal.readNumber? (formatNumber x) = some x := Decimal.readNumber?_write x
  simp only [numberOf, trim_formatNumber, hread]

/-! ## Statements -/

theorem Heap.lt_length_of_get? {heap : Heap} {store : StoreId} {name : String} {value : Value}
    (h : heap.get? store name = some value) : store < heap.stores.length := by
  by_contra hplace
  simp [get?, bindings, hplace] at h

namespace Session

variable {ω : Type} {s : Session ω} {tokens : List Token}

/-- A command that computes a value binds it. -/
theorem executeWith_of_assign (nested : String → Session ω → Ending ω Unit) {command : Keyword}
    {target : String} {expression : Expression} {value : Value}
    (hplace : s.destination tokens = .builtIn command)
    (hstatement : Statement.ofOperands command (operands tokens) = .ok (.assign target expression))
    (hvalue : expression.evaluate s.heap s.own = .ok value) :
    ∃ journal, executeWith nested tokens s =
      (.ok .executed, ({ s with journal := journal } : Session ω).bind target value) := by
  obtain ⟨journal, hperform⟩ := executeWith_of_builtIn nested hplace hstatement
  refine ⟨journal, ?_⟩
  rw [hperform]
  simp only [perform, assign, hvalue]
  rfl

/-- TOSTRING writes the text of the number. -/
theorem executeWith_textOf (nested : String → Session ω → Ending ω Unit) {source target : String}
    {more : List String} {x : Float} (hplace : s.destination tokens = .builtIn .textOf)
    (hoperands : operands tokens = source :: target :: more)
    (hsource : s.heap.get? s.own source = some (.number x)) :
    ∃ journal, executeWith nested tokens s = (.ok .executed,
      ({ s with journal := journal } : Session ω).bind target (.text (formatNumber x))) := by
  have hstatement := Statement.ofOperands_of_reads (.textOf source target more)
  rw [← hoperands] at hstatement
  refine executeWith_of_assign nested hplace hstatement ?_
  simp only [Expression.evaluate, hsource, Heap.display]

/-- TONUMBER reads the text of a number, after it was bound. -/
theorem executeWith_numberOf (nested : String → Session ω → Ending ω Unit) {source target : String}
    {more : List String} (hstore : s.own < s.heap.stores.length)
    (hplace : s.destination tokens = .builtIn .numberOf)
    (hoperands : operands tokens = source :: target :: more) (x : Float) (journal : List Event) :
    ∃ u, executeWith nested tokens (({ s with journal := journal } : Session ω).bind source
      (.text (formatNumber x))) = (.ok .executed, u) ∧
      u.heap.get? u.own target = some (.number x) := by
  generalize hfound : ({ s with journal := journal } : Session ω).bind source
    (.text (formatNumber x)) = found
  have hregistry : found.registry = s.registry := by rw [← hfound]; rfl
  have hstore' : found.own < found.heap.stores.length := by
    rw [← hfound]
    simpa [bind, Heap.set, Heap.update] using hstore
  have hsource : found.heap.get? found.own source = some (.text (formatNumber x)) := by
    rw [← hfound]
    exact Heap.get?_set_same source _ hstore
  have hplace' : found.destination tokens = .builtIn .numberOf := by
    rw [← hplace]
    unfold destination
    rw [hregistry]
  have hvalue : (Expression.numberOf source).evaluate found.heap found.own = .ok (.number x) := by
    simp only [Expression.evaluate, Heap.lookup, hsource, Option.getD_some, numberOf_formatNumber]
    rfl
  have hstatement := Statement.ofOperands_of_reads (.numberOf source target more)
  rw [← hoperands] at hstatement
  obtain ⟨journal', hread⟩ := executeWith_of_assign nested hplace' hstatement hvalue
  exact ⟨_, hread, Heap.get?_set_same target _ hstore'⟩

/-- **Number texts round-trip.**  The text of a number is read as that number, bit by bit, so
numbers with different bits have different texts.  TOSTRING and then TONUMBER bind the number that
they found, by statements and by lines. -/
theorem number_text_round_trips :
    (∀ x : Float, Decimal.readNumber? (formatNumber x) = some x) ∧
    (∀ x y : Float, x.toBits ≠ y.toBits → formatNumber x ≠ formatNumber y) ∧
    ∀ (s : Session ω) (x : Float) (source middle target : String) (toText toNumber : List Token)
      (more more' : List String), s.heap.get? s.own source = some (.number x) →
      s.destination toText = .builtIn .textOf → operands toText = source :: middle :: more →
      s.destination toNumber = .builtIn .numberOf → operands toNumber = middle :: target :: more' →
      (∃ t u, s.execute toText = (.ok .executed, t) ∧ t.execute toNumber = (.ok .executed, u) ∧
        u.heap.get? u.own target = some (.number x)) ∧
      ∀ first second, tokenize first = .ok toText → tokenize second = .ok toNumber →
        ∃ t u, s.runLine first = (.ok .executed, t) ∧ t.runLine second = (.ok .executed, u) ∧
          u.heap.get? u.own target = some (.number x) := by
  refine ⟨Decimal.readNumber?_write, fun x y hne heq => hne ?_, ?_⟩
  · have hread := Decimal.readNumber?_write x
    rw [show Decimal.Layout.value.write x = formatNumber y from heq] at hread
    rw [Option.some.inj (hread.symm.trans (Decimal.readNumber?_write y))]
  · intro s x source middle target toText toNumber more more' hsource hfirst hoperands hsecond
      hoperands'
    have hstore := Heap.lt_length_of_get? hsource
    refine ⟨?_, fun first second htokens htokens' => ?_⟩
    · obtain ⟨journal, hwrite⟩ := executeWith_textOf (nestedRun s.room) hfirst hoperands hsource
      obtain ⟨u, hread, hbound⟩ := executeWith_numberOf (nestedRun (room _)) hstore hsecond
        hoperands' x journal
      exact ⟨_, u, hwrite, hread, hbound⟩
    · -- the two lines leave notes of their tokens
      obtain ⟨journal, hwrite⟩ := executeWith_textOf (s := s.note (.scanned toText))
        (nestedRun s.room) hfirst hoperands hsource
      obtain ⟨u, hread, hbound⟩ := executeWith_numberOf (nestedRun (room _)) hstore hsecond
        hoperands' x (.scanned toNumber :: journal)
      refine ⟨_, u, (runLineWith_of_tokens _ _ _ s htokens).trans hwrite, ?_, hbound⟩
      exact (runLineWith_of_tokens _ _ _ _ htokens').trans hread

set_option maxRecDepth 20000 in
/-- Minus zero goes through a text, and has another text than zero. -/
theorem number_text_round_trips_of_minus_zero :
    let zero := Float.ofBits 0
    let minusZero := Float.ofBits 0x8000000000000000
    let s := (start Host.ofTable ⟨[], []⟩).bind "x" (.number minusZero)
    let toText : List Token := [⟨.keyword, "TOSTRING"⟩, ⟨.identifier, "x"⟩, ⟨.identifier, "t"⟩]
    let toNumber : List Token := [⟨.keyword, "TONUMBER"⟩, ⟨.identifier, "t"⟩, ⟨.identifier, "y"⟩]
    zero.toBits ≠ minusZero.toBits ∧ formatNumber zero ≠ formatNumber minusZero ∧
    s.heap.get? s.own "x" = some (.number minusZero) ∧
    s.destination toText = .builtIn .textOf ∧ s.destination toNumber = .builtIn .numberOf ∧
    tokenize "TOSTRING x t" = .ok toText ∧ tokenize "TONUMBER t y" = .ok toNumber ∧
    ∃ t u, s.runLine "TOSTRING x t" = (.ok .executed, t) ∧
      t.runLine "TONUMBER t y" = (.ok .executed, u) ∧
      u.heap.get? u.own "y" = some (.number minusZero) := by
  intro zero minusZero s toText toNumber
  have hbits : zero.toBits ≠ minusZero.toBits := by decide +kernel
  have hsource : s.heap.get? s.own "x" = some (.number minusZero) :=
    Heap.get?_set_same "x" _ (by decide)
  have hfirst : s.destination toText = .builtIn .textOf := rfl
  have hsecond : s.destination toNumber = .builtIn .numberOf := rfl
  have htokens : tokenize "TOSTRING x t" = .ok toText := by cbv
  have htokens' : tokenize "TONUMBER t y" = .ok toNumber := by cbv
  obtain ⟨-, hdistinct, hruns⟩ := number_text_round_trips (ω := HostTable)
  obtain ⟨-, hlines⟩ := hruns s minusZero "x" "t" "y" toText toNumber [] [] hsource hfirst rfl
    hsecond rfl
  exact ⟨hbits, hdistinct _ _ hbits, hsource, hfirst, hsecond, htokens, htokens',
    hlines _ _ htokens htokens'⟩

end Session

end LineScript
