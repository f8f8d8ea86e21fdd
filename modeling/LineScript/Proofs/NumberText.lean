import LineScript.Value
import LineScript.Proofs.Grammar

/-!
Numbers as texts.

A written number consists of digits, the marks of its layout and its words for infinity and NaN
(`Layout.chars_write`).  A word, which begins with a letter or an underscore, is read as a number
only if it is one of three words in any letter case (`readNumber?_of_shape`): nothing else that is
read as a number begins like a word.
-/

namespace LineScript

namespace Decimal

/-! ## The characters of written numbers -/

section

variable {p : Char → Prop} (hdigit : ∀ c, c.isDigit = true → p c)
  (hmarks : ∀ c ∈ ['.', 'e', '+', '-'], p c)

include hdigit in
theorem chars_digitList (n : Nat) : ∀ c ∈ digitList n, p c :=
  fun c hc => hdigit c (Nat.isDigit_of_mem_toDigits (by decide) (by decide) hc)

include hdigit in
theorem chars_zeros (count : Nat) : ∀ c ∈ List.replicate count '0', p c := by
  intro c hc
  rw [List.eq_of_mem_replicate hc]
  exact hdigit '0' (by decide)

include hdigit hmarks in
theorem chars_positional {wholeMark : String} (hwhole : ∀ c ∈ wholeMark.toList, p c) (n : Nat)
    (point : Int) : ∀ c ∈ positional wholeMark (digitList n) point, p c := by
  have hdigits := chars_digitList hdigit n
  have hpoint : p '.' := hmarks '.' (by simp)
  unfold positional
  dsimp only
  intro c hc
  split at hc
  · simp only [List.mem_append, List.mem_cons, List.not_mem_nil, or_false] at hc
    rcases hc with ((rfl | rfl) | hc) | hc
    · exact hdigit '0' (by decide)
    · exact hpoint
    · exact chars_zeros hdigit _ c hc
    · exact hdigits c hc
  · split at hc
    · simp only [List.mem_append] at hc
      rcases hc with (hc | hc) | hc
      · exact hdigits c hc
      · exact chars_zeros hdigit _ c hc
      · exact hwhole c hc
    · simp only [List.mem_append, List.mem_singleton] at hc
      rcases hc with (hc | rfl) | hc
      · exact hdigits c (List.mem_of_mem_take hc)
      · exact hpoint
      · exact hdigits c (List.mem_of_mem_drop hc)

include hdigit hmarks in
theorem chars_exponential (width n : Nat) (exponent : Int) :
    ∀ c ∈ exponential width (digitList n) exponent, p c := by
  have hdigits := chars_digitList hdigit n
  have hsign : p (if exponent < 0 then '-' else '+') := by
    split
    · exact hmarks '-' (by simp)
    · exact hmarks '+' (by simp)
  intro c hc
  simp only [exponential, List.mem_append, List.mem_cons, List.not_mem_nil, or_false] at hc
  rcases hc with ((hc | rfl | rfl) | hc) | hc
  · split at hc
    · next first second rest hfirst =>
      rw [hfirst] at hdigits
      simp only [List.forall_mem_cons] at hdigits
      simp only [List.mem_append, List.mem_cons, List.not_mem_nil, or_false] at hc
      rcases hc with (rfl | rfl | rfl) | hc
      · exact hdigits.1
      · exact hmarks '.' (by simp)
      · exact hdigits.2.1
      · exact hdigits.2.2 c hc
    · exact hdigits c hc
  · exact hmarks 'e' (by simp)
  · exact hsign
  · exact chars_zeros hdigit _ c hc
  · exact chars_digitList hdigit _ c hc

include hdigit hmarks in
theorem Layout.chars_magnitude (layout : Layout) (hwhole : ∀ c ∈ layout.wholeMark.toList, p c)
    (x : Scientific) : ∀ c ∈ layout.magnitude x, p c := by
  unfold magnitude
  split
  · exact List.forall_mem_cons.mpr ⟨hdigit '0' (by decide), hwhole⟩
  · dsimp only
    split
    · exact chars_positional hdigit hmarks hwhole _ _
    · exact chars_exponential hdigit hmarks _ _ _

include hdigit hmarks in
/-- What holds of digits and of the marks and words of a layout holds of every character of a
number that is written in it. -/
theorem Layout.chars_write (layout : Layout) (hwhole : ∀ c ∈ layout.wholeMark.toList, p c)
    (hinfinity : ∀ c ∈ layout.infinity.toList, p c)
    (hnan : ∀ c ∈ layout.notANumber.toList, p c) (x : Float) :
    ∀ c ∈ (layout.write x).toList, p c := by
  have hsign : ∀ c ∈ (if isNegative x then "-" else "").toList, p c := by
    split
    · simpa using hmarks '-' (by simp)
    · simp
  unfold write
  dsimp only
  split
  · exact hnan
  · split
    · rw [String.toList_append, List.forall_mem_append]
      exact ⟨hsign, hinfinity⟩
    · rw [String.toList_append, String.toList_ofList, List.forall_mem_append]
      exact ⟨hsign, layout.chars_magnitude hdigit hmarks hwhole _⟩

end

/-! ## Words that are numbers -/

/-- The words that are read as numbers, in any letter case. -/
def numberWords : List (List Char) :=
  ["inf".toList, "infinity".toList, "nan".toList]

def isNumberWord (text : String) : Bool :=
  text.toList.map Char.toLower ∈ numberWords

theorem specialBits?_eq_none_iff (text : String) :
    specialBits? text.toList = none ↔ isNumberWord text = false := by
  unfold specialBits? isNumberWord numberWords
  dsimp only
  split
  · next h => rcases h with h | h <;> simp [h]
  · next h =>
    rw [not_or] at h
    split
    · next hnan => simp [hnan]
    · next hnan => simpa using ⟨h.1, h.2, hnan⟩

/-- A numeral begins with a digit or the point. -/
theorem scientific?_of_head {first : Char} (hdigit : first.isDigit = false) (hpoint : first ≠ '.')
    (more : List Char) : scientific? (first :: more) = none := by
  unfold scientific?
  rw [List.takeWhile_cons_of_neg (by simp [hdigit]), List.dropWhile_cons_of_neg (by simp [hdigit])]
  split
  next fraction rest hsplit =>
  split at hsplit
  · next hcons => exact absurd (List.cons.inj hcons).1 hpoint
  · rw [← (Prod.mk.inj hsplit).1, if_pos ⟨rfl, rfl⟩]

/-- A text that begins like a word has no digits to be read. -/
theorem scientific?_of_isNameStart {first : Char} (hfirst : Text.isNameStart first = true)
    (more : List Char) : scientific? (first :: more) = none := by
  obtain ⟨hlow, -⟩ := toNat_of_isNameStart hfirst
  refine scientific?_of_head ?_ ?_ more
  · rw [Bool.eq_false_iff]
    intro h
    have hhigh : first.toNat ≤ 57 := (Char.isDigit_iff_toNat.mp h).2
    omega
  · rintro rfl
    exact absurd hlow (by decide)

/-- What does not begin with a sign has none. -/
theorem takeSign_of_head {first : Char} (hminus : first ≠ '-') (hplus : first ≠ '+')
    (rest : List Char) : takeSign (first :: rest) = (false, first :: rest) := by
  unfold takeSign
  split
  · next h => exact absurd (List.cons.inj h).1 hminus
  · next h => exact absurd (List.cons.inj h).1 hplus
  · rfl

/-- A sign does not begin like a word. -/
theorem takeSign_of_isNameStart {first : Char} (hfirst : Text.isNameStart first = true)
    (more : List Char) : takeSign (first :: more) = (false, first :: more) := by
  refine takeSign_of_head ?_ ?_ more
  · rintro rfl
    exact absurd hfirst (by decide)
  · rintro rfl
    exact absurd hfirst (by decide)

/-- **Words and numbers.**  A word is read as a number iff it is one of three. -/
theorem readNumber?_of_shape {word : String} (h : Shape .word word.toList) :
    readNumber? word = none ↔ isNumberWord word = false := by
  rw [← specialBits?_eq_none_iff]
  unfold readNumber?
  obtain ⟨first, more, hword, hfirst⟩ := h.begins
  rw [hword, takeSign_of_isNameStart hfirst]
  simp [scientific?_of_isNameStart hfirst]

example : isNumberWord "Infinity" = true := by decide

end Decimal

/-! ## Values -/

/-- A number is written without braces, so it is not the text of a store that is cut short. -/
theorem formatNumber_ne_elided (x : Float) : formatNumber x ≠ "\x7b...\x7d" := by
  have hchars : ∀ c ∈ (formatNumber x).toList, c ≠ '\x7b' := by
    refine Decimal.Layout.value.chars_write (fun c hc => ?_) ?_ ?_ ?_ ?_ x
    · rintro rfl
      exact absurd hc (by decide)
    all_goals simp [Decimal.Layout.value]
  intro h
  exact hchars '\x7b' (by rw [h]; decide) rfl

end LineScript
