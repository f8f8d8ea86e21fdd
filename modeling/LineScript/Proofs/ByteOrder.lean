import LineScript.Store.Heap

/-!
The order of texts is the order of their bytes.

Texts are compared character by character.  In UTF-8 a character with a smaller code point is
smaller already in the first byte in which the two differ (`utf8EncodeChar_append_lt`), so comparing
the bytes of two texts comes to the same (`utf8_lt_of_lt`).
-/

namespace LineScript

def utf8 (text : String) : List UInt8 :=
  text.toUTF8.data.toList

theorem utf8_eq (text : String) : utf8 text = text.toList.flatMap String.utf8EncodeChar := by
  have h : (String.ofList text.toList).toUTF8.data.toList =
      text.toList.flatMap String.utf8EncodeChar :=
    List.toList_data_toByteArray
  rwa [String.ofList_toList] at h

theorem ofNat_lt_ofNat_iff (m n : Nat) : UInt8.ofNat m < UInt8.ofNat n ↔ m % 256 < n % 256 := by
  rw [UInt8.lt_iff_toNat_lt, UInt8.toNat_ofNat', UInt8.toNat_ofNat']

theorem ofNat_eq_ofNat_iff (m n : Nat) : UInt8.ofNat m = UInt8.ofNat n ↔ m % 256 = n % 256 := by
  rw [← UInt8.toNat_inj, UInt8.toNat_ofNat', UInt8.toNat_ofNat']

/-- The code of a character is not the beginning of the code of another one, so what follows it does
not count. -/
theorem utf8EncodeChar_append_lt {c d : Char} (h : c < d) (cs ds : List UInt8) :
    String.utf8EncodeChar c ++ cs < String.utf8EncodeChar d ++ ds := by
  have hcode : c.val.toNat < d.val.toNat := h
  have hbound : d.val.toNat < 0x110000 := by
    rcases d.valid with hlow | ⟨-, hhigh⟩
    · omega
    · exact hhigh
  -- none of the bytes is cut by the arithmetic of bytes
  have hfour (k : Nat) : (k % 8 + 240) % 256 = k % 8 + 240 := by omega
  have hthree (k : Nat) : (k % 16 + 224) % 256 = k % 16 + 224 := by omega
  have htwo (k : Nat) : (k % 32 + 192) % 256 = k % 32 + 192 := by omega
  have hnext (k : Nat) : (k % 64 + 128) % 256 = k % 64 + 128 := by omega
  -- all are digits to the base 64
  have hsquare (k : Nat) : k / 4096 = k / 64 / 64 := by omega
  have hcube (k : Nat) : k / 262144 = k / 64 / 64 / 64 := by omega
  unfold String.utf8EncodeChar
  dsimp only
  generalize c.val.toNat = m at hcode
  generalize d.val.toNat = n at hcode hbound
  -- one, two, three or four bytes for each of the two
  repeat' split
  all_goals
    simp only [List.cons_append, List.nil_append, List.cons_lt_cons_iff, ofNat_lt_ofNat_iff,
      ofNat_eq_ofNat_iff, hfour, hthree, htwo, hnext, hsquare, hcube]
    omega

theorem utf8EncodeChar_ne_nil (c : Char) : String.utf8EncodeChar c ≠ [] := by
  unfold String.utf8EncodeChar
  dsimp only
  repeat' split
  all_goals simp

/-- The code of a text is made of the codes of its characters. -/
theorem flatMap_utf8EncodeChar_lt {cs ds : List Char} (h : cs < ds) :
    cs.flatMap String.utf8EncodeChar < ds.flatMap String.utf8EncodeChar := by
  induction h with
  | @nil d ds =>
    obtain ⟨byte, bytes, hcode⟩ := List.exists_cons_of_ne_nil (utf8EncodeChar_ne_nil d)
    rw [List.flatMap_nil, List.flatMap_cons, hcode]
    exact List.nil_lt_cons byte _
  | @rel c cs d ds hfirst =>
    rw [List.flatMap_cons, List.flatMap_cons]
    exact utf8EncodeChar_append_lt hfirst _ _
  | cons _ ih =>
    rw [List.flatMap_cons, List.flatMap_cons]
    exact List.append_left_lt ih

/-- **Order of bytes.**  A smaller text has the smaller bytes. -/
theorem utf8_lt_of_lt {a b : String} (h : a < b) : utf8 a < utf8 b := by
  rw [utf8_eq, utf8_eq]
  exact flatMap_utf8EncodeChar_lt h

end LineScript
