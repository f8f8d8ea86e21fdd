/-!
Classes of characters given by tables of code point ranges.  Main statement: a character is in
a sorted table iff one of the ranges holds its code point (`CharTable.contains_iff`).
-/

namespace LineScript.Text

/-- A class of characters: ranges of code points, both ends included, in increasing order. -/
structure CharTable where
  ranges : List (Nat × Nat)

/-- Is `n` in one of the ranges?  The search ends at the first range that begins after `n`. -/
def inRanges : List (Nat × Nat) → Nat → Bool
  | [], _ => false
  | (first, last) :: rest, n => first ≤ n && (n ≤ last || inRanges rest n)

namespace CharTable

def contains (table : CharTable) (c : Char) : Bool :=
  inRanges table.ranges c.toNat

end CharTable

theorem inRanges_of_mem {rs : List (Nat × Nat)} {r : Nat × Nat} {n : Nat}
    (sorted : rs.Pairwise fun a b => a.1 ≤ b.1) (mem : r ∈ rs) (low : r.1 ≤ n)
    (high : n ≤ r.2) : inRanges rs n = true := by
  induction rs with
  | nil => cases mem
  | cons a rest ih =>
    obtain ⟨before, sorted⟩ := List.pairwise_cons.mp sorted
    rcases List.mem_cons.mp mem with rfl | mem
    · simp [inRanges, low, high]
    · have := before r mem
      have : a.1 ≤ n := by omega
      simp [inRanges, this, ih sorted mem]

theorem exists_of_inRanges {rs : List (Nat × Nat)} {n : Nat} (h : inRanges rs n = true) :
    ∃ r ∈ rs, r.1 ≤ n ∧ n ≤ r.2 := by
  induction rs with
  | nil => simp [inRanges] at h
  | cons a rest ih =>
    simp only [inRanges, Bool.and_eq_true, Bool.or_eq_true, decide_eq_true_eq] at h
    rcases h.2 with high | h'
    · exact ⟨a, by simp, h.1, high⟩
    · obtain ⟨r, mem, hr⟩ := ih h'
      exact ⟨r, by simp [mem], hr⟩

/-- In a table whose ranges begin in increasing order, the early end of the search loses
nothing. -/
theorem CharTable.contains_iff {table : CharTable} {c : Char}
    (sorted : table.ranges.Pairwise fun a b => a.1 ≤ b.1) :
    table.contains c = true ↔ ∃ r ∈ table.ranges, r.1 ≤ c.toNat ∧ c.toNat ≤ r.2 :=
  ⟨exists_of_inRanges, fun ⟨_, mem, low, high⟩ => inRanges_of_mem sorted mem low high⟩

end LineScript.Text
