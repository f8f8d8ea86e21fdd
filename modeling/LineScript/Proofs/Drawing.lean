import LineScript.Proofs.Effects
import LineScript.Proofs.FloatOrder

/-!
Random numbers.

A number that is made of a draw is not below the lower bound (`Chance.not_interpolate_lt`), and RANDOM
goes on drawing until it is below the upper one (`Chance.between_lt`).  So the number lies between the
bounds whatever is drawn, rounding included.

Main statement: `Session.random_is_between`.
-/

namespace LineScript

namespace Chance

theorem not_interpolate_lt (low high t : Float) : ¬ interpolate low high t < low := by
  unfold interpolate
  dsimp only
  split
  · next habove => exact Decimal.not_lt_of_lt habove
  · exact fun h => Decimal.not_lt_of_lt h h

theorem not_between_lt (low high : Float) (chance : Chance) :
    ¬ (chance.between low high).1 < low := by
  induction chance with
  | ended => exact fun h => Decimal.not_lt_of_lt h h
  | draw t rest ih =>
    unfold between
    dsimp only
    split
    · exact not_interpolate_lt low high t
    · exact ih ()

end Chance

namespace Session

variable {ω : Type}

theorem checkBounds_eq_ok {low high : Value} {a b : Float} (h : checkBounds low high = .ok (a, b)) :
    low = .number a ∧ high = .number b ∧ (a < b ∨ (a == b) = true) := by
  unfold checkBounds at h
  split at h
  · next x y hlow hhigh =>
    split at h
    · cases h
    · next hfinite =>
      split at h
      · cases h
      · next hordered =>
        obtain ⟨rfl, rfl⟩ := Prod.mk.inj (Except.ok.inj h)
        obtain ⟨hx, hy⟩ : x.isFinite = true ∧ y.isFinite = true := by simpa using hfinite
        refine ⟨?_, ?_, Decimal.lt_or_beq (Decimal.isNaN_of_isFinite hx)
          (Decimal.isNaN_of_isFinite hy) hordered⟩
        · cases low <;> cases hlow
          rfl
        · cases high <;> cases hhigh
          rfl
  · cases h

/-- **Random numbers lie between their bounds.**  A RANDOM that succeeds binds its target to a number
that is not below the lower bound and is below the upper one, or is both of them if they are equal. -/
theorem random_is_between (s : Session ω) (low high target : String)
    (h : (s.drawInto low high target).1 = .ok ()) :
    ∃ a b x, s.resolve low = .number a ∧ s.resolve high = .number b ∧
      s.heap.Rebinds (s.drawInto low high target).2.heap s.own target (.number x) ∧
      ¬ x < a ∧ (x < b ∨ (a == b) = true ∧ x = a) := by
  unfold drawInto at h ⊢
  cases hbounds : checkBounds (s.resolve low) (s.resolve high) with
  | error fault =>
    rw [hbounds] at h
    cases h
  | ok bounds =>
    obtain ⟨a, b⟩ := bounds
    obtain ⟨hlow, hhigh, hordered⟩ := checkBounds_eq_ok hbounds
    dsimp only
    split
    · next hequal =>
      refine ⟨a, b, a, hlow, hhigh, s.heap.rebinds_set _ _ _, ?_, .inr ⟨hequal, rfl⟩⟩
      exact fun hless => Decimal.not_lt_of_lt hless hless
    · next hunequal =>
      have hless := hordered.resolve_right hunequal
      exact ⟨a, b, _, hlow, hhigh, s.heap.rebinds_set _ _ _, s.chance.not_between_lt a b,
        .inl (Chance.between_lt hless s.chance)⟩

end Session

end LineScript
