import LineScript.Proofs.Machine

/-!
The depth of nesting.

While a run is under way, the depth is what it was at the beginning plus the number of nested
scripts that are being run, and the limit bounds it.  So it goes up only from below the limit and
down only from above its first value, and it is back at its first value when the run is over.

The argument is an invariant of the machine (`Nested`), kept by every step (`nested_step`): a
statement that begins no script leaves the depth alone, because it leads to a later state.

Main statement: `depth_restored_bounded_and_run_ends`.
-/

namespace LineScript

open Session

namespace Machine

variable {ω α : Type}

/-- The depth of a run that began at depth `base`, under a limit. -/
structure Nested (base limit : Nat) (m : Machine ω) : Prop where
  limit_eq : m.session.config.maxRunDepth = limit
  /-- Only the outermost script is not nested. -/
  counted : m.pending ≠ [] → m.session.depth + 1 = base + m.pending.length
  finished : m.pending = [] → m.session.depth = base
  bounded : m.session.depth ≤ limit

theorem nested_idle (s : Session ω) (h : s.depth ≤ s.config.maxRunDepth) :
    Nested s.depth s.config.maxRunDepth (idle s) :=
  ⟨rfl, fun _ => rfl, fun hp => (by cases hp), h⟩

theorem nested_later {base limit : Nat} {m : Machine ω} (hm : Nested base limit m)
    {s : Session ω} (hs : m.session.Later s) (result : Except Fault Unit) :
    Nested base limit { m with result := result, session := s } := by
  constructor
  · exact (congrArg Config.maxRunDepth hs.config).trans hm.limit_eq
  · intro hp
    have := hm.counted hp
    rwa [← hs.depth] at this
  · intro hp
    exact hs.depth.trans (hm.finished hp)
  · have := hm.bounded
    rwa [← hs.depth] at this

theorem nested_settle {base limit : Nat} {m : Machine ω} (hm : Nested base limit m)
    {ending : Ending ω α} (h : m.session.Later ending.2) :
    Nested base limit (m.settle ending) :=
  nested_later hm h _

theorem nested_descend {base limit : Nat} {m : Machine ω} (hm : Nested base limit m)
    (hp : m.pending ≠ []) (text : String) {s : Session ω} (hs : m.session.Later s) :
    Nested base limit (m.descend text s) := by
  have hnow : Nested base limit { m with session := s } := nested_later hm hs m.result
  unfold descend
  split
  · exact nested_settle hm hs
  · next hroom =>
    have hlimit : s.config.maxRunDepth = limit := hnow.limit_eq
    have hcounted : s.depth + 1 = base + m.pending.length := hnow.counted hp
    refine ⟨hlimit, fun _ => ?_, fun h => (by cases h), ?_⟩
    · show s.depth + 1 + 1 = base + (m.pending.length + 1)
      omega
    · show s.depth + 1 ≤ limit
      omega

theorem nested_dispatch {base limit : Nat} {m : Machine ω} (hm : Nested base limit m)
    (hp : m.pending ≠ []) (tokens : List Token) : Nested base limit (m.dispatch tokens) := by
  unfold dispatch
  split
  · exact nested_settle hm (later_executeWith (fun _ s => .refl s) tokens m.session)
  · next fault s hasks => exact nested_settle hm (later_asks _ _ _ hasks)
  · next text s hasks => exact nested_descend hm hp text (later_asks _ _ _ hasks)

theorem nested_take {base limit : Nat} {m : Machine ω} (hm : Nested base limit m)
    (hp : m.pending ≠ []) (line : String) : Nested base limit (m.take line) := by
  unfold take
  split
  · exact nested_settle hm (.refl _)
  · next tokens _ => exact nested_dispatch (nested_later hm (later_note _ _ rfl) m.result) hp tokens

theorem nested_ascend {base limit : Nat} {m : Machine ω} (hm : Nested base limit m)
    (script : List String) (outer : List (List String)) (hp : m.pending = script :: outer) :
    Nested base limit (m.ascend outer) := by
  have hcounted := hm.counted (by rw [hp]; simp)
  have hbounded := hm.bounded
  rw [hp, List.length_cons] at hcounted
  unfold ascend
  cases outer with
  | nil =>
    refine ⟨hm.limit_eq, fun h => absurd rfl h, fun _ => ?_, hbounded⟩
    show m.session.depth = base
    simp only [List.length_nil] at hcounted
    omega
  | cons next outer =>
    rw [List.length_cons] at hcounted
    refine ⟨hm.limit_eq, fun _ => ?_, fun h => (by cases h), ?_⟩
    · show m.session.depth - 1 + 1 = base + (outer.length + 1)
      omega
    · show m.session.depth - 1 ≤ limit
      omega

/-- **The invariant.**  No step unbalances the depth. -/
theorem nested_step {base limit : Nat} {m : Machine ω} (hm : Nested base limit m) :
    Nested base limit m.step := by
  unfold step
  split
  · exact hm
  · next script outer hpending =>
    split
    · next line rest _ =>
      have hrest : Nested base limit { m with pending := rest :: outer } := by
        refine ⟨hm.limit_eq, fun _ => ?_, fun h => (by cases h), hm.bounded⟩
        have := hm.counted (by rw [hpending]; simp)
        rwa [hpending] at this
      dsimp only
      split
      · exact hrest
      · exact nested_take hrest (by simp) line
    · exact nested_ascend hm _ outer hpending

theorem nested_iterate {base limit : Nat} {m : Machine ω} (hm : Nested base limit m) (n : Nat) :
    Nested base limit (step^[n] m) := by
  induction n with
  | zero => exact hm
  | succ n ih =>
    rw [Function.iterate_succ_apply']
    exact nested_step ih

/-! ## What holds of every run -/

/-- A run that begins in `s` and ends with `ending`, seen from the depth. -/
structure Balanced (s : Session ω) (m : Machine ω) (ending : Ending ω α) : Prop where
  /-- At every moment the depth lies between its first value and the limit. -/
  within : ∀ n, s.depth ≤ (step^[n] m).session.depth ∧
    (step^[n] m).session.depth ≤ s.config.maxRunDepth
  /-- The depth counts the nested scripts; so it is positive wherever one is left. -/
  counted : ∀ n, (step^[n] m).pending ≠ [] →
    (step^[n] m).session.depth + 1 = s.depth + (step^[n] m).pending.length
  /-- The run is over after some number of steps, with this result and in this state. -/
  ends : m.EndsAs ending
  restored : ending.2.depth = s.depth

theorem balanced_of_nested {s : Session ω} {m : Machine ω} {ending : Ending ω α}
    (hm : Nested s.depth s.config.maxRunDepth m) (hends : m.EndsAs ending)
    (hlater : s.Later ending.2) : Balanced s m ending := by
  refine ⟨fun n => ?_, fun n => (nested_iterate hm n).counted, hends, hlater.depth⟩
  have hn := nested_iterate hm n
  refine ⟨?_, hn.bounded⟩
  by_cases hp : (step^[n] m).pending = []
  · exact Nat.le_of_eq (hn.finished hp).symm
  · have := hn.counted hp
    have := List.length_pos_iff.mpr hp
    omega

end Machine

open Machine in
/-- **Nesting is balanced, bounded and finite.**  Whatever the host answers, a statement, a line
and a program that begin at a depth within the limit stay within it, come to an end, and leave the
depth that they found, with any result. -/
theorem depth_restored_bounded_and_run_ends {ω : Type} (s : Session ω)
    (h : s.depth ≤ s.config.maxRunDepth) :
    (∀ tokens, Balanced s (ofTokens tokens s) (s.execute tokens)) ∧
    (∀ line, Balanced s (ofLine line s) (s.runLine line)) ∧
    (∀ text, Balanced s (ofLines (Text.lines text) s) (s.runSource text)) := by
  have hidle := nested_idle s h
  refine ⟨fun tokens => ?_, fun line => ?_, fun text => ?_⟩
  · exact balanced_of_nested (nested_dispatch hidle (by simp [idle]) tokens)
      (ofTokens_endsAs tokens s) (later_execute tokens s)
  · exact balanced_of_nested (nested_take hidle (by simp [idle]) line)
      (ofLine_endsAs line s) (later_runLine line s)
  · exact balanced_of_nested ⟨rfl, fun _ => rfl, fun hp => (by cases hp), h⟩
      (ofLines_endsAs (Text.lines text) s) (later_runLines (Text.lines text) s)

/-- A host whose every script runs another one: it is asked for a new script without end. -/
def endlessScripts : Host Nat where
  readScript _ count := .plain (.ok ("RUN \"" ++ toString (count + 1) ++ "\"")) (count + 1)
  execute _ count := .plain (.ok 0) count

open Machine in
theorem depth_restored_under_endlessScripts :
    let s := Session.start endlessScripts 0
    s.depth ≤ s.config.maxRunDepth ∧
    (∀ tokens, Balanced s (ofTokens tokens s) (s.execute tokens)) ∧
    (∀ line, Balanced s (ofLine line s) (s.runLine line)) ∧
    (∀ text, Balanced s (ofLines (Text.lines text) s) (s.runSource text)) := by
  intro s
  have hdepth : s.depth ≤ s.config.maxRunDepth := by decide
  exact ⟨hdepth, depth_restored_bounded_and_run_ends s hdepth⟩

end LineScript
