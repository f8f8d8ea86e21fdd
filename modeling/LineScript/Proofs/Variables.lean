import LineScript.Proofs.Effects
import LineScript.Proofs.Journal
import LineScript.Proofs.RunInduction

/-!
What runs can make of the variables.

A run in which a name is not mentioned leaves that variable as it is, unless CLEAR is performed;
then it is unbound at the end (`keepsUnlessCleared`).  The operations that are or can become
registered must not change stores (`Session.OperationsLeaveStores`).
-/

namespace LineScript

namespace Session

variable {ω : Type}

/-! ## Operations that change no store -/

structure OperationsLeaveStores (s : Session ω) : Prop where
  registry : s.registry.LeavesStores
  catalog : s.catalog.LeavesStores

theorem OperationsLeaveStores.of_later {s t : Session ω} (h : s.OperationsLeaveStores)
    (hlater : s.Later t) : t.OperationsLeaveStores := by
  obtain ⟨units, hunits, hregistry⟩ := hlater.registry
  refine ⟨?_, by rw [hlater.catalog]; exact h.catalog⟩
  rw [hregistry]
  refine h.registry.importAll fun unit hunit => ?_
  obtain ⟨name, hname⟩ := hunits unit hunit
  exact h.catalog name unit hname

/-! ## A variable that is not mentioned -/

/-- The variable is bound as before, unless CLEAR was performed since; then it is unbound. -/
structure KeepsUnlessCleared (x : String) (s t : Session ω) : Prop where
  own : t.own = s.own
  binding : ∃ added, t.journal = added ++ s.journal ∧
    (.performed .clear ∈ added → t.heap.get? t.own x = none) ∧
    (.performed .clear ∉ added → t.heap.get? t.own x = s.heap.get? s.own x)

namespace KeepsUnlessCleared

variable {x : String} {s t u : Session ω}

theorem of_adds {P : Event → Prop} (hown : t.own = s.own) (hadds : Adds P s t)
    (hP : ¬ P (.performed .clear)) (hget : t.heap.get? t.own x = s.heap.get? s.own x) :
    KeepsUnlessCleared x s t := by
  obtain ⟨added, hjournal, hadded⟩ := hadds
  exact ⟨hown, added, hjournal, fun hmem => absurd (hadded _ hmem) hP, fun _ => hget⟩

theorem refl (x : String) (s : Session ω) : KeepsUnlessCleared x s s :=
  ⟨rfl, [], rfl, fun hmem => (by cases hmem), fun _ => rfl⟩

theorem note {event : Event} (h : event ≠ .performed .clear) :
    KeepsUnlessCleared x s (s.note event) :=
  .of_adds (P := (· ≠ .performed .clear)) rfl (.note h) (by simp) rfl

theorem trans (hst : KeepsUnlessCleared x s t) (htu : KeepsUnlessCleared x t u) :
    KeepsUnlessCleared x s u := by
  obtain ⟨first, ef, hcleared, hkept⟩ := hst.binding
  obtain ⟨second, es, hcleared', hkept'⟩ := htu.binding
  refine ⟨htu.own.trans hst.own, second ++ first, by rw [es, ef, List.append_assoc], ?_, ?_⟩
  · intro hmem
    by_cases hlater : .performed .clear ∈ second
    · exact hcleared' hlater
    · rw [hkept' hlater]
      exact hcleared ((List.mem_append.mp hmem).resolve_left hlater)
  · intro hmem
    rw [List.mem_append, not_or] at hmem
    rw [hkept' hmem.1, hkept hmem.2]

end KeepsUnlessCleared

theorem clear_keeps (x : String) (given : List String) (s : Session ω) :
    KeepsUnlessCleared x s
      ((s.note (.performed .clear)).noteSurplus .clear given).clearVariables := by
  obtain ⟨surplus, hjournal, -⟩ :=
    noteSurplus_adds (fun _ => True) (s.note (.performed .clear)) .clear given fun _ => trivial
  refine ⟨?_, surplus ++ [.performed .clear], ?_, fun _ => Heap.get?_clear _ _ x, ?_⟩
  · unfold clearVariables
    rw [noteSurplus_eq]
    rfl
  · rw [List.append_assoc]
    exact hjournal
  · intro hmem
    exact absurd (by simp) hmem

variable {nested : String → Session ω → Ending ω Unit} {x : String}

theorem perform_keeps (hn : ∀ text (s : Session ω), s.Later (nested text s).2)
    (statement : Statement) (hx : x ∉ statement.words) (hclear : statement ≠ .clear)
    (hrun : ∀ file, statement ≠ .run file) {s : Session ω} (hs : s.registry.LeavesStores) :
    KeepsUnlessCleared x s (perform nested statement s).2 := by
  have hown := (later_perform hn statement s).own
  refine .of_adds hown (perform_adds nested (writes_ofStatement statement) hrun s) (fun h => h) ?_
  have hcalled := Statement.callHeap_eq hs statement
  rw [hown]
  rcases (perform_leaves nested statement hrun s).heap_eq with hheap | hheap
  · rw [hheap, hcalled]
  · rw [hheap, ← hcalled]
    exact Statement.get?_variablesAfter hclear fun h => hx (Statement.mem_words_of_target h)

theorem noted_keeps (command : Keyword) (hcommand : command ≠ .clear) (given : List String)
    (s : Session ω) :
    KeepsUnlessCleared x s ((s.note (.performed command)).noteSurplus command given) := by
  have hadds : Adds (· ≠ .performed .clear) s
      ((s.note (.performed command)).noteSurplus command given) :=
    Adds.trans (Adds.note (by simpa using hcommand)) (noteSurplus_adds _ _ _ _ (by simp))
  refine .of_adds ?_ hadds (by simp) ?_
  · rw [noteSurplus_eq]
    rfl
  · rw [noteSurplus_eq]
    rfl

theorem runBuiltIn_keeps (hn : ∀ text (s : Session ω), s.Later (nested text s).2)
    (command : Keyword) (given : List String) (hx : x ∉ given)
    (hrun : ∀ file, Statement.ofOperands command given ≠ .ok (.run file)) {s : Session ω}
    (hs : s.registry.LeavesStores) :
    KeepsUnlessCleared x s (runBuiltIn nested command given s).2 := by
  by_cases hcommand : command = .clear
  · obtain rfl := hcommand
    have hstatement : Statement.ofOperands .clear given = .ok .clear :=
      Statement.ofOperands_of_reads (.clear given)
    simp only [runBuiltIn, hstatement, perform]
    exact clear_keeps x given s
  · have hnoted := noted_keeps (x := x) command hcommand given s
    unfold runBuiltIn
    dsimp only
    split
    · next statement hstatement =>
      refine hnoted.trans (perform_keeps hn statement ?_ ?_ ?_ ?_)
      · exact fun hmem => hx (Statement.words_subset hstatement hmem)
      · rintro rfl
        exact hcommand (List.mem_singleton.mp (Statement.mem_commands hstatement))
      · rintro file rfl
        exact hrun file hstatement
      · rw [noteSurplus_eq]
        exact hs
    · exact hnoted

theorem executeWith_keeps (hn : ∀ text (s : Session ω), s.Later (nested text s).2)
    (tokens : List Token) (hx : ∀ token ∈ tokens, token.text ≠ x) {s : Session ω}
    (hs : s.registry.LeavesStores) (h : s.asks? tokens = none) :
    KeepsUnlessCleared x s (executeWith nested tokens s).2 := by
  cases tokens with
  | nil => exact .refl x s
  | cons head rest =>
    have hgiven : x ∉ rest.map (·.text) := by
      intro hmem
      obtain ⟨token, htoken, hname⟩ := List.mem_map.mp hmem
      exact hx token (List.mem_cons_of_mem _ htoken) hname
    unfold executeWith
    dsimp only
    split
    · rw [Ending.snd_andThen_ok]
      have hadds : Adds (· ≠ .performed .clear) s ((s.note (.dispatched head.text)).call
          head.text ((rest.map (·.text)).map .text)).2 :=
        Adds.trans (Adds.note (by simp)) (call_adds _ (by simp) _ _ _)
      have hown := (later_call (s.note (.dispatched head.text)) head.text
        ((rest.map (·.text)).map .text)).own
      refine .of_adds hown hadds (by simp) ?_
      have hheap := hs.heap_call s.heap head.text ((rest.map (·.text)).map .text)
      rw [call_heap, hown]
      exact congrArg (·.get? s.own x) hheap
    · next hfree =>
      split
      · next command hcommand =>
        rw [Ending.snd_andThen_ok]
        exact runBuiltIn_keeps hn command _ hgiven
          (ne_run_of_not_asks s head rest command h hfree hcommand) hs
      · exact .note (by simp)

theorem asks_keeps (tokens : List Token) (s : Session ω) (asked : Ending ω String)
    (h : s.asks? tokens = some asked) : KeepsUnlessCleared x s asked.2 := by
  have hown := (later_asks s tokens asked h).own
  obtain ⟨head, file, more, -, -, rfl⟩ := eq_of_asks h
  have hnoted := noted_keeps (x := x) .run (by simp) ((file :: more).map (·.text)) s
  refine hnoted.trans (.of_adds (later_readScript _ _).own
    (readScript_adds (· ≠ .performed .clear) (by simp) _ _ (by simp)) (by simp) ?_)
  rw [readScript_heap, (later_readScript _ _).own]

/-- **A variable that is not mentioned.**  Runs of programs and scripts without the word leave the
variable alone, but for CLEAR, if no operation changes stores. -/
theorem keepsUnlessCleared (x : String) :
    KeptByRuns (ω := ω) (fun tokens => ∀ token ∈ tokens, token.text ≠ x)
      fun s t => s.OperationsLeaveStores →
        KeepsUnlessCleared x s t ∧ t.OperationsLeaveStores where
  refl s hs := ⟨.refl x s, hs⟩
  trans hst htu hs := by
    obtain ⟨hfirst, ht⟩ := hst hs
    obtain ⟨hsecond, hu⟩ := htu ht
    exact ⟨hfirst.trans hsecond, hu⟩
  scanned s tokens hs := ⟨.note (by simp), hs.registry, hs.catalog⟩
  statement s tokens hx hasks hs :=
    ⟨executeWith_keeps (fun _ s => .refl s) tokens hx hs.registry hasks,
      hs.of_later (later_executeWith (fun _ s => .refl s) tokens s)⟩
  asks s tokens asked _ hasks hs :=
    ⟨asks_keeps tokens s asked hasks, hs.of_later (later_asks s tokens asked hasks)⟩
  around s t h hs := by
    obtain ⟨hinside, ht⟩ := h ⟨hs.registry, hs.catalog⟩
    have henter : KeepsUnlessCleared x s s.enter :=
      ⟨rfl, (KeepsUnlessCleared.note (by simp)).binding⟩
    obtain ⟨hown, hbinding⟩ := henter.trans hinside
    exact ⟨⟨hown, hbinding⟩, ht.registry, ht.catalog⟩

end Session

end LineScript
