import LineScript.Proofs.Effects

/-!
What a statement that succeeds leaves behind.

A statement of a built-in command that names a variable binds that one alone, to a value that it
computes from the state that it finds, so that it may read the variable which it binds
(`succeeding_statement_touches_own_target`).  A CALL whose operation gives no value binds nothing.
All this is about operations that change no store.
-/

namespace LineScript

variable {ω : Type}

/-- The built-in commands that bind no variable and remove none. -/
def Keyword.quiet : List Keyword :=
  [.print, .wait, .execCommand, .importUnit]

namespace Statement

/-- Every other command binds one, but for CLEAR and RUN. -/
theorem exists_target {statement : Statement} {command : Keyword}
    (hcommand : command ∈ statement.commands) (hquiet : command ∉ Keyword.quiet)
    (hclear : command ≠ .clear) (hrun : command ≠ .run) :
    ∃ target, statement.target? = some target := by
  cases statement with
  | assign target expression => exact ⟨target, rfl⟩
  | call function arguments target => exact ⟨target, rfl⟩
  | random low high target => exact ⟨target, rfl⟩
  | input prompt target => exact ⟨target, rfl⟩
  | clear => exact absurd (List.mem_singleton.mp hcommand) hclear
  | run file => exact absurd (List.mem_singleton.mp hcommand) hrun
  | print token | wait token | execCommand line | importUnit token =>
    obtain rfl := List.mem_singleton.mp hcommand
    exact absurd (by simp [Keyword.quiet]) hquiet

theorem variablesAfter_of_quiet {s : Session ω} (hleaves : s.registry.LeavesStores)
    {statement : Statement} {command : Keyword} {given : List String}
    (hstatement : ofOperands command given = .ok statement)
    (hquiet : command ∈ Keyword.quiet) : statement.variablesAfter s = s.heap := by
  have htarget : statement.target? = none := by
    rw [← targetOf_eq hstatement]
    revert hquiet
    cases command <;> simp [Keyword.quiet, Keyword.targetOf]
  have hclear : statement ≠ clear := by
    rintro rfl
    obtain rfl := List.mem_singleton.mp (mem_commands hstatement)
    simp [Keyword.quiet] at hquiet
  unfold variablesAfter
  rw [htarget, if_neg hclear, callHeap_eq hleaves]

theorem variablesAfter_clear {s : Session ω} {statement : Statement} {given : List String}
    (hstatement : ofOperands .clear given = .ok statement) :
    statement.variablesAfter s = s.heap.clear s.own := by
  obtain rfl := Except.ok.inj hstatement
  rfl

end Statement

namespace Session

/-- A statement that has a target and succeeds has computed a value for it, unless it is a CALL
whose operation gives none. -/
theorem value?_of_ok {nested : String → Session ω → Ending ω Unit} {statement : Statement}
    {target : String} (htarget : statement.target? = some target) (s : Session ω)
    (h : (perform nested statement s).1 = .ok ()) :
    (∃ value, statement.value? s = some value) ∨
      ∃ function arguments, statement = .call function arguments target ∧
        (s.registry.call s.heap function (arguments.map s.resolve)).result = .ok none := by
  cases statement with
  | assign name expression =>
    left
    simp only [perform, assign] at h
    cases hvalue : expression.evaluate s.heap s.own with
    | error fault => simp [hvalue] at h
    | ok value => exact ⟨value, by rw [Statement.value?, hvalue]; rfl⟩
  | call function arguments name =>
    -- the one statement that can succeed without a value
    obtain rfl := Option.some.inj htarget
    simp only [perform, callInto, call] at h
    cases hresult : (s.registry.call s.heap function (arguments.map s.resolve)).result with
    | error cause => simp [hresult] at h
    | ok value =>
      cases value with
      | none => exact .inr ⟨function, arguments, rfl, hresult⟩
      | some value => exact .inl ⟨value, by rw [Statement.value?, hresult]; rfl⟩
  | random low high name =>
    left
    simp only [perform, drawInto] at h
    cases hbounds : checkBounds (s.resolve low) (s.resolve high) with
    | error fault => simp [hbounds] at h
    | ok bounds => exact ⟨_, by rw [Statement.value?, hbounds]; rfl⟩
  | input prompt name =>
    left
    have hends := s.askEnds prompt name
    simp only [perform] at h
    generalize s.ask prompt name = ending at hends h
    cases hends with
    | refused cause => cases h
    | notFlushed cause => cases h
    | unread hshown hline => cases h
    | read hshown hline => exact ⟨_, by rw [Statement.value?, hline]; rfl⟩
  | print token | wait token | clear | run file | execCommand line | importUnit token =>
    cases htarget

/-- What a statement leaves when it succeeds, `t` being the state then. -/
structure TouchesOwnTarget (s : Session ω) (tokens : List Token) (t : Session ω) : Prop
    extends Frame (s.destination tokens) (s.childText tokens) s t where
  /-- Without a token, for an operation and for a name that nothing has. -/
  elsewhere : (∀ command, s.destination tokens ≠ .builtIn command) → t.heap = s.heap
  quiet : ∀ command ∈ Keyword.quiet, s.destination tokens = .builtIn command → t.heap = s.heap
  cleared : s.destination tokens = .builtIn .clear →
    t.heap = s.heap.clear s.own ∧ (∀ name, t.heap.get? t.own name = none) ∧
      ∀ other ≠ s.own, ∀ name, t.heap.get? other name = s.heap.get? other name
  /-- The one variable that is bound is the target, and its value was computed from `s`. -/
  bound : ∀ command ∉ Keyword.quiet, command ≠ .clear →
    s.destination tokens = .builtIn command →
    ∃ statement target, Statement.ofOperands command (operands tokens) = .ok statement ∧
      command.targetOf (operands tokens) = some target ∧
      ((∃ value, statement.value? s = some value ∧ s.heap.Rebinds t.heap s.own target value) ∨
        (∃ function arguments, command = .call ∧
          statement = .call function arguments target ∧
          (s.registry.call s.heap function (arguments.map s.resolve)).result = .ok none ∧
          t.heap = s.heap))

/-- A statement of a built-in command succeeds as the command does. -/
theorem ok_of_andThen_executed {ending : Ending ω Unit} {outcome : Outcome}
    (h : (ending.andThen executed).1 = .ok outcome) : ending.1 = .ok () := by
  obtain ⟨_ | _, t⟩ := ending
  · cases h
  · rfl

theorem executeWith_heap_elsewhere (nested : String → Session ω → Ending ω Unit)
    {tokens : List Token} {s : Session ω}
    (hplace : ∀ command, s.destination tokens ≠ .builtIn command) :
    (executeWith nested tokens s).2.heap = s.callHeap tokens := by
  have hdoes := executeWith_does nested tokens s
  generalize executeWith nested tokens s = ending at hdoes
  cases hdoes with
  | elsewhere journal _ hresult => rfl
  | malformed journal hbuiltIn hstatement => exact absurd hbuiltIn (hplace _)
  | builtIn journal hbuiltIn hstatement => exact absurd hbuiltIn (hplace _)

/-- A statement of a built-in command that succeeds has enough operands, and makes its variables
of those that it finds. -/
theorem executeWith_builtIn_of_ok {nested : String → Session ω → Ending ω Unit}
    {tokens : List Token} {s : Session ω} {command : Keyword} {outcome : Outcome}
    (hplace : s.destination tokens = .builtIn command) (hrun : command ≠ .run)
    (h : (executeWith nested tokens s).1 = .ok outcome) :
    ∃ statement, Statement.ofOperands command (operands tokens) = .ok statement ∧
      (executeWith nested tokens s).2.heap = statement.variablesAfter s ∧
      ∀ target, statement.target? = some target →
        (∃ value, statement.value? s = some value) ∨
          ∃ function arguments, statement = .call function arguments target ∧
            (s.registry.call s.heap function (arguments.map s.resolve)).result = .ok none := by
  have hdestination : s.destination tokens ≠ .builtIn .run := by
    rw [hplace]
    exact fun h => hrun (Destination.builtIn.inj h)
  have hdoes := executeWith_does nested tokens s
  generalize executeWith nested tokens s = ending at hdoes h ⊢
  cases hdoes with
  | elsewhere journal hother hresult => exact absurd hplace (hother command)
  | malformed journal hother hstatement => cases h
  | builtIn journal hother hstatement =>
    cases hplace.symm.trans hother
    have hok := ok_of_andThen_executed h
    have hleaves := perform_leaves nested _ (ne_run_of_destination hdestination hplace hstatement)
      { s with journal := journal }
    rw [snd_andThen_executed]
    refine ⟨_, hstatement, hleaves.heap_of_ok hok, fun target htarget => ?_⟩
    exact value?_of_ok htarget { s with journal := journal } hok

/-- **A statement touches its own target.**  Unless it runs a script, a statement that succeeds
binds the variable that its command has for a target and no other, to a value that it computed
from the state that it found.  The variable reads as this value then.  Operations are taken to
change no store. -/
theorem succeeding_statement_touches_own_target (s : Session ω) (tokens : List Token)
    (hleaves : s.registry.LeavesStores) (hrun : s.destination tokens ≠ .builtIn .run)
    (outcome : Outcome) (h : (s.execute tokens).1 = .ok outcome) :
    s.TouchesOwnTarget tokens (s.execute tokens).2 := by
  have hframe : Frame (s.destination tokens) (s.childText tokens) s (s.execute tokens).2 :=
    executeWith_frame _ tokens s hrun
  have hcommand (command : Keyword) (hplace : s.destination tokens = .builtIn command) :
      command ≠ .run := by
    rintro rfl
    exact hrun hplace
  refine ⟨hframe, fun hplace => ?_, ?_, ?_, ?_⟩
  · exact (executeWith_heap_elsewhere _ hplace).trans (callHeap_eq hleaves tokens)
  · intro command hquiet hplace
    obtain ⟨statement, hstatement, hheap, -⟩ :=
      executeWith_builtIn_of_ok hplace (hcommand command hplace) h
    exact hheap.trans (Statement.variablesAfter_of_quiet hleaves hstatement hquiet)
  · intro hplace
    obtain ⟨statement, hstatement, hheap, -⟩ :=
      executeWith_builtIn_of_ok hplace (hcommand .clear hplace) h
    have hclear := hheap.trans (Statement.variablesAfter_clear hstatement)
    refine ⟨hclear, fun name => ?_, fun other hother name => ?_⟩
    · rw [hframe.own, show (s.execute tokens).2.heap = _ from hclear, Heap.get?_clear]
    · rw [show (s.execute tokens).2.heap = _ from hclear, Heap.get?_clear_of_ne name hother.symm]
  · intro command hquiet hclear hplace
    obtain ⟨statement, hstatement, hheap, hvalue⟩ :=
      executeWith_builtIn_of_ok hplace (hcommand command hplace) h
    obtain ⟨target, htarget⟩ := Statement.exists_target (Statement.mem_commands hstatement) hquiet
      hclear (hcommand command hplace)
    refine ⟨statement, target, hstatement, (Statement.targetOf_eq hstatement).trans htarget, ?_⟩
    rcases hvalue target htarget with ⟨value, hvalue⟩ | ⟨function, arguments, rfl, hresult⟩
    · have hset := hheap.trans (Statement.variablesAfter_of_value htarget hvalue)
      rw [Statement.callHeap_eq hleaves] at hset
      refine .inl ⟨value, hvalue, ?_⟩
      rw [show (s.execute tokens).2.heap = _ from hset]
      exact s.heap.rebinds_set s.own target value
    · have hnone : (Statement.call function arguments target).value? s = none := by
        rw [Statement.value?, hresult]
        rfl
      have hcall := List.mem_singleton.mp (Statement.mem_commands hstatement)
      have hsame := hheap.trans (Statement.variablesAfter_of_no_value (by simp) hnone)
      rw [Statement.callHeap_eq hleaves] at hsame
      exact .inr ⟨function, arguments, hcall, rfl, hresult, hsame⟩

end Session

open Session in
/-- The variable that JOIN binds can be both of its operands. -/
theorem succeeding_statement_touches_own_target_of_join :
    let s := (start Host.ofTable ⟨[], []⟩).bind "m" (.text "a")
    let tokens : List Token :=
      [⟨.keyword, "JOIN"⟩, ⟨.identifier, "m"⟩, ⟨.identifier, "m"⟩, ⟨.identifier, "m"⟩]
    (s.execute tokens).1 = .ok .executed ∧ s.TouchesOwnTarget tokens (s.execute tokens).2 ∧
      (s.execute tokens).2.heap.get? s.own "m" = some (.text "aa") := by
  intro s tokens
  have hplace : s.destination tokens = .builtIn .join := by
    have hname : Keyword.ofName? "JOIN" = some .join := by decide
    have hfree : s.registry.contains "JOIN" = false := by simp [s, start, Session.bind]
    simp [tokens, destination, hfree, hname]
  have hok : (s.execute tokens).1 = .ok .executed := by
    unfold execute
    rw [executeWith_eq, hplace]
    rfl
  have htouches := succeeding_statement_touches_own_target s tokens Registry.leavesStores_empty
    (by rw [hplace]; decide) .executed hok
  obtain ⟨statement, target, hstatement, htarget, hbound⟩ :=
    htouches.bound .join (by decide) (by decide) hplace
  obtain rfl : "m" = target := Option.some.inj htarget
  cases Statement.reads_of_ofOperands hstatement
  rcases hbound with ⟨value, hvalue, hrebinds⟩ | ⟨-, -, hcall, -⟩
  · obtain rfl : .text "aa" = value := Option.some.inj hvalue
    exact ⟨hok, htouches, hrebinds.reads (by decide)⟩
  · cases hcall

end LineScript
