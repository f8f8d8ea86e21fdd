import LineScript.Proofs.Effects
import LineScript.Proofs.Spacing

/-!
What a statement that fails leaves behind.

A statement computes before it binds, so one that fails has bound nothing
(`failed_statement_changes_no_variable`).  What it can have done before is to register the
operations of a unit that then fails, or to show the prompt of INPUT and take a line that is no
text.

RUN is the exception: the statements of a script that were run before the one that failed have
taken effect, and the fault of that one, whatever its kind, is the fault of the RUN
(`nestedRun_of_scan_fault`).
-/

namespace LineScript

variable {ω : Type}

namespace Session

/-! ## What may have been done before a fault -/

/-- The unit can be found, but fails. -/
def ImportFails (s : Session ω) (token : String) : Prop :=
  ∃ name unit reason, unquoted? token = some name ∧ s.catalog.lookup name = some unit ∧
    unit.failure = some reason

/-- An import that fails registers nothing, unless it is the unit that fails. -/
theorem importUnit_registry_of_error {s : Session ω} {token : String} {fault : Fault}
    (h : (s.importUnit token).1 = .error fault) :
    (s.importUnit token).2.registry = s.registry ∨ s.ImportFails token := by
  unfold importUnit at h ⊢
  cases hname : unquoted? token with
  | none => exact .inl rfl
  | some name =>
    simp only [hname] at h ⊢
    cases hunit : s.catalog.lookup name with
    | none => exact .inl rfl
    | some unit =>
      simp only [hunit] at h ⊢
      cases hreason : unit.failure with
      | none => simp [hreason] at h
      | some reason => exact .inr ⟨name, unit, reason, hname, hunit, hreason⟩

/-- INPUT reads nothing before its prompt is written and flushed. -/
theorem ask_input (s : Session ω) (prompt target : String) :
    (s.ask prompt target).2.console.input = s.console.input ∨ s.ShowsPrompt prompt := by
  have hends := s.askEnds prompt target
  generalize s.ask prompt target = ending at hends ⊢
  cases hends with
  | refused cause => exact .inl rfl
  | notFlushed cause => exact .inl rfl
  | unread hshown hline => exact .inr hshown
  | read hshown hline => exact .inr hshown

end Session

/-! ## Faults that statements do not have of themselves -/

/-- Only scanning a line, or running a script, gives these. -/
def Fault.isOfRun : Fault → Bool
  | lex _ | nestingTooDeep _ => true
  | _ => false

/-- Only these are faults of a statement that has its operands and runs no script. -/
def Fault.isOfStatement : Fault → Bool
  | lex _ | nestingTooDeep _ | missingOperands _ _ | missingResult => false
  | _ => true

section

variable {fault : Fault}

theorem isOfRun_of_isOfStatement (h : fault.isOfStatement = true) : fault.isOfRun = false := by
  cases fault with
  | lex | nestingTooDeep => cases h
  | _ => rfl

theorem isOfRun_of_ofOperands {command : Keyword} {given : List String}
    (h : Statement.ofOperands command given = .error fault) : fault.isOfRun = false := by
  rcases Statement.fault_of_ofOperands h with ⟨fields, rfl⟩ | ⟨-, rfl⟩
  · rfl
  · rfl

theorem isOfStatement_of_numberFor {command : Keyword} {value : Value}
    (h : numberFor command value = .error fault) : fault.isOfStatement = true := by
  unfold numberFor at h
  split at h
  all_goals cases h
  rfl

theorem isOfStatement_of_numberOf {value : Value} (h : numberOf value = .error fault) :
    fault.isOfStatement = true := by
  unfold numberOf at h
  repeat' split at h
  all_goals cases h
  all_goals rfl

theorem BinaryFunction.isOfStatement_of_apply {f : BinaryFunction} {a b : Float}
    (h : f.apply a b = .error fault) : fault.isOfStatement = true := by
  unfold apply at h
  repeat' split at h
  all_goals cases h
  rfl

theorem UnaryFunction.isOfStatement_of_apply {f : UnaryFunction} {x : Float}
    (h : f.apply x = .error fault) : fault.isOfStatement = true := by
  unfold apply at h
  repeat' split at h
  all_goals cases h
  rfl

/-- A fault of two computations in order is one of the first or of the second. -/
theorem isOfStatement_of_bind {α β : Type} {first : Except Fault α} {next : α → Except Fault β}
    (hfirst : first = .error fault → fault.isOfStatement = true)
    (hnext : ∀ a, next a = .error fault → fault.isOfStatement = true)
    (h : first >>= next = .error fault) : fault.isOfStatement = true := by
  cases first with
  | error other => exact hfirst (congrArg Except.error (Except.error.inj h))
  | ok a => exact hnext a h

theorem Expression.isOfStatement_of_evaluate {expression : Expression} {heap : Heap}
    {own : StoreId} (h : expression.evaluate heap own = .error fault) :
    fault.isOfStatement = true := by
  cases expression with
  | binary f left right =>
    exact isOfStatement_of_bind isOfStatement_of_numberFor (fun a =>
      isOfStatement_of_bind isOfStatement_of_numberFor fun b =>
        isOfStatement_of_bind f.isOfStatement_of_apply fun _ => by simp [pure, Except.pure]) h
  | unary f token =>
    exact isOfStatement_of_bind isOfStatement_of_numberFor (fun x =>
      isOfStatement_of_bind f.isOfStatement_of_apply fun _ => by simp [pure, Except.pure]) h
  | numberOf name =>
    exact isOfStatement_of_bind isOfStatement_of_numberOf (fun _ => by simp [pure, Except.pure]) h
  | operand token => cases h
  | join left right => cases h
  | textOf name => cases h
  | ownStore => cases h

end

namespace Session

variable {fault : Fault}

theorem isOfStatement_of_checkBounds {low high : Value} (h : checkBounds low high = .error fault) :
    fault.isOfStatement = true := by
  unfold checkBounds at h
  repeat' split at h
  all_goals cases h
  all_goals rfl

theorem isOfStatement_of_checkDuration {seconds : Float}
    (h : checkDuration seconds = .error fault) : fault.isOfStatement = true := by
  unfold checkDuration at h
  repeat' split at h
  all_goals cases h
  all_goals rfl

theorem isOfStatement_of_perform {nested : String → Session ω → Ending ω Unit}
    {statement : Statement} (hrun : ∀ file, statement ≠ .run file) (s : Session ω)
    (h : (perform nested statement s).1 = .error fault) : fault.isOfStatement = true := by
  cases statement with
  | assign target expression =>
    simp only [perform, assign] at h
    split at h
    · cases h
    · next other hvalue =>
      cases h
      exact expression.isOfStatement_of_evaluate hvalue
  | call function arguments target =>
    simp only [perform, callInto, call] at h
    split at h
    · simp only [Ending.andThen_ok] at h
      split at h <;> cases h
    · cases h
      rfl
  | random low high target =>
    simp only [perform, drawInto] at h
    split at h
    · next other hbounds =>
      cases h
      exact isOfStatement_of_checkBounds hbounds
    · split at h <;> cases h
  | print token =>
    simp only [perform, print, write] at h
    split at h
    all_goals cases h
    rfl
  | input prompt target =>
    have hends := s.askEnds prompt target
    simp only [perform] at h
    generalize s.ask prompt target = ending at hends h
    cases hends
    all_goals cases h
    all_goals rfl
  | wait token =>
    simp only [perform, wait] at h
    split at h
    · next other hseconds =>
      cases h
      exact isOfStatement_of_numberFor hseconds
    · exact isOfStatement_of_checkDuration h
  | clear => cases h
  | run file => exact absurd rfl (hrun file)
  | execCommand command =>
    simp only [perform, issue] at h
    split at h
    all_goals cases h
    rfl
  | importUnit token =>
    simp only [perform, importUnit] at h
    repeat' split at h
    all_goals cases h
    all_goals rfl

/-- A statement of a built-in command fails as the command does. -/
theorem error_of_andThen_executed {ending : Ending ω Unit} {fault : Fault}
    (h : (ending.andThen executed).1 = .error fault) : ending.1 = .error fault := by
  obtain ⟨_ | _, t⟩ := ending
  · exact congrArg Except.error (Except.error.inj h)
  · cases h

/-- A statement that asks for no script has faults of its own only. -/
theorem isOfRun_of_executeWith {nested : String → Session ω → Ending ω Unit} {tokens : List Token}
    {s : Session ω} (hasks : s.asks? tokens = none)
    (h : (executeWith nested tokens s).1 = .error fault) : fault.isOfRun = false := by
  have hdoes := executeWith_does nested tokens s
  generalize executeWith nested tokens s = ending at hdoes h
  cases hdoes with
  | elsewhere journal hplace hresult =>
    obtain ⟨name, cause, rfl⟩ := hresult _ h
    rfl
  | malformed journal hplace hstatement =>
    cases h
    exact isOfRun_of_ofOperands hstatement
  | builtIn journal hplace hstatement =>
    exact isOfRun_of_isOfStatement (isOfStatement_of_perform
      (ne_run_of_asks_eq_none hasks hplace hstatement) _ (error_of_andThen_executed h))

theorem executeWith_ne_lex (nested : String → Session ω → Ending ω Unit) (tokens : List Token)
    (s : Session ω) (hrun : s.destination tokens ≠ .builtIn .run) (e : LexError) :
    (executeWith nested tokens s).1 ≠ .error (.lex e) := by
  have hasks : s.asks? tokens = none :=
    Option.eq_none_iff_forall_ne_some.mpr fun _ hasks => hrun (destination_of_asks hasks)
  intro h
  cases isOfRun_of_executeWith hasks h

/-! ## Failing statements -/

/-- What a statement leaves when it fails, `t` being the state then. -/
structure Spares (s : Session ω) (tokens : List Token) (t : Session ω) : Prop where
  /-- An operation that it called may have changed stores, but nothing else did. -/
  called : t.heap = s.callHeap tokens
  heap : s.registry.LeavesStores → t.heap = s.heap
  own : t.own = s.own
  depth : t.depth = s.depth
  /-- A unit that fails has registered its operations. -/
  registry : t.registry = s.registry ∨ ∃ unit more,
    s.destination tokens = .builtIn .importUnit ∧ operands tokens = unit :: more ∧
      s.ImportFails unit
  /-- INPUT takes a line once its prompt is shown, and can fail with that line taken. -/
  input : t.console.input = s.console.input ∨ ∃ prompt more,
    s.destination tokens = .builtIn .input ∧ operands tokens = prompt :: more ∧
      s.ShowsPrompt prompt
  /-- Nothing is written but what a child process writes to a console that it shares. -/
  output : s.destination tokens ≠ .builtIn .print → s.destination tokens ≠ .builtIn .input →
    t.console.output = s.console.output.write (s.childText tokens).toUTF8

section

variable {nested : String → Session ω → Ending ω Unit} {tokens : List Token} {s : Session ω}
  {fault : Fault}

theorem executeWith_heap_of_error (hrun : s.destination tokens ≠ .builtIn .run)
    (h : (executeWith nested tokens s).1 = .error fault) :
    (executeWith nested tokens s).2.heap = s.callHeap tokens := by
  have hdoes := executeWith_does nested tokens s
  generalize executeWith nested tokens s = ending at hdoes h ⊢
  cases hdoes with
  | elsewhere journal hplace hresult => rfl
  | malformed journal hplace hstatement => simp only [callHeap, hplace, hstatement]
  | @builtIn command statement journal hplace hstatement =>
    have hleaves := perform_leaves nested statement
      (ne_run_of_destination hrun hplace hstatement) { s with journal := journal }
    rw [snd_andThen_executed, callHeap_of_builtIn hplace hstatement]
    exact hleaves.heap_of_error (error_of_andThen_executed h)

theorem executeWith_registry_of_error (hplace : s.destination tokens = .builtIn .importUnit)
    (h : (executeWith nested tokens s).1 = .error fault) :
    (executeWith nested tokens s).2.registry = s.registry ∨
      ∃ unit more, operands tokens = unit :: more ∧ s.ImportFails unit := by
  have hdoes := executeWith_does nested tokens s
  generalize executeWith nested tokens s = ending at hdoes h ⊢
  cases hdoes with
  | elsewhere journal _ hresult => exact .inl rfl
  | malformed journal _ hstatement => exact .inl rfl
  | builtIn journal hplace' hstatement =>
    cases hplace.symm.trans hplace'
    obtain ⟨unit, more, hgiven, rfl⟩ := Statement.ofOperands_importUnit hstatement
    rw [snd_andThen_executed]
    refine (importUnit_registry_of_error (error_of_andThen_executed h)).imp id fun hfails => ?_
    exact ⟨unit, more, hgiven, hfails⟩

theorem executeWith_input (hplace : s.destination tokens = .builtIn .input) :
    (executeWith nested tokens s).2.console.input = s.console.input ∨
      ∃ prompt more, operands tokens = prompt :: more ∧ s.ShowsPrompt prompt := by
  have hdoes := executeWith_does nested tokens s
  generalize executeWith nested tokens s = ending at hdoes ⊢
  cases hdoes with
  | elsewhere journal _ hresult => exact .inl rfl
  | malformed journal _ hstatement => exact .inl rfl
  | builtIn journal hplace' hstatement =>
    cases hplace.symm.trans hplace'
    obtain ⟨prompt, target, more, hgiven, rfl⟩ := Statement.ofOperands_input hstatement
    rw [snd_andThen_executed]
    refine (ask_input _ prompt target).imp id fun hshown => ?_
    exact ⟨prompt, target :: more, hgiven, hshown⟩

end

theorem execute_spares (tokens : List Token) (s : Session ω)
    (hrun : s.destination tokens ≠ .builtIn .run) {fault : Fault}
    (h : (s.execute tokens).1 = .error fault) : s.Spares tokens (s.execute tokens).2 := by
  have hframe : Frame _ _ s (s.execute tokens).2 := executeWith_frame _ tokens s hrun
  have hcalled : (s.execute tokens).2.heap = s.callHeap tokens := executeWith_heap_of_error hrun h
  refine ⟨hcalled, fun hleaves => hcalled.trans (callHeap_eq hleaves tokens), hframe.own,
    (later_execute tokens s).depth, ?_, ?_, ?_⟩
  · by_cases hplace : s.destination tokens = .builtIn .importUnit
    · refine (executeWith_registry_of_error hplace h).imp id ?_
      rintro ⟨unit, more, hgiven, hfails⟩
      exact ⟨unit, more, hplace, hgiven, hfails⟩
    · exact .inl (hframe.registry hplace)
  · by_cases hplace : s.destination tokens = .builtIn .input
    · refine (executeWith_input hplace).imp id ?_
      rintro ⟨prompt, more, hgiven, hshown⟩
      exact ⟨prompt, more, hplace, hgiven, hshown⟩
    · exact .inl (hframe.input hplace)
  · intro hprint hinput
    obtain ⟨text, houtput, htext⟩ := hframe.output
    rw [houtput, htext hprint hinput]

theorem runLine_of_scan_fault {line : String} {e : LexError} (s : Session ω)
    (hline : tokenize line = .error e) : s.runLine line = (.error (.lex e), s) := by
  simp only [runLine, runLineWith, hline]

/-- **A statement that fails changes no variable.**  A line that fails by a scanning fault leaves
no trace at all, and a statement that fails leaves what `Spares` says, unless it is a RUN. -/
theorem failed_statement_changes_no_variable (s : Session ω) :
    (∀ line e, (s.runLine line).1 = .error (.lex e) →
      (∀ tokens, tokenize line = .ok tokens → s.destination tokens ≠ .builtIn .run) →
        (s.runLine line).2 = s) ∧
    (∀ tokens fault, (s.execute tokens).1 = .error fault →
      s.destination tokens ≠ .builtIn .run → s.Spares tokens (s.execute tokens).2) := by
  refine ⟨fun line e h hrun => ?_, fun tokens fault h hrun => execute_spares tokens s hrun h⟩
  cases hline : tokenize line with
  | error e' => rw [runLine_of_scan_fault s hline]
  | ok tokens =>
    -- the fault would be one of the statement, which has none of this kind
    unfold runLine at h
    rw [runLineWith_of_tokens _ _ _ _ hline] at h
    have hnoted : (s.note (.scanned tokens)).destination tokens ≠ .builtIn .run :=
      hrun tokens hline
    exact absurd h (executeWith_ne_lex _ tokens _ hnoted e)

end Session

theorem tokenize_semicolon : tokenize ";" = .error ⟨';', 0⟩ := by
  cbv

open Session in
/-- A character that begins no token, and a sum with a text that is no number. -/
theorem failed_statement_changes_no_variable_of_sum :
    let s := (start Host.ofTable ⟨[], []⟩).bind "x" (.text "kept")
    let tokens : List Token :=
      [⟨.keyword, "ADD"⟩, ⟨.string, "\"a\""⟩, ⟨.number, "1"⟩, ⟨.identifier, "x"⟩]
    (s.runLine ";").2 = s ∧ (s.execute tokens).1 = .error (.notANumber .add "string") ∧
      s.Spares tokens (s.execute tokens).2 := by
  intro s tokens
  have hplace : s.destination tokens = .builtIn .add := by
    have hname : Keyword.ofName? "ADD" = some .add := by decide
    have hfree : s.registry.contains "ADD" = false := by simp [s, start, Session.bind]
    simp [tokens, destination, hfree, hname]
  have hstatement : Statement.ofOperands .add (operands tokens) =
      .ok (.assign "x" (.binary .add "\"a\"" "1")) :=
    Statement.ofOperands_of_reads (.add _ _ _ [])
  have hfault : (s.execute tokens).1 = .error (.notANumber .add "string") := by
    obtain ⟨journal, hperform⟩ := executeWith_of_builtIn (nestedRun s.room) hplace hstatement
    unfold execute
    rw [hperform]
    rfl
  have hmain := failed_statement_changes_no_variable s
  refine ⟨hmain.1 ";" ⟨';', 0⟩ ?_ ?_, hfault, hmain.2 tokens _ hfault ?_⟩
  · rw [runLine_of_scan_fault s tokenize_semicolon]
  · intro tokens htokens
    rw [tokenize_semicolon] at htokens
    cases htokens
  · rw [hplace]
    decide

/-! ## Scripts that fail -/

namespace Session

/-- A script fails as the first of its lines that fails. -/
theorem nestedRun_of_error {s t u : Session ω} {places : Nat} {text line : String} {fault : Fault}
    {before behind : List String} (hlines : Text.lines text = before ++ line :: behind)
    (hbefore : runLinesWith (nestedRun places) before s.enter = (.ok (), t))
    (hblank : Text.isBlank line = false)
    (hline : runLineWith (nestedRun places) line t = (.error fault, u)) :
    nestedRun (places + 1) text s = (.error fault, u.leave) := by
  rw [nestedRun, hlines, runLinesWith_append, hbefore, Ending.andThen_ok, runLinesWith, hblank,
    if_neg (by simp), hline]
  rfl

/-- The lines of a script in front of one that cannot be scanned have been run. -/
theorem nestedRun_of_scan_fault {s t : Session ω} {places : Nat} {text line : String}
    {before behind : List String} {e : LexError}
    (hlines : Text.lines text = before ++ line :: behind)
    (hbefore : runLinesWith (nestedRun places) before s.enter = (.ok (), t))
    (hblank : Text.isBlank line = false) (hline : tokenize line = .error e) :
    nestedRun (places + 1) text s = (.error (.lex e), t.leave) :=
  nestedRun_of_error hlines hbefore hblank (by simp only [runLineWith, hline])

theorem runLineWith_builtIn (nested : String → Session ω → Ending ω Unit) {line : String}
    {head : Token} {rest : List Token} {command : Keyword} (s : Session ω)
    (htokens : tokenize line = .ok (head :: rest))
    (hfree : s.registry.contains head.text = false)
    (hcommand : Keyword.ofName? head.text = some command) :
    runLineWith nested line s =
      (runBuiltIn nested command (rest.map (·.text))
        (s.note (.scanned (head :: rest)))).andThen executed := by
  have hplace : (s.note (.scanned (head :: rest))).destination (head :: rest) =
      .builtIn command := by
    have hnoted : (s.note (.scanned (head :: rest))).registry.contains head.text = false := hfree
    simp [destination, hnoted, hcommand]
  rw [runLineWith_of_tokens _ _ _ _ htokens, executeWith_eq, hplace]
  rfl

/-- An interpreter with a variable, and with a script that removes it and then cannot be scanned. -/
def withBrokenScript : Session HostTable :=
  (start Host.ofTable ⟨[("lib", "CLEAR\n;")], []⟩).bind "x" (.text "a")

set_option maxRecDepth 20000 in
/-- A line that fails by a scanning fault need not leave the variables alone: the fault can be that
of a script. -/
theorem scan_fault_of_script_changes_variables :
    (withBrokenScript.runLine "RUN \"lib\"").1 = .error (.lex ⟨';', 0⟩) ∧
      withBrokenScript.heap.get? withBrokenScript.own "x" = some (.text "a") ∧
      (withBrokenScript.runLine "RUN \"lib\"").2.heap.get? withBrokenScript.own "x" = none := by
  have hrun : tokenize "RUN \"lib\"" = .ok [⟨.keyword, "RUN"⟩, ⟨.string, "\"lib\""⟩] :=
    tokenize_quotedLine .run "lib" (by decide) (by decide)
  have hclear : tokenize "CLEAR" = .ok [⟨.keyword, "CLEAR"⟩] := by cbv
  have hlines : Text.lines "CLEAR\n;" = ["CLEAR"] ++ ";" :: [] := rfl
  have hblank : Text.isBlank "CLEAR" = false ∧ Text.isBlank ";" = false := ⟨rfl, rfl⟩
  have hfree (name : String) : withBrokenScript.registry.contains name = false := by
    simp [withBrokenScript, start, Session.bind]
  -- the script is read, and its first line is run
  obtain ⟨u, hnested, hregistry, hown⟩ : ∃ u : Session HostTable,
      withBrokenScript.runLine "RUN \"lib\"" = (nestedRun 64 "CLEAR\n;" u).andThen executed ∧
        u.registry = withBrokenScript.registry ∧ u.own = withBrokenScript.own := by
    have hname : Keyword.ofName? "RUN" = some .run := by decide
    unfold runLine
    rw [runLineWith_builtIn _ _ hrun (hfree "RUN") hname]
    exact ⟨_, rfl, rfl, rfl⟩
  obtain ⟨t, hbefore, hcleared⟩ : ∃ t, runLinesWith (nestedRun 63) ["CLEAR"] u.enter = (.ok (), t) ∧
      t.heap = u.heap.clear u.own := by
    have hname : Keyword.ofName? "CLEAR" = some .clear := by decide
    have hfree' : u.enter.registry.contains "CLEAR" = false := by
      show u.registry.contains "CLEAR" = false
      rw [hregistry, hfree]
    rw [runLinesWith, hblank.1, runLineWith_builtIn _ _ hclear hfree' hname]
    exact ⟨_, rfl, rfl⟩
  rw [hnested, nestedRun_of_scan_fault hlines hbefore hblank.2 tokenize_semicolon]
  refine ⟨rfl, ?_, ?_⟩
  · unfold withBrokenScript Session.bind
    rw [Heap.get?_set, if_pos ⟨rfl, rfl, by decide⟩]
  · show t.heap.get? withBrokenScript.own "x" = none
    rw [hcleared, hown, Heap.get?_clear]

end Session

end LineScript
