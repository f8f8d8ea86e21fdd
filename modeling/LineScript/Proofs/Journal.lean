import LineScript.Proofs.Later

/-!
What a statement writes into the journal, apart from running scripts.

Main statement: the events of a statement that asks for no script all belong to its tokens
(`executeWith_adds`).  The host is given a command line by EXECCMD alone, and that is the second
token without its quotes; the one built-in command that is performed is named by the first token.
-/

namespace LineScript

/-- The events that a statement of a built-in command may write down, if it is no RUN. -/
def Event.OfStatement (statement : Statement) : Event → Prop
  | .noResult _ _ | .registered _ _ _ | .applied _ | .imported _ | .hostNote _
  | .commandFinished _ _ => True
  | .commandIssued command =>
    ∃ operand, statement = .execCommand operand ∧ command = unquote operand
  | _ => False

/-- The events that the statement of these tokens may write down, if it asks for no script. -/
def Event.OfTokens (tokens : List Token) : Event → Prop
  | .scanned _ | .scriptRequested _ | .entered _ => False
  | .performed command => ∃ head rest, tokens = head :: rest ∧ head.text = command.name
  | .commandIssued command => ∃ head operand more, tokens = head :: operand :: more ∧
      head.text = Keyword.execCommand.name ∧ command = unquote operand.text
  | _ => True

namespace Session

variable {ω : Type}

/-- Everything that was written down from `s` to `t` is of this kind. -/
def Adds (P : Event → Prop) (s t : Session ω) : Prop :=
  ∃ added, t.journal = added ++ s.journal ∧ ∀ event ∈ added, P event

namespace Adds

variable {P Q : Event → Prop} {s t u : Session ω}

theorem of_journal_eq (h : t.journal = s.journal) : Adds P s t :=
  ⟨[], h, by simp⟩

theorem note {event : Event} (h : P event) : Adds P s (s.note event) :=
  ⟨[event], rfl, by simpa using h⟩

theorem trans (hst : Adds P s t) (htu : Adds P t u) : Adds P s u := by
  obtain ⟨first, ef, hf⟩ := hst
  obtain ⟨second, es, hs⟩ := htu
  refine ⟨second ++ first, by rw [es, ef, List.append_assoc], fun event he => ?_⟩
  rcases List.mem_append.mp he with he | he
  · exact hs event he
  · exact hf event he

theorem mono (h : Adds P s t) (hPQ : ∀ event, P event → Q event) : Adds Q s t := by
  obtain ⟨added, e, ha⟩ := h
  exact ⟨added, e, fun event he => hPQ event (ha event he)⟩

theorem andThen {α β : Type} {ending : Ending ω α} {next : α → Session ω → Ending ω β}
    (h : Adds P s ending.2) (hn : ∀ value t, Adds P t (next value t).2) :
    Adds P s (ending.andThen next).2 := by
  obtain ⟨_ | value, t⟩ := ending
  · exact h
  · exact h.trans (hn value t)

end Adds

/-! ## Steps -/

theorem call_adds (P : Event → Prop) (hP : ∀ application, P (.applied application))
    (s : Session ω) (function : String) (arguments : List Value) :
    Adds P s (s.call function arguments).2 := by
  have h : Adds P s (s.noteAll
      ((s.registry.call s.heap function arguments).applications.map .applied)) := by
    refine ⟨_, rfl, fun event he => ?_⟩
    obtain ⟨application, -, rfl⟩ := List.mem_map.mp (List.mem_reverse.mp he)
    exact hP application
  unfold call
  dsimp only
  split <;> exact h

theorem write_journal (s : Session ω) (text : String) : (s.write text).2.journal = s.journal := by
  rw [write_eq]

theorem flush_journal (s : Session ω) : s.flush.2.journal = s.journal := by
  rw [flush_eq]

theorem readLine_journal (s : Session ω) : s.readLine.2.journal = s.journal := by
  rw [readLine_eq]

theorem receive_adds {α : Type} (P : Event → Prop) (hP : ∀ text, P (.hostNote text))
    (s : Session ω) (reply : Reply ω α) : Adds P s (s.receive reply) := by
  refine ⟨(reply.notes.map .hostNote).reverse, rfl, fun event he => ?_⟩
  obtain ⟨text, -, rfl⟩ := List.mem_map.mp (List.mem_reverse.mp he)
  exact hP text

theorem readScript_adds (P : Event → Prop) (hP : ∀ text, P (.hostNote text)) (s : Session ω)
    (name : String) (hname : P (.scriptRequested name)) : Adds P s (s.readScript name).2 := by
  have h := (Adds.note (s := s) hname).trans
    (receive_adds P hP _ (s.host.readScript name s.world))
  unfold readScript
  dsimp only
  split <;> exact h

theorem readScript_journal (s : Session ω) (name : String) :
    (s.readScript name).2.journal =
      ((s.host.readScript name s.world).notes.map Event.hostNote).reverse ++
        .scriptRequested name :: s.journal := by
  unfold readScript
  dsimp only
  split <;> rfl

theorem issue_adds (P : Event → Prop) (hP : ∀ text, P (.hostNote text)) (s : Session ω)
    (command : String) (hcommand : P (.commandIssued command)) : Adds P s (s.issue command).2 := by
  have h := (Adds.note (s := s) hcommand).trans
    (receive_adds P hP _ (s.host.execute command s.world))
  unfold issue
  dsimp only
  split <;> exact h

theorem noteSurplus_adds (P : Event → Prop) (s : Session ω) (command : Keyword)
    (given : List String) (hP : ∀ operands, P (.extraOperands command operands)) :
    Adds P s (s.noteSurplus command given) := by
  unfold noteSurplus
  dsimp only
  split
  · exact .of_journal_eq rfl
  · exact .note (hP _)

/-! ## Statements -/

theorem importUnit_adds (P : Event → Prop)
    (hregistered : ∀ name arity replaced, P (.registered name arity replaced))
    (himported : ∀ unit, P (.imported unit)) (s : Session ω) (token : String) :
    Adds P s (s.importUnit token).2 := by
  unfold importUnit
  split
  · exact .of_journal_eq rfl
  · split
    · exact .of_journal_eq rfl
    · next unit _ =>
      have h : Adds P s (s.registerUnit unit) := by
        obtain ⟨added, hjournal, hadded⟩ := registerUnit_journal s unit
        refine ⟨added, hjournal, fun event he => ?_⟩
        obtain ⟨name, arity, replaced, rfl⟩ := hadded event he
        exact hregistered name arity replaced
      dsimp only
      split
      · exact h
      · exact h.trans (.note (himported _))

end Session

/-- All that the statement can write down, if it runs no script, is of this kind. -/
structure Statement.Writes (statement : Statement) (P : Event → Prop) : Prop where
  applied : (∃ function arguments target, statement = .call function arguments target) →
    ∀ application, P (.applied application)
  noResult : ∀ function target, P (.noResult function target)
  registered : ∀ name arity replaced, P (.registered name arity replaced)
  imported : ∀ unit, P (.imported unit)
  hostNote : ∀ text, P (.hostNote text)
  commandIssued : ∀ operand, statement = .execCommand operand →
    P (.commandIssued (unquote operand))
  commandFinished : ∀ command code, P (.commandFinished command code)

namespace Session

theorem perform_adds (nested : String → Session ω → Ending ω Unit) {statement : Statement}
    {P : Event → Prop} (h : statement.Writes P) (hrun : ∀ file, statement ≠ .run file)
    (s : Session ω) : Adds P s (perform nested statement s).2 := by
  cases statement with
  | assign target expression =>
    apply Adds.of_journal_eq
    simp only [perform, assign]
    split <;> rfl
  | call function arguments target =>
    have happlied := h.applied ⟨function, arguments, target, rfl⟩
    refine Adds.andThen (call_adds _ happlied s _ _) fun value t => ?_
    cases value with
    | some value => exact .of_journal_eq rfl
    | none => exact .note (h.noResult _ _)
  | random low high target =>
    apply Adds.of_journal_eq
    simp only [perform, drawInto]
    split
    · rfl
    · split <;> rfl
  | print token => exact .of_journal_eq (write_journal s _)
  | input prompt target =>
    exact Adds.andThen (.of_journal_eq (write_journal s _)) fun _ t =>
      Adds.andThen (.of_journal_eq (flush_journal t)) fun _ u =>
        Adds.andThen (.of_journal_eq (readLine_journal u)) fun _ v => .of_journal_eq rfl
  | wait token =>
    apply Adds.of_journal_eq
    simp only [perform, wait]
    split <;> rfl
  | clear => exact .of_journal_eq rfl
  | run file => exact absurd rfl (hrun file)
  | execCommand command =>
    exact Adds.andThen (issue_adds _ h.hostNote s _ (h.commandIssued command rfl))
      fun _ t => .note (h.commandFinished _ _)
  | importUnit token => exact importUnit_adds P h.registered h.imported s token

/-- The events of a statement are of the kinds that it may write down. -/
theorem writes_ofStatement (statement : Statement) :
    statement.Writes (Event.OfStatement statement) where
  applied _ _ := trivial
  noResult _ _ := trivial
  registered _ _ _ := trivial
  imported _ := trivial
  hostNote _ := trivial
  commandIssued operand h := ⟨operand, h, rfl⟩
  commandFinished _ _ := trivial

theorem runBuiltIn_adds (nested : String → Session ω → Ending ω Unit) (command : Keyword)
    (head : Token) (rest : List Token) (hcommand : head.text = command.name) (s : Session ω)
    (hrun : ∀ file, Statement.ofOperands command (rest.map (·.text)) ≠ .ok (.run file)) :
    Adds (Event.OfTokens (head :: rest)) s
      (runBuiltIn nested command (rest.map (·.text)) s).2 := by
  have hperformed : Event.OfTokens (head :: rest) (.performed command) :=
    ⟨head, rest, rfl, hcommand⟩
  have hs : Adds (Event.OfTokens (head :: rest)) s
      ((s.note (.performed command)).noteSurplus command (rest.map (·.text))) :=
    Adds.trans (Adds.note hperformed) (noteSurplus_adds _ _ _ _ fun _ => trivial)
  unfold runBuiltIn
  dsimp only
  split
  · next statement hstatement =>
    have hwrites := writes_ofStatement statement
    refine hs.trans ((perform_adds nested hwrites (fun file h => ?_) _).mono fun event he => ?_)
    · rw [h] at hstatement
      exact hrun file hstatement
    · cases event with
      | commandIssued line =>
        obtain ⟨operand, rfl, rfl⟩ := he
        obtain ⟨rfl, more, hgiven⟩ := Statement.ofOperands_eq_execCommand hstatement
        cases rest with
        | nil => cases hgiven
        | cons token more =>
          obtain ⟨rfl, -⟩ := List.cons.inj hgiven
          exact ⟨head, token, more, rfl, hcommand, rfl⟩
      | scanned | performed | scriptRequested | entered => exact he.elim
      | _ => trivial
  · exact hs

theorem executeWith_adds (nested : String → Session ω → Ending ω Unit) (tokens : List Token)
    (s : Session ω) (h : s.asks? tokens = none) :
    Adds (Event.OfTokens tokens) s (executeWith nested tokens s).2 := by
  cases tokens with
  | nil => exact .of_journal_eq rfl
  | cons head rest =>
    unfold executeWith
    dsimp only
    split
    · exact Adds.andThen ((Adds.note trivial).trans (call_adds _ (fun _ => trivial) _ _ _))
        fun _ t => .of_journal_eq rfl
    · next hfree =>
      split
      · next command hname =>
        exact Adds.andThen
          (runBuiltIn_adds _ command head rest (Keyword.ofName?_eq_some_iff.mp hname).symm s
            (ne_run_of_not_asks s head rest command h hfree hname))
          fun _ t => .of_journal_eq rfl
      · exact .note trivial

end Session

end LineScript
