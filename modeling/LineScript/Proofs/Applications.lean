import Mathlib.Data.List.Basic
import LineScript.Proofs.Bundled
import LineScript.Proofs.Shadowing

/-!
Applications of operations.

An operation is invoked by a statement that begins with its name, by CALL, or from outside through
the registry.  On all three ways the arguments are counted before anything is applied
(`Registry.call_answers`), so how an operation would behave on a number of arguments that it does
not accept never matters (`Operation.call_congr`).

* A CALL and a statement that begins with a registered name invoke one operation each
  (`invocation?`), and the other statements apply nothing (`executeWith_applications`).
* What was applied in the course of any moves is what their statements applied
  (`applications_of_leads`).
* The operations that come with the library find all arguments that they look for
  (`findsArguments_of_bundled`), and want one at least (`ne_nil_of_bundled`).

Main statement: `Machine.operations_see_accepted_counts`.
-/

namespace LineScript

/-! ## Calls -/

/-- What a call through the registry comes to. -/
inductive Registry.Answers (registry : Registry) (heap : Heap) (name : String)
    (arguments : List Value) : CallReport → Prop
  | unregistered (hlookup : registry.lookup name = none) :
      Answers registry heap name arguments ⟨[], .error .notRegistered, heap⟩
  | refused {operation : Operation} (hlookup : registry.lookup name = some operation)
      (hcount : operation.arity.accepts arguments.length = false) :
      Answers registry heap name arguments
        ⟨[], .error (.wrongCount operation.arity arguments.length), heap⟩
  | applied {operation : Operation} (hlookup : registry.lookup name = some operation)
      (hcount : operation.arity.accepts arguments.length = true) :
      Answers registry heap name arguments
        ⟨[⟨name, operation.origin, operation.arity, arguments⟩],
          match operation.apply heap arguments with
          | .ok value => .ok value
          | .error reason => .error (.failed reason),
          operation.effect heap arguments⟩

theorem Registry.call_answers (registry : Registry) (heap : Heap) (name : String)
    (arguments : List Value) :
    registry.Answers heap name arguments (registry.call heap name arguments) := by
  unfold call
  cases hlookup : registry.lookup name with
  | none => exact .unregistered hlookup
  | some operation =>
    dsimp only
    unfold Operation.call
    by_cases hcount : operation.arity.accepts arguments.length = true
    · rw [if_pos hcount]
      exact .applied hlookup hcount
    · rw [if_neg hcount]
      exact .refused hlookup (Bool.eq_false_iff.mpr hcount)

/-- What the function of an operation does with other numbers of arguments than it accepts is never
seen. -/
theorem Operation.call_congr {operation operation' : Operation}
    (harity : operation'.arity = operation.arity) (horigin : operation'.origin = operation.origin)
    (happly : ∀ heap arguments, operation.arity.accepts arguments.length = true →
      operation'.apply heap arguments = operation.apply heap arguments ∧
        operation'.effect heap arguments = operation.effect heap arguments)
    (name : String) (heap : Heap) (arguments : List Value) :
    operation'.call name heap arguments = operation.call name heap arguments := by
  unfold call
  rw [harity, horigin]
  by_cases hcount : operation.arity.accepts arguments.length = true
  · rw [if_pos hcount, if_pos hcount, (happly heap arguments hcount).1,
      (happly heap arguments hcount).2]
  · rw [if_neg hcount, if_neg hcount]

/-! ## The operations that come with the library -/

/-- Looking for an argument that is not there fails with this reason. -/
def missingArgument (place : Nat) : String :=
  "argument " ++ toString place ++ " is missing"

/-- The operation looks for none of these arguments in vain. -/
def Operation.FindsArguments (operation : Operation) (arguments : List Value) : Prop :=
  ∀ heap place, operation.apply heap arguments ≠ .error (missingArgument place)

/-- Without an argument it is looked for in vain. -/
example (name : String) (f : String → Value) (heap : Heap) :
    (textOperation name f).2.apply heap [] = .error (missingArgument 0) := rfl

theorem bind_ne_error {α β : Type} {first : Except String α} {next : α → Except String β}
    {reason : String} (hfirst : first ≠ .error reason) (hnext : ∀ a, next a ≠ .error reason) :
    first >>= next ≠ .error reason := by
  cases first with
  | error other => exact fun h => hfirst (congrArg Except.error (Except.error.inj h))
  | ok a => exact hnext a

theorem pure_ne_error {α : Type} (a : α) (reason : String) :
    (pure a : Except String α) ≠ .error reason := by
  intro h
  cases h

theorem ne_missingArgument {name : String} (h : name.toList.head?.any Char.isUpper = true)
    (more : String) (place : Nat) : name ++ more ≠ missingArgument place := by
  intro heq
  have hhead : name.toList.head? = some 'a' := by
    have hlists := congrArg (fun text => text.toList.head?) heq
    cases hname : name.toList with
    | nil => simp [hname] at h
    | cons first rest => simpa [hname, missingArgument] using hlists
  rw [hhead] at h
  exact absurd h (by decide)

section

variable {name : String} (hname : name.toList.head?.any Char.isUpper = true)
include hname

theorem textArgument_ne (value : Value) (place : Nat) :
    textArgument name value ≠ .error (missingArgument place) := by
  cases value with
  | text chars => simp [textArgument]
  | number x | mapping store =>
    intro h
    simp only [textArgument, String.append_assoc] at h
    exact ne_missingArgument hname _ place (Except.error.inj h)

theorem numberArgument_ne (value : Value) (place : Nat) :
    numberArgument name value ≠ .error (missingArgument place) := by
  cases value with
  | number x => simp [numberArgument]
  | text chars | mapping store =>
    intro h
    simp only [numberArgument, String.append_assoc] at h
    exact ne_missingArgument hname _ place (Except.error.inj h)

theorem foldNumbers_ne (f : Float → Float → Float) (best : Float) (arguments : List Value)
    (place : Nat) : foldNumbers name f best arguments ≠ .error (missingArgument place) := by
  induction arguments generalizing best with
  | nil => simp [foldNumbers]
  | cons value rest ih =>
    rw [foldNumbers]
    exact bind_ne_error (numberArgument_ne hname value place) fun x => ih (f best x)

theorem textOperation_findsArguments (f : String → Value) {arguments : List Value}
    (h : (textOperation name f).2.arity.accepts arguments.length = true) :
    (textOperation name f).2.FindsArguments arguments := by
  obtain ⟨value, rfl⟩ := List.length_eq_one_iff.mp (by simpa [textOperation, Arity.accepts] using h)
  intro heap place
  refine bind_ne_error (by simp [argument]) fun found => ?_
  exact bind_ne_error (textArgument_ne hname found place) fun _ => pure_ne_error _ _

end

theorem textUnit_findsArguments : ∀ entry ∈ textUnit.operations, ∀ arguments : List Value,
    entry.2.arity.accepts arguments.length = true → entry.2.FindsArguments arguments := by
  simp only [textUnit, List.forall_mem_cons]
  exact ⟨fun _ => textOperation_findsArguments (by decide) _,
    fun _ => textOperation_findsArguments (by decide) _,
    fun _ => textOperation_findsArguments (by decide) _,
    fun _ => textOperation_findsArguments (by decide) _, by simp⟩

theorem mathUnit_findsArguments : ∀ entry ∈ mathUnit.operations, ∀ arguments : List Value,
    entry.2.arity.accepts arguments.length = true → entry.2.FindsArguments arguments := by
  simp only [mathUnit, List.forall_mem_cons]
  refine ⟨?_, ?_, ?_, ?_, by simp⟩
  · intro arguments hcount heap place
    obtain ⟨x, rfl⟩ := List.length_eq_one_iff.mp (by simpa [Arity.accepts] using hcount)
    refine bind_ne_error (by simp [argument]) fun found => ?_
    exact bind_ne_error (numberArgument_ne (by decide) found place) fun _ => pure_ne_error _ _
  · intro arguments hcount heap place
    obtain ⟨x, y, rfl⟩ := List.length_eq_two.mp (by simpa [Arity.accepts] using hcount)
    refine bind_ne_error (by simp [argument]) fun first => ?_
    refine bind_ne_error (numberArgument_ne (by decide) first place) fun base => ?_
    refine bind_ne_error (by simp [argument]) fun second => ?_
    exact bind_ne_error (numberArgument_ne (by decide) second place) fun _ => pure_ne_error _ _
  all_goals
    intro arguments _ heap place
    exact bind_ne_error (foldNumbers_ne (by decide) _ _ arguments place) fun _ => pure_ne_error _ _

theorem findsArguments_of_bundled {key : String} {unit : ExtensionUnit}
    (h : Catalog.bundled.lookup key = some unit) :
    ∀ entry ∈ unit.operations, ∀ arguments : List Value,
      entry.2.arity.accepts arguments.length = true → entry.2.FindsArguments arguments := by
  rcases Catalog.eq_of_lookup_bundled h with rfl | rfl
  · exact textUnit_findsArguments
  · exact mathUnit_findsArguments

/-- Each of them wants an argument, so that the extremes have a number to begin with. -/
theorem ne_nil_of_bundled {key : String} {unit : ExtensionUnit}
    (h : Catalog.bundled.lookup key = some unit) :
    ∀ entry ∈ unit.operations, ∀ arguments : List Value,
      entry.2.arity.accepts arguments.length = true → arguments ≠ [] := by
  have hwanted : ∀ entry ∈ unit.operations, entry.2.arity.accepts 0 = false := by
    rcases Catalog.eq_of_lookup_bundled h with rfl | rfl
    · simp [textUnit, textOperation, Arity.accepts]
    · simp [mathUnit, Arity.accepts]
  rintro entry hentry arguments hcount rfl
  rw [List.length_nil, hwanted entry hentry] at hcount
  cases hcount

/-! ## What statements apply -/

variable {ω : Type}

namespace Session

/-- The name under which the statement invokes an operation, and the arguments: the texts of the
further tokens, or what the operands of a CALL stand for. -/
def invocation? (s : Session ω) (tokens : List Token) : Option (String × List Value) :=
  match s.destination tokens with
  | .operation name => some (name, (operands tokens).map .text)
  | .builtIn command =>
    match Statement.ofOperands command (operands tokens) with
    | .ok (.call function arguments _) => some (function, arguments.map s.resolve)
    | _ => none
  | .nowhere | .unknown _ => none

def applied (s : Session ω) (tokens : List Token) : List Application :=
  match s.invocation? tokens with
  | some (name, arguments) => (s.registry.call s.heap name arguments).applications
  | none => []

/-- An event that is no application. -/
def IsIdle (event : Event) : Prop :=
  event.application? = none

theorem applications_of_adds {s t : Session ω} (h : Adds IsIdle s t) :
    t.applications = s.applications := by
  obtain ⟨added, hjournal, hidle⟩ := h
  have hnone : added.reverse.filterMap Event.application? = [] :=
    List.filterMap_eq_nil_iff.mpr fun event hevent => hidle event (List.mem_reverse.mp hevent)
  rw [applications, events, hjournal, List.reverse_append, List.filterMap_append, hnone,
    List.append_nil]
  rfl

theorem call_applications (s : Session ω) (function : String) (arguments : List Value) :
    (s.call function arguments).2.applications =
      s.applications ++ (s.registry.call s.heap function arguments).applications := by
  have hnoted (made : List Application) :
      (s.noteAll (made.map .applied)).applications = s.applications ++ made := by
    have happlied : (made.map Event.applied).filterMap Event.application? = made := by
      rw [List.filterMap_map]
      exact List.filterMap_some
    simp only [applications, events, noteAll, List.reverse_append, List.reverse_reverse,
      List.filterMap_append, happlied]
  unfold call
  dsimp only
  split <;> exact hnoted _

theorem call_result (s : Session ω) (function : String) (arguments : List Value) :
    (s.call function arguments).1 =
      (s.registry.call s.heap function arguments).result.mapError (.invocation function) := by
  unfold call
  dsimp only
  cases (s.registry.call s.heap function arguments).result <;> rfl

theorem fst_andThen_ok {α β : Type} (ending : Ending ω α) (result : β) :
    (ending.andThen fun _ s => (.ok result, s)).1 = ending.1.map fun _ => result := by
  obtain ⟨_ | _, t⟩ := ending <;> rfl

theorem callInto_result (s : Session ω) (function : String) (arguments : List String)
    (target : String) :
    (s.callInto function arguments target).1 =
      (s.call function (arguments.map s.resolve)).1.map fun _ => () := by
  unfold callInto
  obtain ⟨_ | _ | value, t⟩ := s.call function (arguments.map s.resolve) <;> rfl

theorem callInto_applications (s : Session ω) (function : String) (arguments : List String)
    (target : String) :
    (s.callInto function arguments target).2.applications = s.applications ++
      (s.registry.call s.heap function (arguments.map s.resolve)).applications := by
  rw [← call_applications, callInto]
  obtain ⟨_ | _ | value, t⟩ := s.call function (arguments.map s.resolve)
  · rfl
  · exact applications_of_adds (.note rfl)
  · rfl

/-- Of the statements that run no script only CALL applies anything. -/
theorem perform_applications (nested : String → Session ω → Ending ω Unit) {statement : Statement}
    (hrun : ∀ file, statement ≠ .run file)
    (hcall : ¬ ∃ function arguments target, statement = .call function arguments target)
    (s : Session ω) : (perform nested statement s).2.applications = s.applications := by
  have hwrites : statement.Writes IsIdle :=
    ⟨fun h => absurd h hcall, fun _ _ => rfl, fun _ _ _ => rfl, fun _ => rfl, fun _ => rfl,
      fun _ _ => rfl, fun _ _ => rfl⟩
  exact applications_of_adds (perform_adds nested hwrites hrun s)

theorem runBuiltIn_applications (nested : String → Session ω → Ending ω Unit) (command : Keyword)
    (given : List String) (s : Session ω)
    (hrun : ∀ file, Statement.ofOperands command given ≠ .ok (.run file)) :
    (runBuiltIn nested command given s).2.applications = s.applications ++
      match Statement.ofOperands command given with
      | .ok (.call function arguments _) =>
        (s.registry.call s.heap function (arguments.map s.resolve)).applications
      | _ => [] := by
  have hnoted : Adds IsIdle s (s.note (.performed command)) := .note (by rfl)
  have hsurplus := applications_of_adds
    (hnoted.trans (noteSurplus_adds IsIdle _ command given fun _ => rfl))
  unfold runBuiltIn
  dsimp only
  cases hstatement : Statement.ofOperands command given with
  | error fault => rw [hsurplus, List.append_nil]
  | ok statement =>
    dsimp only
    by_cases hcall : ∃ function arguments target, statement = .call function arguments target
    · obtain ⟨function, arguments, target, rfl⟩ := hcall
      rw [perform, callInto_applications, hsurplus, noteSurplus_eq]
      rfl
    · rw [perform_applications nested (fun file h => hrun file (by rw [hstatement, h])) hcall,
        hsurplus]
      cases statement with
      | call function arguments target => exact absurd ⟨function, arguments, target, rfl⟩ hcall
      | _ => rw [List.append_nil]

/-- **Applications of a statement** that asks for no script. -/
theorem executeWith_applications (nested : String → Session ω → Ending ω Unit)
    {tokens : List Token} {s : Session ω} (hasks : s.asks? tokens = none) :
    (executeWith nested tokens s).2.applications = s.applications ++ s.applied tokens := by
  rw [executeWith_eq]
  unfold applied invocation?
  cases hplace : s.destination tokens with
  | nowhere => rw [List.append_nil]
  | unknown name =>
    rw [List.append_nil]
    exact applications_of_adds (.note rfl)
  | operation name =>
    dsimp only
    have hnoted : (s.note (.dispatched name)).applications = s.applications :=
      applications_of_adds (.note rfl)
    rw [Ending.snd_andThen_ok, call_applications, hnoted]
    rfl
  | builtIn command =>
    dsimp only
    have hrun (file : String) : Statement.ofOperands command (operands tokens) ≠ .ok (.run file) :=
      fun hstatement => ne_run_of_asks_eq_none hasks hplace hstatement file rfl
    rw [snd_andThen_executed, runBuiltIn_applications nested command _ s hrun]
    cases Statement.ofOperands command (operands tokens) with
    | error fault => rfl
    | ok statement => cases statement <;> rfl

/-- What a statement comes to that invokes an operation is what the call comes to. -/
theorem executeWith_invocation (nested : String → Session ω → Ending ω Unit)
    {tokens : List Token} {s : Session ω} {name : String} {arguments : List Value}
    (h : s.invocation? tokens = some (name, arguments)) :
    (executeWith nested tokens s).1 =
      ((s.registry.call s.heap name arguments).result.mapError (.invocation name)).map
        fun _ => .executed := by
  rw [executeWith_eq]
  unfold invocation? at h
  cases hplace : s.destination tokens with
  | nowhere | unknown => simp [hplace] at h
  | operation other =>
    simp only [hplace, Option.some.injEq, Prod.mk.injEq] at h
    obtain ⟨rfl, rfl⟩ := h
    dsimp only
    rw [fst_andThen_ok, call_result]
    rfl
  | builtIn command =>
    simp only [hplace] at h
    dsimp only
    split at h
    · next function given target hstatement =>
      obtain ⟨rfl, rfl⟩ := Prod.mk.inj (Option.some.inj h)
      unfold runBuiltIn executed
      rw [fst_andThen_ok, hstatement, noteSurplus_eq]
      dsimp only
      rw [perform, callInto_result, call_result]
      have hmap (result : Except Fault (Option Value)) :
          (result.map fun _ => ()).map (fun _ => Outcome.executed) =
            result.map fun _ => .executed := by
        cases result <;> rfl
      exact hmap _
    · cases h

theorem asks_applications {s : Session ω} {tokens : List Token} {asked : Ending ω String}
    (hasks : s.asks? tokens = some asked) : asked.2.applications = s.applications := by
  obtain ⟨head, file, more, -, -, rfl⟩ := eq_of_asks hasks
  have hperformed : Adds IsIdle s (s.note (.performed .run)) := .note (by rfl)
  exact applications_of_adds ((hperformed.trans (noteSurplus_adds IsIdle _ _ _ fun _ => rfl)).trans
    (readScript_adds IsIdle (fun _ => rfl) _ _ rfl))

/-- Asking for a script invokes nothing. -/
theorem applied_of_asks {s : Session ω} {tokens : List Token} {asked : Ending ω String}
    (hasks : s.asks? tokens = some asked) : s.applied tokens = [] := by
  obtain ⟨head, file, more, rfl, -, -⟩ := eq_of_asks hasks
  unfold applied invocation?
  rw [destination_of_asks hasks]
  rfl

theorem invocation?_of_asks {s : Session ω} {tokens : List Token} {name : String}
    {arguments : List Value} (h : s.invocation? tokens = some (name, arguments)) :
    s.asks? tokens = none := by
  refine Option.eq_none_iff_forall_ne_some.mpr fun asked hasks => ?_
  obtain ⟨head, file, more, rfl, -, -⟩ := eq_of_asks hasks
  unfold invocation? at h
  rw [destination_of_asks hasks] at h
  cases h

end Session

/-! ## What moves apply -/

def Move.applied : Move ω → List Application
  | statement found tokens => found.applied tokens
  | registration _ _ | other => []

namespace Machine

open Session

variable {m n : Machine ω} {moves : List (Move ω)}

theorem applications_of_moves {move : Move ω} (h : Moves m move n) :
    n.session.applications = m.session.applications ++ move.applied := by
  have hfind (s : Session ω) (event : Event) (hevent : IsIdle event) :
      (s.note event).applications = s.applications := applications_of_adds (.note hevent)
  cases changes_of_moves h with
  | nothing hsession => rw [hsession]; exact (List.append_nil _).symm
  | back hsession => rw [hsession]; exact (List.append_nil _).symm
  | registration hsession =>
    rw [hsession]
    exact (hfind _ (.registered _ _ _) rfl).trans (List.append_nil _).symm
  | statement k tokens hfound =>
    have hbefore : k.session.applications = m.session.applications := by
      rcases hfound with hfound | hfound
      · rw [hfound]
      · rw [hfound]
        exact hfind m.session (.scanned tokens) rfl
    rw [← hbefore]
    rcases dispatch_session k tokens with ⟨hasks, hsession⟩ | ⟨asked, hasks, hsession⟩
    · rw [hsession]
      exact executeWith_applications _ hasks
    · have happlied : (Move.statement k.session tokens).applied = [] := applied_of_asks hasks
      rw [happlied, List.append_nil, ← asks_applications hasks]
      rcases hsession with hsession | hsession
      · rw [hsession]
      · rw [hsession]
        exact hfind { asked.2 with depth := asked.2.depth + 1 } (.entered _) rfl

/-- **Applications of runs.** -/
theorem applications_of_leads (h : Leads m moves n) :
    n.session.applications = m.session.applications ++ moves.flatMap Move.applied := by
  induction h with
  | nil => exact (List.append_nil _).symm
  | snoc _ hmove ih =>
    rw [applications_of_moves hmove, ih, List.flatMap_append, List.append_assoc]
    simp

/-- How an interpreter that `moves` have led to `n`, from a new one on, has invoked operations and
goes on to do so. -/
structure CountsArguments (moves : List (Move ω)) (n : Machine ω) : Prop where
  /-- Nothing has been applied but by the statements that were run. -/
  applications : n.session.applications = moves.flatMap Move.applied
  accepted : ∀ a ∈ n.session.applications, a.arity.accepts a.arguments.length = true
  /-- What a call from outside comes to. -/
  outside : ∀ heap name arguments,
    n.session.registry.Answers heap name arguments (n.session.registry.call heap name arguments)
  /-- What the next statement comes to, if it invokes an operation. -/
  statement : ∀ found tokens name arguments o, Moves n (.statement found tokens) o →
    found.invocation? tokens = some (name, arguments) →
    ∃ report, n.session.registry.Answers found.heap name arguments report ∧
      o.session.applications = n.session.applications ++ report.applications ∧
      o.result = (report.result.mapError (.invocation name)).map fun _ => ()
  other : ∀ found tokens o, Moves n (.statement found tokens) o →
    found.invocation? tokens = none → o.session.applications = n.session.applications
  /-- What an operation would do with other numbers of arguments is never seen. -/
  guarded : ∀ operation operation' : Operation, operation'.arity = operation.arity →
    operation'.origin = operation.origin →
    (∀ heap arguments, operation.arity.accepts arguments.length = true →
      operation'.apply heap arguments = operation.apply heap arguments ∧
        operation'.effect heap arguments = operation.effect heap arguments) →
    ∀ name heap arguments, operation'.call name heap arguments = operation.call name heap arguments
  /-- An operation of the library, under whatever name, is applied to arguments among which it finds
  those that it looks for, MIN and MAX to one at least. -/
  bundled : ∀ key unit entry name heap arguments, Catalog.bundled.lookup key = some unit →
    entry ∈ unit.operations → n.session.registry.lookup name = some entry.2 →
    (n.session.registry.call heap name arguments).applications ≠ [] →
    entry.2.FindsArguments arguments ∧ arguments ≠ []

/-- Something is applied only if the operation accepts the number of arguments. -/
theorem accepts_of_applied {registry : Registry} {heap : Heap} {name : String}
    {arguments : List Value} {operation : Operation}
    (hlookup : registry.lookup name = some operation)
    (happlied : (registry.call heap name arguments).applications ≠ []) :
    operation.arity.accepts arguments.length = true := by
  have hanswers := registry.call_answers heap name arguments
  generalize registry.call heap name arguments = report at hanswers happlied
  cases hanswers with
  | unregistered hnone => exact absurd rfl happlied
  | refused hother hcount => exact absurd rfl happlied
  | applied hother hcount =>
    cases hlookup.symm.trans hother
    exact hcount

/-- **Operations see numbers of arguments that they accept.**  Whatever is registered, imported and
run in whatever order from a new interpreter on, arguments are counted before an operation is
applied to them, and a call that is refused applies nothing. -/
theorem operations_see_accepted_counts {s : Session ω} (hfresh : s.journal = [])
    (hleads : Leads (atRest s) moves n) : CountsArguments moves n := by
  have hnothing : (atRest s).session.applications = [] := by
    show s.journal.reverse.filterMap Event.application? = []
    rw [hfresh]
    rfl
  have happlications : n.session.applications = moves.flatMap Move.applied := by
    rw [applications_of_leads hleads, hnothing, List.nil_append]
  refine ⟨happlications, ?_, n.session.registry.call_answers, ?_, ?_,
    fun _ _ => Operation.call_congr, ?_⟩
  · intro a ha
    rw [happlications] at ha
    obtain ⟨move, -, ha⟩ := List.mem_flatMap.mp ha
    cases move with
    | statement found tokens =>
      simp only [Move.applied, Session.applied] at ha
      split at ha
      · exact Registry.accepts_of_mem_call ha
      · cases ha
    | registration name operation | other => cases ha
  · intro found tokens name arguments o hmove hinvocation
    have hregistry := found_registry hmove
    have hasks := invocation?_of_asks hinvocation
    refine ⟨found.registry.call found.heap name arguments, ?_, ?_, ?_⟩
    · rw [hregistry]
      exact n.session.registry.call_answers found.heap name arguments
    · rw [applications_of_moves hmove, Move.applied, Session.applied, hinvocation]
    · rw [(done_of_moves hmove hasks).1, executeWith_invocation _ hinvocation]
      cases (found.registry.call found.heap name arguments).result <;> rfl
  · intro found tokens o hmove hinvocation
    rw [applications_of_moves hmove, Move.applied, Session.applied, hinvocation, List.append_nil]
  · intro key unit entry name heap arguments hunit hentry hlookup happlied
    have hcount := accepts_of_applied hlookup happlied
    exact ⟨findsArguments_of_bundled hunit entry hentry arguments hcount,
      ne_nil_of_bundled hunit entry hentry arguments hcount⟩

/-- An operation with one argument, and a statement that gives it none. -/
theorem operations_see_accepted_counts_of_none :
    let s := start Host.ofTable ⟨[], []⟩
    let operation : Operation := { arity := .exact 1, origin := .embedder, apply := fun _ _ => .ok none }
    let n := atRest (s.register "F" operation)
    let tokens : List Token := [⟨.identifier, "F"⟩]
    s.journal = [] ∧ Leads (atRest s) [.registration "F" operation] n ∧
      CountsArguments [.registration "F" operation] n ∧
      (ofTokens tokens n.session).result = .error (.invocation "F" (.wrongCount (.exact 1) 0)) ∧
      (ofTokens tokens n.session).session.applications = [] := by
  intro s operation n tokens
  have hleads : Leads (atRest s) [.registration "F" operation] n :=
    .single (.register (atRest s) "F" operation rfl)
  have hcounts := operations_see_accepted_counts rfl hleads
  have hlookup : n.session.registry.lookup "F" = some operation := by
    show (s.registry.register "F" operation).lookup "F" = _
    rw [Registry.lookup_register, if_pos rfl]
  have hinvocation : n.session.invocation? tokens = some ("F", []) := by
    have hcontains : n.session.registry.contains "F" = true := by
      rw [Registry.contains_eq_isSome, hlookup]
      rfl
    simp [invocation?, destination, tokens, hcontains, operands]
  obtain ⟨report, hreport, happlications, hresult⟩ :=
    hcounts.statement n.session tokens "F" [] _ (.execute n tokens rfl) hinvocation
  refine ⟨rfl, hleads, hcounts, ?_⟩
  cases hreport with
  | unregistered hnone => cases hlookup.symm.trans hnone
  | applied hother hcount =>
    cases hlookup.symm.trans hother
    cases hcount
  | refused hother hcount =>
    cases hlookup.symm.trans hother
    refine ⟨hresult, ?_⟩
    rw [happlications, hcounts.applications]
    rfl

end Machine

end LineScript
