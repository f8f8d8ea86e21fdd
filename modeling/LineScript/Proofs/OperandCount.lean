import LineScript.Proofs.Applications
import LineScript.Proofs.Comparison
import LineScript.Proofs.Failure

/-!
How many operands a command needs.

* A command that is given too few operands is not parsed, and all that it does is to fail
  (`Session.execute_of_error`).
* One that is given enough is parsed from the first ones alone (`Statement.ofOperands_take`), so what
  it does is what it does without the others but for the note of these (`Session.agrees_surplus`).
* Once a command is parsed no fault is about its operands (`usage?_of_isOfStatement`), whatever the
  operands are.
* A CALL hands its arguments to the registry and binds what comes back (`Session.callInto_ends`).

Main statement: `Session.operands_are_counted`.
-/

namespace LineScript

/-- The command whose use the fault is about, if it is about missing operands. -/
def Fault.usage? : Fault → Option Keyword
  | missingOperands command _ => some command
  | missingResult => some .call
  | _ => none

theorem usage?_of_isOfStatement {fault : Fault} (h : fault.isOfStatement = true) :
    fault.usage? = none := by
  cases fault with
  | missingOperands | missingResult => cases h
  | _ => rfl

/-- The operands without which the command fails.  A call needs a name for its result as well. -/
def Keyword.needed (command : Keyword) : Nat :=
  command.operands.length + if command = .call then 1 else 0

def Event.isExtraOperands : Event → Bool
  | extraOperands _ _ => true
  | _ => false

/-! ## Parsing -/

namespace Statement

/-- The fault names the operands that are missing. -/
theorem ofOperands_of_lt {command : Keyword} (given : List String) (hcall : command ≠ .call)
    (h : given.length < command.operands.length) :
    ofOperands command given =
      .error (.missingOperands command (command.operands.drop given.length)) := by
  rcases given with _ | ⟨a, _ | ⟨b, _ | ⟨c, rest⟩⟩⟩ <;> cases command <;>
    first
      | rfl
      | exact absurd rfl hcall
      | simp only [Keyword.operands, List.length_cons, List.length_nil] at h; omega

theorem ofOperands_of_le {command : Keyword} (given : List String) (hcall : command ≠ .call)
    (h : command.operands.length ≤ given.length) :
    ∃ statement, ofOperands command given = .ok statement := by
  rcases given with _ | ⟨a, _ | ⟨b, _ | ⟨c, rest⟩⟩⟩ <;> cases command <;>
    first
      | exact ⟨_, rfl⟩
      | exact absurd rfl hcall
      | simp only [Keyword.operands, List.length_cons, List.length_nil] at h; omega

/-- A call has the name of its operation in front, the target behind and the arguments between. -/
theorem ofOperands_call (function : String) (arguments : List String) (target : String) :
    ofOperands .call (function :: (arguments ++ [target])) =
      .ok (.call function arguments target) :=
  ofOperands_of_reads (.call function arguments target)

theorem ofOperands_call_of_lt {given : List String} (h : given.length < 2) :
    ∃ fault, ofOperands .call given = .error fault ∧ fault.usage? = some .call := by
  match given with
  | [] => exact ⟨_, rfl, rfl⟩
  | [function] => exact ⟨_, rfl, rfl⟩
  | _ :: _ :: rest =>
    simp only [List.length_cons] at h
    omega

theorem eq_of_two_le {given : List String} (h : 2 ≤ given.length) :
    ∃ function arguments target, given = function :: (arguments ++ [target]) := by
  match given with
  | function :: second :: rest =>
    exact ⟨function, _, _, congrArg _ (List.dropLast_append_getLast (List.cons_ne_nil _ _)).symm⟩

/-- A command is parsed if it has the operands that it needs, and else the fault is about it. -/
theorem ofOperands_cases (command : Keyword) (given : List String) :
    (command.needed ≤ given.length ∧ ∃ statement, ofOperands command given = .ok statement) ∨
    (given.length < command.needed ∧ ∃ fault, ofOperands command given = .error fault ∧
      fault.usage? = some command) := by
  unfold Keyword.needed
  by_cases hcall : command = .call
  · subst hcall
    rcases Nat.lt_or_ge given.length 2 with hlt | hle
    · exact .inr ⟨hlt, ofOperands_call_of_lt hlt⟩
    · obtain ⟨function, arguments, target, rfl⟩ := eq_of_two_le hle
      exact .inl ⟨hle, _, ofOperands_call function arguments target⟩
  · rw [if_neg hcall, Nat.add_zero]
    rcases Nat.lt_or_ge given.length command.operands.length with hlt | hle
    · exact .inr ⟨hlt, _, ofOperands_of_lt given hcall hlt, rfl⟩
    · exact .inl ⟨hle, ofOperands_of_le given hcall hle⟩

end Statement

/-! ## Executing -/

namespace Session

variable {ω : Type}

theorem noteSurplus_of_le {command : Keyword} {given : List String} (s : Session ω)
    (h : command = .call ∨ given.length ≤ command.operands.length) :
    s.noteSurplus command given = s := by
  have hnone : command.surplus given = [] := by
    by_cases hcall : command = .call
    · rw [hcall]
      rfl
    · have hle := h.resolve_left hcall
      simp only [Keyword.surplus, Keyword.operandCount?_eq hcall, List.drop_eq_nil_of_le hle]
  simp only [noteSurplus, hnone, List.isEmpty_nil, if_true]

/-- A command that is not parsed fails, and the journal alone says that it was there. -/
theorem runBuiltIn_of_error (nested : String → Session ω → Ending ω Unit) {command : Keyword}
    {given : List String} {fault : Fault} (s : Session ω)
    (h : Statement.ofOperands command given = .error fault) :
    runBuiltIn nested command given s = (.error fault, s.note (.performed command)) := by
  have hfew : command = .call ∨ given.length ≤ command.operands.length := by
    rcases Statement.ofOperands_cases command given with ⟨-, statement, hok⟩ | ⟨hlt, -⟩
    · cases h.symm.trans hok
    · unfold Keyword.needed at hlt
      split at hlt
      · next hcall => exact .inl hcall
      · exact .inr hlt.le
  simp only [runBuiltIn, h, noteSurplus_of_le _ hfew]

theorem matched_noteSurplus {own : StoreId} {s t : Session ω}
    (hs : (Comparison.ignoring own Event.isExtraOperands).Matched s t) (command : Keyword)
    (given : List String) :
    (Comparison.ignoring own Event.isExtraOperands).Matched (s.noteSurplus command given) t := by
  unfold noteSurplus
  dsimp only
  split
  · exact hs
  · exact hs.note_left rfl

/-- A command with enough operands does what it does with the first ones alone, up to the note
about the others. -/
theorem agrees_surplus (places : Nat) {command : Keyword} {given : List String} (s : Session ω)
    (hcall : command ≠ .call) :
    (Comparison.ignoring s.own Event.isExtraOperands).Agrees
      (runBuiltIn (nestedRun places) command given s)
      (runBuiltIn (nestedRun places) command (given.take command.operands.length) s) := by
  have hself : (Comparison.ignoring s.own Event.isExtraOperands).Matched s s :=
    Comparison.exact_matched s
  have hnoted := hself.note (.performed command)
  have hfirst : (given.take command.operands.length).length ≤ command.operands.length :=
    List.length_take_le _ _
  unfold runBuiltIn
  rw [Statement.ofOperands_take given hcall, noteSurplus_of_le _ (.inr hfirst)]
  have hmatched := matched_noteSurplus hnoted command given
  cases hstatement : Statement.ofOperands command given with
  | error fault => exact .of_matched hmatched _
  | ok statement =>
    exact Comparison.agrees_perform (Comparison.agrees_nestedRun (Nat.le_refl _) (.inr rfl)) hmatched
      statement (fun _ _ => trivial) fun _ _ => trivial

variable {s : Session ω} {head : Token} {command : Keyword}

theorem execute_of_name (hname : head.text = command.name)
    (hfree : s.registry.contains head.text = false) (given : List Token) :
    s.execute (head :: given) =
      (runBuiltIn (nestedRun s.room) command (given.map (·.text)) s).andThen executed := by
  rw [execute, executeWith_eq, destination_of_name hname (hname ▸ hfree)]
  rfl

theorem execute_of_error (hname : head.text = command.name)
    (hfree : s.registry.contains head.text = false) {given : List Token} {fault : Fault}
    (h : Statement.ofOperands command (given.map (·.text)) = .error fault) :
    s.execute (head :: given) = (.error fault, s.note (.performed command)) := by
  rw [execute_of_name hname hfree, runBuiltIn_of_error _ s h]
  rfl

theorem execute_take (hname : head.text = command.name)
    (hfree : s.registry.contains head.text = false) (hcall : command ≠ .call)
    (given : List Token) :
    let first := given.take command.operands.length
    (s.execute (head :: given)).1 = (s.execute (head :: first)).1 ∧
    (s.execute (head :: first)).2.SameBut Event.isExtraOperands (s.execute (head :: given)).2 := by
  intro first
  have hagrees : (Comparison.ignoring s.own Event.isExtraOperands).Agrees
      (s.execute (head :: given)) (s.execute (head :: first)) := by
    rw [execute_of_name hname hfree, execute_of_name hname hfree, List.map_take]
    exact (agrees_surplus s.room s hcall).andThen fun _ _ _ _ hs => .of_matched hs _
  obtain ⟨hresult, hstate⟩ :=
    sameBut_of_agrees (later_execute (head :: given) s) (later_execute (head :: first) s) hagrees
  exact ⟨hresult.symm, hstate.symm⟩

/-- How a CALL of `function` ends that the registry answered with `report`. -/
structure CallEnds (s : Session ω) (report : CallReport) (function target : String)
    (ending : Ending ω Outcome) : Prop where
  applications : ending.2.applications = s.applications ++ report.applications
  bound : ∀ value, report.result = .ok (some value) →
    ending.1 = .ok .executed ∧ report.heap.Rebinds ending.2.heap s.own target value
  /-- Without a value the target keeps its own. -/
  unbound : report.result = .ok none → ending.1 = .ok .executed ∧ ending.2.heap = report.heap
  failed : ∀ cause, report.result = .error cause →
    ending.1 = .error (.invocation function cause) ∧ ending.2.heap = report.heap
  state : ending.2 = { s with heap := ending.2.heap, journal := ending.2.journal }

theorem callInto_ends (s : Session ω) (function : String) (arguments : List String)
    (target : String) :
    s.CallEnds (s.registry.call s.heap function (arguments.map s.resolve)) function target
      (((s.note (.performed .call)).callInto function arguments target).andThen executed) := by
  let u := s.note (.performed .call)
  have hnoted : u.applications = s.applications := applications_of_adds (.note rfl)
  have happlications := callInto_applications u function arguments target
  rw [hnoted, ← snd_andThen_executed] at happlications
  have hends (report : CallReport)
      (h : u.registry.call u.heap function (arguments.map u.resolve) = report) :
      s.CallEnds report function target ((u.callInto function arguments target).andThen executed) := by
    obtain ⟨made, result, heap⟩ := report
    simp only [callInto, call, h] at happlications ⊢
    rcases result with cause | _ | value
    · refine ⟨happlications, by simp, by simp, fun other hother => ?_, rfl⟩
      obtain rfl := Except.error.inj hother
      exact ⟨rfl, rfl⟩
    · exact ⟨happlications, by simp, fun _ => ⟨rfl, rfl⟩, by simp, rfl⟩
    · refine ⟨happlications, fun other hother => ?_, by simp, by simp, rfl⟩
      obtain rfl := Option.some.inj (Except.ok.inj hother)
      exact ⟨rfl, heap.rebinds_set s.own target value⟩
  exact hends _ rfl

/-- A call that has its operands. -/
theorem execute_call (hname : head.text = Keyword.call.name)
    (hfree : s.registry.contains head.text = false) (function : Token) (arguments : List Token)
    (target : Token) :
    s.execute (head :: function :: (arguments ++ [target])) =
      ((s.note (.performed .call)).callInto function.text (arguments.map (·.text))
        target.text).andThen executed ∧
    s.CallEnds (s.registry.call s.heap function.text (arguments.map fun a => s.resolve a.text))
      function.text target.text (s.execute (head :: function :: (arguments ++ [target]))) := by
  have hends := s.callInto_ends function.text (arguments.map (·.text)) target.text
  rw [List.map_map] at hends
  have hstatement := Statement.ofOperands_call function.text (arguments.map (·.text)) target.text
  have hexecute : s.execute (head :: function :: (arguments ++ [target])) =
      ((s.note (.performed .call)).callInto function.text (arguments.map (·.text))
        target.text).andThen executed := by
    rw [execute_of_name hname hfree]
    simp only [List.map_cons, List.map_append, List.map_nil, runBuiltIn, hstatement,
      noteSurplus_of_le _ (.inl rfl)]
    rfl
  rw [hexecute]
  exact ⟨rfl, hends⟩

/-- A command fails for want of operands iff it has not those that it needs. -/
theorem usage_iff (hname : head.text = command.name)
    (hfree : s.registry.contains head.text = false) (hrun : command ≠ .run) (given : List Token) :
    (∃ fault, (s.execute (head :: given)).1 = .error fault ∧ fault.usage?.isSome) ↔
      given.length < command.needed := by
  rcases Statement.ofOperands_cases command (given.map (·.text)) with
    ⟨hle, statement, hstatement⟩ | ⟨hlt, fault, hfault, husage⟩
  · rw [List.length_map] at hle
    refine iff_of_false ?_ (Nat.not_lt.mpr hle)
    rintro ⟨fault, hfault, husage⟩
    rw [execute_of_name hname hfree] at hfault
    simp only [runBuiltIn, hstatement] at hfault
    have hruns : ∀ file, statement ≠ .run file := by
      rintro file rfl
      exact hrun (Statement.ofOperands_eq_run hstatement).1
    have hkind := isOfStatement_of_perform hruns _ (error_of_andThen_executed hfault)
    rw [usage?_of_isOfStatement hkind] at husage
    cases husage
  · rw [List.length_map] at hlt
    refine iff_of_true ⟨fault, ?_, ?_⟩ hlt
    · rw [execute_of_error hname hfree hfault]
    · rw [husage]
      rfl

/-- **Operands are counted.**  Let the first token be the name of a built-in command, which no
operation has taken, and let the others be any tokens at all.

* A command other than CALL that is given fewer operands than it has fails, with a fault that names
  it and the missing ones, and does nothing else.  Given more, it does what it does with the first
  ones alone, and only the journal tells the two apart, by its notes about operands left over.
* CALL fails in this way with fewer than two operands.  With more it calls the operation that the
  first one names with the values of all but the last, in order, and binds the last one to what
  the operation gives.
* No command but RUN, which runs others, has such a fault for any other reason. -/
theorem operands_are_counted (s : Session ω) (command : Keyword) (head : Token)
    (given : List Token) (hname : head.text = command.name)
    (hfree : s.registry.contains head.text = false) :
    (command ≠ .call →
      (given.length < command.operands.length →
        s.execute (head :: given) =
          (.error (.missingOperands command (command.operands.drop given.length)),
            s.note (.performed command))) ∧
      (command.operands.length ≤ given.length →
        let first := given.take command.operands.length
        (s.execute (head :: given)).1 = (s.execute (head :: first)).1 ∧
        (s.execute (head :: first)).2.SameBut Event.isExtraOperands
          (s.execute (head :: given)).2)) ∧
    (command = .call →
      (given.length < 2 → ∃ fault, fault.usage? = some .call ∧
        s.execute (head :: given) = (.error fault, s.note (.performed .call))) ∧
      ∀ function arguments target, given = function :: (arguments ++ [target]) →
        s.execute (head :: given) =
          ((s.note (.performed .call)).callInto function.text (arguments.map (·.text))
            target.text).andThen executed ∧
        s.CallEnds (s.registry.call s.heap function.text (arguments.map fun a => s.resolve a.text))
          function.text target.text (s.execute (head :: given))) ∧
    (command ≠ .run →
      ((∃ fault, (s.execute (head :: given)).1 = .error fault ∧ fault.usage?.isSome) ↔
        given.length < command.needed)) := by
  refine ⟨fun hcall => ⟨fun hlt => ?_, fun _ => execute_take hname hfree hcall given⟩, ?_,
    fun hrun => usage_iff hname hfree hrun given⟩
  · have hmissing := Statement.ofOperands_of_lt (given.map (·.text)) hcall (by simpa using hlt)
    rw [List.length_map] at hmissing
    exact execute_of_error hname hfree hmissing
  · rintro rfl
    refine ⟨fun hlt => ?_, ?_⟩
    · obtain ⟨fault, hfault, husage⟩ :=
        Statement.ofOperands_call_of_lt (show (given.map (·.text)).length < 2 by simpa using hlt)
      exact ⟨fault, husage, execute_of_error hname hfree hfault⟩
    · rintro function arguments target rfl
      exact execute_call hname hfree function arguments target

/-- Operands that look like flags: one too few, one too many, and those of a call. -/
theorem operands_are_counted_of_flags :
    let operation : Operation :=
      { arity := .any, origin := .embedder, apply := fun _ _ => .ok (some (.text "called")) }
    let s := (start Host.ofTable ⟨[], []⟩).register "--help" operation
    let flag : Token := ⟨.identifier, "--help"⟩
    let word : Token := ⟨.identifier, "help"⟩
    let add : Token := ⟨.keyword, "ADD"⟩
    let print : Token := ⟨.keyword, "PRINT"⟩
    let call : Token := ⟨.keyword, "CALL"⟩
    (∀ command : Keyword, s.registry.contains command.name = false) ∧
    s.execute [add, flag, word] =
      (.error (.missingOperands .add ["target"]), s.note (.performed .add)) ∧
    ((s.execute [print, flag, word]).1 = (s.execute [print, flag]).1 ∧
      (s.execute [print, flag]).2.SameBut Event.isExtraOperands
        (s.execute [print, flag, word]).2) ∧
    (∃ fault, fault.usage? = some .call ∧
      s.execute [call, flag] = (.error fault, s.note (.performed .call))) ∧
    s.execute [call, flag, word, flag, word] =
      ((s.note (.performed .call)).callInto "--help" ["help", "--help"] "help").andThen executed ∧
    (s.execute [call, flag, word, flag, word]).2.applications =
      [⟨"--help", .embedder, .any, [.zero, .zero]⟩] ∧
    (s.execute [call, flag, word, flag, word]).2.heap.get? s.own "help" = some (.text "called") ∧
    ((∃ fault, (s.execute [add, flag, word]).1 = .error fault ∧ fault.usage?.isSome) ↔
      2 < Keyword.add.needed) := by
  intro operation s flag word add print call
  have hfree : ∀ command : Keyword, s.registry.contains command.name = false := by
    intro command
    have hname : "--help" ≠ command.name := by cases command <;> decide
    simp [s, start, register, Registry.register, hname]
  have hlookup : s.registry.lookup "--help" = some operation := by
    show (Registry.register ∅ "--help" operation).lookup "--help" = _
    rw [Registry.lookup_register, if_pos rfl]
  obtain ⟨hmissing, -, hiff⟩ :=
    operands_are_counted s .add add [flag, word] rfl (hfree .add)
  obtain ⟨hsurplus, -, -⟩ :=
    operands_are_counted s .print print [flag, word] rfl (hfree .print)
  obtain ⟨-, hfew, -⟩ := operands_are_counted s .call call [flag] rfl (hfree .call)
  obtain ⟨-, hcall, -⟩ :=
    operands_are_counted s .call call [flag, word, flag, word] rfl (hfree .call)
  obtain ⟨hinto, hends⟩ := (hcall rfl).2 flag [word, flag] word rfl
  have hreport : s.registry.call s.heap "--help" [.zero, .zero] =
      ⟨[⟨"--help", .embedder, .any, [.zero, .zero]⟩], .ok (some (.text "called")), s.heap⟩ := by
    simp only [Registry.call, hlookup]
    rfl
  have hword : s.resolve "help" = .zero := by rfl
  have hflag : s.resolve "--help" = .zero := by rfl
  have hvalues : ([word, flag].map fun a => s.resolve a.text) = [.zero, .zero] :=
    congrArg₂ (fun v w => [v, w]) hword hflag
  rw [hvalues, show flag.text = "--help" from rfl, hreport] at hends
  refine ⟨hfree, (hmissing (by decide)).1 (by decide), (hsurplus (by decide)).2 (by decide),
    (hfew rfl).1 (by decide), hinto, hends.applications, ?_, hiff (by decide)⟩
  exact (hends.bound (.text "called") rfl).2.reads (by decide)

end Session

end LineScript
