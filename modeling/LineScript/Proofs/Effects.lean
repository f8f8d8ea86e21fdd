import LineScript.Proofs.Later

/-!
What a statement may touch.

A statement goes to a registered operation, to a built-in command or nowhere
(`Session.destination`); what it then comes to is one of three things (`executeWith_does`).

Main statements, for a statement that runs no script: it touches no variable if it fails, and
binds its own target, or is CLEAR, if it succeeds, apart from what the operation that it calls does
to the stores (`perform_leaves`); and it leaves the registry to IMPORT, the input to INPUT and the
output to PRINT and INPUT (`executeWith_frame`).
-/

namespace LineScript

variable {ω : Type}

/-! ## Reading after writing, whether or not the store has a place -/

namespace Heap

/-- A store without a place has no bindings, and clearing does not give it any. -/
theorem get?_clear (heap : Heap) (store : StoreId) (name : String) :
    (heap.clear store).get? store name = none := by
  by_cases h : store < heap.stores.length
  · exact get?_clear_self name h
  · simp [get?, clear, bindings, update, h]

/-- What is read after binding; nothing is bound in a store without a place. -/
theorem get?_set (heap : Heap) (store other : StoreId) (name name' : String) (value : Value) :
    (heap.set store name value).get? other name' =
      if store = other ∧ name = name' ∧ store < heap.stores.length then some value
      else heap.get? other name' := by
  by_cases hplace : store < heap.stores.length
  · by_cases hother : store = other
    · obtain rfl := hother
      rw [get?_set_self name name' value hplace]
      simp [hplace]
    · rw [get?_set_of_ne name name' value hother]
      simp [hother]
  · rw [if_neg fun h => hplace h.2.2]
    by_cases hother : store = other
    · obtain rfl := hother
      simp [get?, set, bindings, update, hplace]
    · exact get?_set_of_ne name name' value hother

/-- A store that exists has the bindings that are made in it. -/
theorem get?_set_same {heap : Heap} {store : StoreId} (name : String) (value : Value)
    (h : store < heap.stores.length) :
    (heap.set store name value).get? store name = some value := by
  rw [get?_set_self name name value h, if_pos rfl]

/-- `after` comes of `before` by binding the name in the store.  The name reads as the value then, if
there is such a store, and all other variables read as before. -/
structure Rebinds (before after : Heap) (store : StoreId) (name : String) (value : Value) :
    Prop where
  eq_set : after = before.set store name value
  stores : after.stores.length = before.stores.length
  reads : store < before.stores.length → after.get? store name = some value
  others : ∀ other name', (other = store → name' ≠ name) →
    after.get? other name' = before.get? other name'

theorem rebinds_set (heap : Heap) (store : StoreId) (name : String) (value : Value) :
    heap.Rebinds (heap.set store name value) store name value where
  eq_set := rfl
  stores := by simp [set, update]
  reads := get?_set_same name value
  others other name' hother := by
    rw [get?_set, if_neg]
    rintro ⟨rfl, rfl, -⟩
    exact hother rfl rfl

end Heap

/-! ## Destinations -/

inductive Destination
  /-- There is no token. -/
  | nowhere
  /-- The operation that is registered under the name. -/
  | operation (name : String)
  | builtIn (command : Keyword)
  /-- Nothing has this name. -/
  | unknown (name : String)
deriving DecidableEq

def operands (tokens : List Token) : List String :=
  tokens.tail.map (·.text)

namespace Session

def destination (s : Session ω) (tokens : List Token) : Destination :=
  match tokens with
  | [] => .nowhere
  | head :: _ =>
    if s.registry.contains head.text then .operation head.text
    else
      match Keyword.ofName? head.text with
      | some command => .builtIn command
      | none => .unknown head.text

/-- A statement with the name of a command goes there, if no operation has this name. -/
theorem destination_of_name {s : Session ω} {head : Token} {command : Keyword}
    (hname : head.text = command.name) (hfree : s.registry.contains command.name = false)
    (rest : List Token) : s.destination (head :: rest) = .builtIn command := by
  unfold destination
  dsimp only
  rw [hname, if_neg (Bool.eq_false_iff.mp hfree), Keyword.ofName?_name]

theorem executeWith_eq (nested : String → Session ω → Ending ω Unit) (tokens : List Token)
    (s : Session ω) :
    executeWith nested tokens s =
      match s.destination tokens with
      | .nowhere => (.ok .empty, s)
      | .operation name =>
        ((s.note (.dispatched name)).call name ((operands tokens).map .text)).andThen
          fun _ s => (.ok .executed, s)
      | .builtIn command => (runBuiltIn nested command (operands tokens) s).andThen executed
      | .unknown name => (.ok (.unknownCommand name), s.note (.unknownCommand name)) := by
  cases tokens with
  | nil => rfl
  | cons head rest =>
    unfold executeWith destination
    dsimp only
    cases s.registry.contains head.text with
    | true => rfl
    | false =>
      cases Keyword.ofName? head.text with
      | some command => rfl
      | none => rfl

end Session

/-! ## Commands and their targets -/

namespace Statement

def target? : Statement → Option String
  | assign target _ => some target
  | call _ _ target => some target
  | random _ _ target => some target
  | input _ target => some target
  | print _ | wait _ | clear | run _ | execCommand _ | importUnit _ => none

theorem mem_words_of_target {statement : Statement} {target : String}
    (h : statement.target? = some target) : target ∈ statement.words := by
  cases statement <;> simp_all [target?, words]

end Statement

/-- The operand that names the variable which the command binds. -/
def Keyword.targetOf (command : Keyword) (given : List String) : Option String :=
  match command with
  | store | memory => given[0]?
  | load | input | sqrt | abs | floor | ceiling | textOf | numberOf => given[1]?
  | add | subtract | multiply | divide | join | random => given[2]?
  | call => given.getLast?
  | print | wait | clear | run | execCommand | importUnit => none

theorem Statement.targetOf_eq {command : Keyword} {given : List String} {statement : Statement}
    (h : ofOperands command given = .ok statement) :
    command.targetOf given = statement.target? := by
  cases reads_of_ofOperands h with
  | call function arguments target => simp [Keyword.targetOf, List.getLast?_cons, target?]
  | _ => rfl

/-! ## Values of statements -/

namespace Statement

/-- The value that the statement computes for its target from the state that it finds. -/
def value? (s : Session ω) : Statement → Option Value
  | assign _ expression => (expression.evaluate s.heap s.own).toOption
  | call function arguments _ =>
    (s.registry.call s.heap function (arguments.map s.resolve)).result.toOption.join
  | random low high _ =>
    (Session.checkBounds (s.resolve low) (s.resolve high)).toOption.map fun bounds =>
      .number (if bounds.1 == bounds.2 then bounds.1
        else (s.chance.between bounds.1 bounds.2).1)
  | input _ _ => s.console.readLine.1.toOption.map .text
  | print _ | wait _ | clear | run _ | execCommand _ | importUnit _ => none

/-- The stores after the operation that the statement calls, if it is a CALL. -/
def callHeap (s : Session ω) : Statement → Heap
  | call function arguments _ => (s.registry.call s.heap function (arguments.map s.resolve)).heap
  | _ => s.heap

theorem callHeap_eq {s : Session ω} (h : s.registry.LeavesStores) (statement : Statement) :
    statement.callHeap s = s.heap := by
  cases statement with
  | call function arguments target => exact h.heap_call s.heap function _
  | _ => rfl

/-- The variables that the statement makes of those that it finds. -/
def variablesAfter (s : Session ω) (statement : Statement) : Heap :=
  match statement.target?, statement.value? s with
  | some target, some value => (statement.callHeap s).set s.own target value
  | _, _ => if statement = clear then s.heap.clear s.own else statement.callHeap s

theorem variablesAfter_of_value {s : Session ω} {statement : Statement} {target : String}
    {value : Value} (htarget : statement.target? = some target)
    (hvalue : statement.value? s = some value) :
    statement.variablesAfter s = (statement.callHeap s).set s.own target value := by
  simp only [variablesAfter, htarget, hvalue]

theorem variablesAfter_of_no_value {s : Session ω} {statement : Statement}
    (hclear : statement ≠ clear) (hvalue : statement.value? s = none) :
    statement.variablesAfter s = statement.callHeap s := by
  unfold variablesAfter
  rw [hvalue, if_neg hclear]
  cases statement.target? <;> rfl

/-- No store comes or goes. -/
theorem stores_variablesAfter {s : Session ω} (h : s.registry.LeavesStores)
    (statement : Statement) :
    (statement.variablesAfter s).stores.length = s.heap.stores.length := by
  unfold variablesAfter
  rw [callHeap_eq h]
  split
  · simp [Heap.set, Heap.update]
  · split
    · simp [Heap.clear, Heap.update]
    · rfl

/-- Another variable than the target keeps its value. -/
theorem get?_variablesAfter {s : Session ω} {statement : Statement} {name : String}
    (hclear : statement ≠ clear) (hname : statement.target? ≠ some name) :
    (statement.variablesAfter s).get? s.own name = (statement.callHeap s).get? s.own name := by
  unfold variablesAfter
  split
  · next target value htarget hvalue =>
    rw [Heap.get?_set, if_neg]
    rintro ⟨-, rfl, -⟩
    exact hname htarget
  · rw [if_neg hclear]

end Statement

/-! ## The console -/

namespace Console

theorem write_eq_ok {console written : Console} {text : String}
    (h : console.write text = .ok written) :
    written = { console with output := console.output.write text.toUTF8 } := by
  unfold write at h
  split at h
  · next hempty =>
    obtain rfl := Except.ok.inj h
    rw [String.isEmpty_iff.mp hempty, ByteWriter.write_nothing]
  · split at h
    · cases h
    · exact (Except.ok.inj h).symm

theorem flush_eq_ok {console flushed : Console} (h : console.flush = .ok flushed) :
    flushed = console := by
  unfold flush at h
  split at h
  · cases h
  · exact (Except.ok.inj h).symm

end Console

namespace Session

def ShowsPrompt (s : Session ω) (prompt : String) : Prop :=
  ∃ console, s.console.write (unquote prompt ++ s.config.promptSuffix) = .ok console ∧
    console.flush = .ok console

def prompted (s : Session ω) (prompt : String) : Console :=
  { s.console with
    output := s.console.output.write (unquote prompt ++ s.config.promptSuffix).toUTF8 }

inductive AskEnds (s : Session ω) (prompt target : String) : Ending ω Unit → Prop
  | refused (cause : StreamFault) : AskEnds s prompt target (.error (.stream cause), s)
  | notFlushed (cause : StreamFault) :
      AskEnds s prompt target (.error (.stream cause), { s with console := s.prompted prompt })
  | unread {cause : StreamFault} (hshown : s.ShowsPrompt prompt)
      (hline : s.console.readLine.1 = .error cause) :
      AskEnds s prompt target
        (.error (.stream cause), { s with console := (s.prompted prompt).readLine.2 })
  | read {line : String} (hshown : s.ShowsPrompt prompt)
      (hline : s.console.readLine.1 = .ok line) :
      AskEnds s prompt target
        (.ok (), { s with console := (s.prompted prompt).readLine.2 }.bind target (.text line))

theorem askEnds (s : Session ω) (prompt target : String) :
    s.AskEnds prompt target (s.ask prompt target) := by
  unfold ask write flush readLine
  cases hwrite : s.console.write (unquote prompt ++ s.config.promptSuffix) with
  | error cause => exact .refused cause
  | ok console =>
    have hprompted : console = s.prompted prompt := Console.write_eq_ok hwrite
    dsimp only [Ending.andThen_ok]
    cases hflush : console.flush with
    | error cause =>
      rw [hprompted]
      exact .notFlushed cause
    | ok flushed =>
      obtain rfl := Console.flush_eq_ok hflush
      have hshown : s.ShowsPrompt prompt := ⟨flushed, hwrite, hflush⟩
      have hread : s.console.readLine.1 = flushed.readLine.1 := by rw [hprompted]; rfl
      dsimp only [Ending.andThen_ok]
      cases hline : flushed.readLine.1 with
      | error cause =>
        rw [hprompted]
        exact .unread hshown (hread.trans hline)
      | ok line =>
        rw [hprompted]
        exact .read hshown (hread.trans hline)

end Session

/-! ## Variables -/

/-- A fault leaves the variables as they were found, a result leaves these. -/
def Ending.Leaves {α : Type} (ending : Ending ω α) (found after : Heap) : Prop :=
  match ending with
  | (.error _, t) => t.heap = found
  | (.ok _, t) => t.heap = after

theorem Ending.Leaves.heap_of_error {α : Type} {ending : Ending ω α} {found after : Heap}
    (h : ending.Leaves found after) {fault : Fault} (hfault : ending.1 = .error fault) :
    ending.2.heap = found := by
  obtain ⟨_ | _, t⟩ := ending
  · exact h
  · cases hfault

theorem Ending.Leaves.heap_of_ok {α : Type} {ending : Ending ω α} {found after : Heap}
    (h : ending.Leaves found after) {value : α} (hvalue : ending.1 = .ok value) :
    ending.2.heap = after := by
  obtain ⟨_ | _, t⟩ := ending
  · cases hvalue
  · exact h

theorem Ending.Leaves.heap_eq {α : Type} {ending : Ending ω α} {found after : Heap}
    (h : ending.Leaves found after) : ending.2.heap = found ∨ ending.2.heap = after := by
  obtain ⟨_ | _, t⟩ := ending
  · exact .inl h
  · exact .inr h

namespace Session

theorem write_heap (s : Session ω) (text : String) : (s.write text).2.heap = s.heap := by
  rw [write_eq]

theorem readScript_heap (s : Session ω) (name : String) :
    (s.readScript name).2.heap = s.heap := by
  rw [readScript_eq]

theorem issue_heap (s : Session ω) (command : String) : (s.issue command).2.heap = s.heap := by
  rw [issue_eq]

theorem call_heap (s : Session ω) (function : String) (arguments : List Value) :
    (s.call function arguments).2.heap = (s.registry.call s.heap function arguments).heap := by
  rw [call_eq]

theorem importUnit_heap (s : Session ω) (token : String) :
    (s.importUnit token).2.heap = s.heap := by
  rw [importUnit_eq]

/-- Binding the value of the statement to its target is all that the statement has to do. -/
theorem bind_leaves {statement : Statement} {s t : Session ω} {target : String} {value : Value}
    (hheap : t.heap = statement.callHeap s) (hown : t.own = s.own)
    (htarget : statement.target? = some target) (hvalue : statement.value? s = some value) :
    Ending.Leaves (.ok (), t.bind target value) (statement.callHeap s)
      (statement.variablesAfter s) := by
  rw [Statement.variablesAfter_of_value htarget hvalue, ← hheap, ← hown]
  rfl

theorem assign_leaves (s : Session ω) (target : String) (expression : Expression) :
    (s.assign target expression).Leaves s.heap
      ((Statement.assign target expression).variablesAfter s) := by
  unfold assign
  cases hvalue : expression.evaluate s.heap s.own with
  | error fault => rfl
  | ok value =>
    refine bind_leaves rfl rfl rfl ?_
    rw [Statement.value?, hvalue]
    rfl

theorem callInto_leaves (s : Session ω) (function : String) (arguments : List String)
    (target : String) :
    (s.callInto function arguments target).Leaves
      ((Statement.call function arguments target).callHeap s)
      ((Statement.call function arguments target).variablesAfter s) := by
  unfold callInto call
  dsimp only
  cases hresult : (s.registry.call s.heap function (arguments.map s.resolve)).result with
  | error cause => rfl
  | ok value =>
    have hvalue : (Statement.call function arguments target).value? s = value := by
      rw [Statement.value?, hresult]
      rfl
    cases value with
    | some value => exact bind_leaves rfl rfl rfl hvalue
    | none => exact (Statement.variablesAfter_of_no_value (by simp) hvalue).symm

theorem drawInto_leaves (s : Session ω) (low high target : String) :
    (s.drawInto low high target).Leaves s.heap
      ((Statement.random low high target).variablesAfter s) := by
  unfold drawInto
  cases hbounds : checkBounds (s.resolve low) (s.resolve high) with
  | error fault => rfl
  | ok bounds =>
    have hvalue : (Statement.random low high target).value? s =
        some (.number (if bounds.1 == bounds.2 then bounds.1
          else (s.chance.between bounds.1 bounds.2).1)) := by
      rw [Statement.value?, hbounds]
      rfl
    dsimp only
    split
    · next heq =>
      rw [if_pos heq] at hvalue
      exact bind_leaves rfl rfl rfl hvalue
    · next hne =>
      rw [if_neg hne] at hvalue
      exact bind_leaves rfl rfl rfl hvalue

theorem ask_leaves (s : Session ω) (prompt target : String) :
    (s.ask prompt target).Leaves s.heap
      ((Statement.input prompt target).variablesAfter s) := by
  have hends := s.askEnds prompt target
  generalize s.ask prompt target = ending at hends
  cases hends with
  | refused cause => rfl
  | notFlushed cause => rfl
  | unread hshown hline => rfl
  | read hshown hline =>
    refine bind_leaves rfl rfl rfl ?_
    rw [Statement.value?, hline]
    rfl

/-- A step that leaves the variables alone, for a statement without a value. -/
theorem leaves_of_heap_eq {statement : Statement} {s : Session ω} {ending : Ending ω Unit}
    (hclear : statement ≠ .clear) (hvalue : statement.value? s = none)
    (h : ending.2.heap = statement.callHeap s) :
    ending.Leaves (statement.callHeap s) (statement.variablesAfter s) := by
  rw [Statement.variablesAfter_of_no_value hclear hvalue]
  obtain ⟨_ | _, t⟩ := ending
  · exact h
  · exact h

/-- **Variables.**  Unless it runs a script, a statement that fails leaves the variables alone, and
one that succeeds does nothing to them but bind its target to its value, or remove them all if it
is CLEAR.  Before that, the operation that a CALL applies can have changed them. -/
theorem perform_leaves (nested : String → Session ω → Ending ω Unit) (statement : Statement)
    (hrun : ∀ file, statement ≠ .run file) (s : Session ω) :
    (perform nested statement s).Leaves (statement.callHeap s) (statement.variablesAfter s) := by
  cases statement with
  | assign target expression => exact assign_leaves s target expression
  | call function arguments target => exact callInto_leaves s function arguments target
  | random low high target => exact drawInto_leaves s low high target
  | print token => exact leaves_of_heap_eq (by simp) rfl (write_heap s _)
  | input prompt target => exact ask_leaves s prompt target
  | wait token =>
    refine leaves_of_heap_eq (by simp) rfl ?_
    simp only [perform, wait]
    split <;> rfl
  | clear => rfl
  | run file => exact absurd rfl (hrun file)
  | execCommand command =>
    refine leaves_of_heap_eq (by simp) rfl ?_
    show ((s.issue _).andThen _).2.heap = s.heap
    rw [← issue_heap s (unquote command)]
    obtain ⟨_ | _, t⟩ := s.issue (unquote command) <;> rfl
  | importUnit token => exact leaves_of_heap_eq (by simp) rfl (importUnit_heap s token)

end Session

/-! ## Registry and console -/

/-- What a child process of the statement writes to the console. -/
def Statement.childText (s : Session ω) : Statement → String
  | execCommand command =>
    if s.console.shared then (s.host.execute (unquote command) s.world).output else ""
  | _ => ""

/-- What a statement leaves alone that goes to `destination`.  `child` is what a child process
writes to the console. -/
structure Frame (destination : Destination) (child : String) (s t : Session ω) : Prop where
  own : t.own = s.own
  registry : destination ≠ .builtIn .importUnit → t.registry = s.registry
  input : destination ≠ .builtIn .input → t.console.input = s.console.input
  output : ∃ text, t.console.output = s.console.output.write text.toUTF8 ∧
    (destination ≠ .builtIn .print → destination ≠ .builtIn .input → text = child)

namespace Frame

variable {destination : Destination} {s t : Session ω}

theorem of_eq (hown : t.own = s.own) (hregistry : t.registry = s.registry)
    (hconsole : t.console = s.console) : Frame destination "" s t := by
  refine ⟨hown, fun _ => hregistry, fun _ => by rw [hconsole], "", ?_, fun _ _ => rfl⟩
  rw [hconsole, ByteWriter.write_nothing]

/-- The prompt of INPUT, and a line of the input. -/
theorem of_input {console : Console} {heap : Heap} {text : String}
    (houtput : console.output = s.console.output.write text.toUTF8) :
    Frame (.builtIn .input) "" s { s with console := console, heap := heap } :=
  ⟨rfl, fun _ => rfl, fun h => absurd rfl h, text, houtput, fun _ h => absurd rfl h⟩

end Frame

namespace Session

theorem call_frame (destination : Destination) (s : Session ω) (function : String)
    (arguments : List Value) : Frame destination "" s (s.call function arguments).2 := by
  rw [call_eq]
  exact .of_eq rfl rfl rfl

theorem callInto_frame (destination : Destination) (s : Session ω) (function : String)
    (arguments : List String) (target : String) :
    Frame destination "" s (s.callInto function arguments target).2 := by
  have h := call_frame destination s function (arguments.map s.resolve)
  unfold callInto
  generalize s.call function (arguments.map s.resolve) = ending at h ⊢
  obtain ⟨_ | _ | value, t⟩ := ending
  · exact h
  · exact ⟨h.own, h.registry, h.input, h.output⟩
  · exact ⟨h.own, h.registry, h.input, h.output⟩

theorem write_frame (s : Session ω) (text : String) :
    Frame (.builtIn .print) "" s (s.write text).2 := by
  unfold write
  split
  · next console hconsole =>
    rw [Console.write_eq_ok hconsole]
    exact ⟨rfl, fun _ => rfl, fun _ => rfl, text, rfl, fun h => absurd rfl h⟩
  · exact .of_eq rfl rfl rfl

theorem ask_frame (s : Session ω) (prompt target : String) :
    Frame (.builtIn .input) "" s (s.ask prompt target).2 := by
  have hends := s.askEnds prompt target
  generalize s.ask prompt target = ending at hends
  cases hends with
  | refused cause => exact .of_eq rfl rfl rfl
  | notFlushed cause => exact .of_input rfl
  | unread hshown hline => exact .of_input rfl
  | read hshown hline => exact .of_input rfl

theorem issue_snd (s : Session ω) (command : String) :
    (s.issue command).2 =
      (s.note (.commandIssued command)).receive (s.host.execute command s.world) := by
  unfold issue
  dsimp only
  split <;> rfl

theorem receive_frame {α : Type} (destination : Destination) (s : Session ω)
    (reply : Reply ω α) :
    Frame destination (if s.console.shared then reply.output else "") s (s.receive reply) := by
  unfold receive
  dsimp only
  split
  · exact ⟨rfl, fun _ => rfl, fun _ => rfl, _, rfl, fun _ _ => rfl⟩
  · exact .of_eq rfl rfl rfl

/-- A command line adds to the output what a child process writes. -/
theorem issue_frame (destination : Destination) (s : Session ω) (command : String) :
    Frame destination ((Statement.execCommand command).childText s) s
      (s.issue (unquote command)).2 := by
  have h := receive_frame destination (s.note (.commandIssued (unquote command)))
    (s.host.execute (unquote command) s.world)
  rw [issue_snd]
  exact ⟨h.own, h.registry, h.input, h.output⟩

/-- **Registry, input and output.**  Unless it runs a script, a statement leaves the registry to
IMPORT, the input to INPUT and the output to PRINT and INPUT, apart from child processes. -/
theorem perform_frame (nested : String → Session ω → Ending ω Unit) {statement : Statement}
    {command : Keyword} (hcommand : command ∈ statement.commands)
    (hrun : ∀ file, statement ≠ .run file) (s : Session ω) :
    Frame (.builtIn command) (statement.childText s) s (perform nested statement s).2 := by
  cases statement with
  | assign target expression =>
    simp only [perform, assign]
    split <;> exact .of_eq rfl rfl rfl
  | call function arguments target => exact callInto_frame _ s function arguments target
  | random low high target =>
    simp only [perform, drawInto]
    split
    · exact .of_eq rfl rfl rfl
    · split <;> exact .of_eq rfl rfl rfl
  | print token =>
    obtain rfl := List.mem_singleton.mp hcommand
    exact write_frame s _
  | input prompt target =>
    obtain rfl := List.mem_singleton.mp hcommand
    exact ask_frame s prompt target
  | wait token =>
    simp only [perform, wait]
    split <;> exact .of_eq rfl rfl rfl
  | clear => exact .of_eq rfl rfl rfl
  | run file => exact absurd rfl (hrun file)
  | execCommand command =>
    have h := issue_frame (.builtIn .execCommand) s command
    obtain rfl := List.mem_singleton.mp hcommand
    simp only [perform]
    generalize s.issue (unquote command) = ending at h ⊢
    obtain ⟨_ | code, t⟩ := ending
    · exact h
    · exact ⟨h.own, h.registry, h.input, h.output⟩
  | importUnit token =>
    obtain rfl := List.mem_singleton.mp hcommand
    simp only [perform]
    rw [importUnit_eq]
    have h : Frame (.builtIn .importUnit) "" s s := .of_eq rfl rfl rfl
    exact ⟨h.own, fun hne => absurd rfl hne, h.input, h.output⟩

end Session

/-! ## Statements of tokens -/

namespace Session

/-- The stores after the operation that the statement calls which the tokens make up, if it calls
one. -/
def callHeap (s : Session ω) (tokens : List Token) : Heap :=
  match s.destination tokens with
  | .operation name => (s.registry.call s.heap name ((operands tokens).map .text)).heap
  | .builtIn command =>
    match Statement.ofOperands command (operands tokens) with
    | .ok statement => statement.callHeap s
    | .error _ => s.heap
  | .nowhere | .unknown _ => s.heap

theorem callHeap_eq {s : Session ω} (h : s.registry.LeavesStores) (tokens : List Token) :
    s.callHeap tokens = s.heap := by
  unfold callHeap
  split
  · exact h.heap_call s.heap _ _
  · split
    · exact Statement.callHeap_eq h _
    · rfl
  all_goals rfl

theorem callHeap_of_builtIn {s : Session ω} {tokens : List Token} {command : Keyword}
    {statement : Statement} (hplace : s.destination tokens = .builtIn command)
    (hstatement : Statement.ofOperands command (operands tokens) = .ok statement) :
    s.callHeap tokens = statement.callHeap s := by
  simp only [callHeap, hplace, hstatement]

/-- What a child process of the statement that the tokens make up writes to the console. -/
def childText (s : Session ω) (tokens : List Token) : String :=
  match s.destination tokens with
  | .builtIn command =>
    match Statement.ofOperands command (operands tokens) with
    | .ok statement => statement.childText s
    | .error _ => ""
  | _ => ""

/-- What the statement that the tokens make up can come to. -/
inductive Does (nested : String → Session ω → Ending ω Unit) (s : Session ω)
    (tokens : List Token) : Ending ω Outcome → Prop
  /-- There was no token, or it went to an operation, or it was not known. -/
  | elsewhere {result : Except Fault Outcome} (journal : List Event)
      (hplace : ∀ command, s.destination tokens ≠ .builtIn command)
      (hresult : ∀ fault, result = .error fault → ∃ name cause, fault = .invocation name cause) :
      Does nested s tokens (result, { s with heap := s.callHeap tokens, journal := journal })
  /-- A built-in command was not given the operands that it needs. -/
  | malformed {command : Keyword} {fault : Fault} (journal : List Event)
      (hplace : s.destination tokens = .builtIn command)
      (hstatement : Statement.ofOperands command (operands tokens) = .error fault) :
      Does nested s tokens (.error fault, { s with journal := journal })
  | builtIn {command : Keyword} {statement : Statement} (journal : List Event)
      (hplace : s.destination tokens = .builtIn command)
      (hstatement : Statement.ofOperands command (operands tokens) = .ok statement) :
      Does nested s tokens
        ((perform nested statement { s with journal := journal }).andThen executed)

theorem executeWith_does (nested : String → Session ω → Ending ω Unit) (tokens : List Token)
    (s : Session ω) : Does nested s tokens (executeWith nested tokens s) := by
  have helsewhere {heap : Heap} {journal : List Event} {result : Except Fault Outcome}
      (hplace : ∀ command, s.destination tokens ≠ .builtIn command)
      (hheap : heap = s.callHeap tokens)
      (hresult : ∀ fault, result = .error fault → ∃ name cause, fault = .invocation name cause) :
      Does nested s tokens (result, { s with heap := heap, journal := journal }) := by
    rw [hheap]
    exact .elsewhere journal hplace hresult
  rw [executeWith_eq]
  cases hplace : s.destination tokens with
  | nowhere => exact helsewhere (by simp [hplace]) (by simp [callHeap, hplace]) (by simp)
  | unknown name => exact helsewhere (by simp [hplace]) (by simp [callHeap, hplace]) (by simp)
  | operation name =>
    have hheap : (s.registry.call s.heap name ((operands tokens).map .text)).heap =
        s.callHeap tokens := by simp [callHeap, hplace]
    dsimp only
    unfold call
    dsimp only
    split
    · exact helsewhere (by simp [hplace]) hheap (by simp)
    · next cause _ =>
      refine helsewhere (by simp [hplace]) hheap fun fault hfault => ?_
      exact ⟨name, cause, (Except.error.inj hfault).symm⟩
  | builtIn command =>
    dsimp only
    unfold runBuiltIn
    rw [noteSurplus_eq]
    dsimp only
    cases hstatement : Statement.ofOperands command (operands tokens) with
    | ok statement => exact .builtIn _ hplace hstatement
    | error fault => exact .malformed _ hplace hstatement

/-- A built-in command that has enough operands performs its statement. -/
theorem executeWith_of_builtIn (nested : String → Session ω → Ending ω Unit) {s : Session ω}
    {tokens : List Token} {command : Keyword} {statement : Statement}
    (hplace : s.destination tokens = .builtIn command)
    (hstatement : Statement.ofOperands command (operands tokens) = .ok statement) :
    ∃ journal, executeWith nested tokens s =
      (perform nested statement { s with journal := journal }).andThen executed := by
  have hdoes := executeWith_does nested tokens s
  generalize executeWith nested tokens s = ending at hdoes ⊢
  cases hdoes with
  | elsewhere journal hother _ => exact absurd hplace (hother command)
  | malformed journal hother hfault =>
    cases hplace.symm.trans hother
    cases hstatement.symm.trans hfault
  | builtIn journal hother hsame =>
    cases hplace.symm.trans hother
    cases hstatement.symm.trans hsame
    exact ⟨journal, rfl⟩

theorem ne_run_of_destination {s : Session ω} {tokens : List Token} {command : Keyword}
    {statement : Statement} (hrun : s.destination tokens ≠ .builtIn .run)
    (hplace : s.destination tokens = .builtIn command)
    (hstatement : Statement.ofOperands command (operands tokens) = .ok statement)
    (file : String) : statement ≠ .run file := by
  rintro rfl
  obtain ⟨rfl, -⟩ := Statement.ofOperands_eq_run hstatement
  exact hrun hplace

/-- A statement that asks for no script is no RUN that could be performed. -/
theorem ne_run_of_asks_eq_none {s : Session ω} {tokens : List Token} {command : Keyword}
    {statement : Statement} (hasks : s.asks? tokens = none)
    (hplace : s.destination tokens = .builtIn command)
    (hstatement : Statement.ofOperands command (operands tokens) = .ok statement)
    (file : String) : statement ≠ .run file := by
  rintro rfl
  cases tokens with
  | nil => cases hplace
  | cons head rest =>
    unfold destination at hplace
    dsimp only at hplace
    split at hplace
    · cases hplace
    · next hfree =>
      split at hplace
      · next found hfound =>
        cases hplace
        exact ne_run_of_not_asks s head rest command hasks hfree hfound file hstatement
      · cases hplace

/-- Only RUN asks for a script. -/
theorem destination_of_asks {s : Session ω} {tokens : List Token} {asked : Ending ω String}
    (hasks : s.asks? tokens = some asked) : s.destination tokens = .builtIn .run := by
  unfold asks? at hasks
  split at hasks
  · next head file more =>
    split at hasks
    · next hrun =>
      have hname : Keyword.ofName? head.text = some .run :=
        Keyword.ofName?_eq_some_iff.mpr hrun.1.symm
      simp [destination, hrun.2, hname]
    · cases hasks
  · cases hasks

theorem childText_elsewhere {s : Session ω} {tokens : List Token}
    (hplace : ∀ command, s.destination tokens ≠ .builtIn command) : s.childText tokens = "" := by
  unfold childText
  split
  · next command hbuiltIn => exact absurd hbuiltIn (hplace command)
  · rfl

/-- **Registry, input and output**, for the statement that the tokens make up. -/
theorem executeWith_frame (nested : String → Session ω → Ending ω Unit) (tokens : List Token)
    (s : Session ω) (hrun : s.destination tokens ≠ .builtIn .run) :
    Frame (s.destination tokens) (s.childText tokens) s (executeWith nested tokens s).2 := by
  have hdoes := executeWith_does nested tokens s
  generalize executeWith nested tokens s = ending at hdoes ⊢
  cases hdoes with
  | elsewhere journal hplace hresult =>
    rw [childText_elsewhere hplace]
    exact .of_eq rfl rfl rfl
  | malformed journal hplace hstatement =>
    simp only [childText, hplace, hstatement]
    exact .of_eq rfl rfl rfl
  | builtIn journal hplace hstatement =>
    have h := perform_frame nested (Statement.mem_commands hstatement)
      (ne_run_of_destination hrun hplace hstatement) { s with journal := journal }
    rw [snd_andThen_executed]
    simp only [childText, hplace, hstatement]
    exact ⟨h.own, h.registry, h.input, h.output⟩

/-- **Variables**, for the statement that the tokens make up. -/
theorem executeWith_variables (nested : String → Session ω → Ending ω Unit) {tokens : List Token}
    {s : Session ω} (hasks : s.asks? tokens = none) :
    (executeWith nested tokens s).2.heap = s.callHeap tokens ∨
      ∃ command statement, s.destination tokens = .builtIn command ∧
        Statement.ofOperands command (operands tokens) = .ok statement ∧
        (executeWith nested tokens s).2.heap = statement.variablesAfter s := by
  have hdoes := executeWith_does nested tokens s
  generalize executeWith nested tokens s = ending at hdoes ⊢
  cases hdoes with
  | elsewhere journal _ _ => exact .inl rfl
  | malformed journal hplace hstatement =>
    exact .inl (by simp only [callHeap, hplace, hstatement])
  | @builtIn command statement journal hplace hstatement =>
    rw [snd_andThen_executed, callHeap_of_builtIn hplace hstatement]
    rcases (perform_leaves nested statement (ne_run_of_asks_eq_none hasks hplace hstatement)
      { s with journal := journal }).heap_eq with hheap | hheap
    · exact .inl hheap
    · exact .inr ⟨command, statement, hplace, hstatement, hheap⟩

end Session

end LineScript
