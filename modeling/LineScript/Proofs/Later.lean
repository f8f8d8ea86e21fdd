import LineScript.Proofs.Dispatch

/-!
What no run changes.

`s.Later t` says that `t` can come out of `s` by running something: the settings, the host, the
catalog and the depth of nesting are the same, the registry has grown by units of the catalog
alone, and the journal has been continued.  The world has been moved on by what the journal says
that the host was asked, and by nothing else.

Every step that statements are made of changes a few fields of the state (`write_eq`, `issue_eq`
and so on) and leads to a later one, and so does every run, whatever the host answers
(`later_nestedRun`, `later_runLines`).  In particular a run that goes through nested scripts, or
ends with a fault inside one, leaves the depth that it found.
-/

namespace LineScript

theorem Host.Reaches.trans {ω : Type} {host : Host ω} {a b c : ω} (hab : host.Reaches a b)
    (hbc : host.Reaches b c) : host.Reaches a c := by
  induction hbc with
  | start => exact hab
  | read name _ ih => exact .read name ih
  | execute command _ ih => exact .execute command ih

/-- Asking a table changes nothing. -/
theorem Host.eq_of_reaches_ofTable {table world : HostTable}
    (h : Host.ofTable.Reaches table world) : world = table := by
  induction h with
  | start => rfl
  | read name _ ih => exact ih
  | execute command _ ih => exact ih

/-- What an event does to the world: asking the host moves it on. -/
def Host.turn {ω : Type} (host : Host ω) (event : Event) (world : ω) : ω :=
  match event with
  | .scriptRequested name => (host.readScript name world).world
  | .commandIssued command => (host.execute command world).world
  | _ => world

/-- The world after a journal, whose last event is the first of the list. -/
def Host.worldAfter {ω : Type} (host : Host ω) (start : ω) (journal : List Event) : ω :=
  journal.foldr host.turn start

theorem Host.worldAfter_append {ω : Type} (host : Host ω) (start : ω) (later earlier : List Event) :
    host.worldAfter start (later ++ earlier) =
      host.worldAfter (host.worldAfter start earlier) later :=
  List.foldr_append

theorem Host.worldAfter_of_turn {ω : Type} (host : Host ω) (start : ω) (events : List Event)
    (h : ∀ event ∈ events, ∀ world, host.turn event world = world) :
    host.worldAfter start events = start := by
  induction events with
  | nil => rfl
  | cons event rest ih =>
    have hrest := ih fun e he => h e (List.mem_cons_of_mem _ he)
    show host.turn event (host.worldAfter start rest) = start
    rw [h event List.mem_cons_self, hrest]

theorem Host.reaches_worldAfter {ω : Type} (host : Host ω) (start : ω) (journal : List Event) :
    host.Reaches start (host.worldAfter start journal) := by
  induction journal with
  | nil => exact .start
  | cons event earlier ih =>
    show host.Reaches start (host.turn event (host.worldAfter start earlier))
    cases event with
    | scriptRequested name => exact .read name ih
    | commandIssued command => exact .execute command ih
    | _ => exact ih

/-- The registry after units have been registered in order. -/
def Registry.importAll (registry : Registry) (units : List ExtensionUnit) : Registry :=
  units.foldl (fun r unit => unit.registerAll r) registry

theorem Registry.LeavesStores.importAll {registry : Registry} (h : registry.LeavesStores)
    {units : List ExtensionUnit} (hunits : ∀ unit ∈ units, unit.LeavesStores) :
    (registry.importAll units).LeavesStores := by
  induction units generalizing registry with
  | nil => exact h
  | cons unit rest ih =>
    obtain ⟨hfirst, hrest⟩ := List.forall_mem_cons.mp hunits
    exact ih (h.registerAll hfirst) hrest

namespace Session

variable {ω : Type}

/-- `t` is a state that running something can lead to from `s`. -/
structure Later (s t : Session ω) : Prop where
  own : t.own = s.own
  catalog : t.catalog = s.catalog
  host : t.host = s.host
  config : t.config = s.config
  depth : t.depth = s.depth
  registry : ∃ units : List ExtensionUnit,
    (∀ unit ∈ units, ∃ name, s.catalog.lookup name = some unit) ∧
      t.registry = s.registry.importAll units
  journal : ∃ added, t.journal = added ++ s.journal ∧ t.world = s.host.worldAfter s.world added

theorem Later.refl (s : Session ω) : s.Later s :=
  ⟨rfl, rfl, rfl, rfl, rfl, ⟨[], by simp, rfl⟩, ⟨[], rfl, rfl⟩⟩

theorem Later.trans {s t u : Session ω} (hst : s.Later t) (htu : t.Later u) : s.Later u := by
  obtain ⟨before, hbefore, eb⟩ := hst.registry
  obtain ⟨after, hafter, ea⟩ := htu.registry
  obtain ⟨first, ef, wf⟩ := hst.journal
  obtain ⟨second, es, ws⟩ := htu.journal
  refine ⟨htu.own.trans hst.own, htu.catalog.trans hst.catalog, htu.host.trans hst.host,
    htu.config.trans hst.config, htu.depth.trans hst.depth, ⟨before ++ after, ?_, ?_⟩,
    ⟨second ++ first, ?_, ?_⟩⟩
  · intro unit hunit
    rcases List.mem_append.mp hunit with h | h
    · exact hbefore unit h
    · rw [← hst.catalog]; exact hafter unit h
  · rw [ea, eb, Registry.importAll, Registry.importAll, Registry.importAll, List.foldl_append]
  · rw [es, ef, List.append_assoc]
  · rw [ws, wf, hst.host, Host.worldAfter_append]

theorem Later.reaches {s t : Session ω} (h : s.Later t) : s.host.Reaches s.world t.world := by
  obtain ⟨added, -, hw⟩ := h.journal
  rw [hw]
  exact s.host.reaches_worldAfter s.world added

/-- Steps that touch nothing but variables, streams and the generator. -/
theorem Later.of_small_step {s t : Session ω} (h : t = { s with
      heap := t.heap, console := t.console, chance := t.chance }) : s.Later t := by
  rw [h]
  exact ⟨rfl, rfl, rfl, rfl, rfl, ⟨[], by simp, rfl⟩, ⟨[], rfl, rfl⟩⟩

/-! ## What each step leaves alone -/

theorem call_eq (s : Session ω) (function : String) (arguments : List Value) :
    (s.call function arguments).2 =
      { s with
        heap := (s.registry.call s.heap function arguments).heap
        journal := (s.call function arguments).2.journal } := by
  unfold call
  dsimp only
  split <;> rfl

theorem write_eq (s : Session ω) (text : String) :
    (s.write text).2 = { s with console := (s.write text).2.console } := by
  unfold write
  split <;> rfl

theorem flush_eq (s : Session ω) : s.flush.2 = { s with console := s.flush.2.console } := by
  unfold flush
  split <;> rfl

theorem readLine_eq (s : Session ω) :
    s.readLine.2 = { s with console := s.readLine.2.console } := by
  unfold readLine
  dsimp only
  split <;> rfl

theorem readScript_eq (s : Session ω) (name : String) :
    (s.readScript name).2 = { s with
      console := (s.readScript name).2.console, world := (s.readScript name).2.world,
      journal := (s.readScript name).2.journal } := by
  unfold readScript
  dsimp only
  split <;> rfl

theorem issue_eq (s : Session ω) (command : String) :
    (s.issue command).2 = { s with
      console := (s.issue command).2.console, world := (s.issue command).2.world,
      journal := (s.issue command).2.journal } := by
  unfold issue
  dsimp only
  split <;> rfl

theorem registerUnit_registry (s : Session ω) (unit : ExtensionUnit) :
    (s.registerUnit unit).registry = unit.registerAll s.registry := by
  unfold registerUnit ExtensionUnit.registerAll
  induction unit.operations generalizing s with
  | nil => rfl
  | cons entry rest ih => exact ih _

/-- Registering a unit changes the registry and the journal only. -/
theorem registerUnit_eq (s : Session ω) (unit : ExtensionUnit) :
    s.registerUnit unit = { s with
      registry := (s.registerUnit unit).registry, journal := (s.registerUnit unit).journal } := by
  unfold registerUnit
  induction unit.operations generalizing s with
  | nil => rfl
  | cons entry rest ih => exact ih _

theorem importUnit_eq (s : Session ω) (token : String) :
    (s.importUnit token).2 = { s with
      registry := (s.importUnit token).2.registry,
      journal := (s.importUnit token).2.journal } := by
  unfold importUnit
  split
  · rfl
  · split
    · rfl
    · next unit _ =>
      dsimp only
      rw [registerUnit_eq]
      split <;> rfl

/-! ## Steps -/

theorem later_note (s : Session ω) (event : Event) (h : s.host.turn event s.world = s.world) :
    s.Later (s.note event) :=
  ⟨rfl, rfl, rfl, rfl, rfl, ⟨[], by simp, rfl⟩, ⟨[event], rfl, h.symm⟩⟩

theorem later_noteAll (s : Session ω) (events : List Event)
    (h : ∀ event ∈ events, ∀ world, s.host.turn event world = world) : s.Later (s.noteAll events) :=
  ⟨rfl, rfl, rfl, rfl, rfl, ⟨[], by simp, rfl⟩, ⟨events.reverse, rfl,
    (s.host.worldAfter_of_turn s.world _ fun e he => h e (List.mem_reverse.mp he)).symm⟩⟩

theorem later_noteSurplus (s : Session ω) (command : Keyword) (given : List String) :
    s.Later (s.noteSurplus command given) := by
  unfold noteSurplus
  dsimp only
  split
  · exact .refl s
  · exact later_note s _ rfl

theorem later_bind (s : Session ω) (name : String) (value : Value) : s.Later (s.bind name value) :=
  .of_small_step rfl

theorem later_clearVariables (s : Session ω) : s.Later s.clearVariables :=
  .of_small_step rfl

theorem later_call (s : Session ω) (function : String) (arguments : List Value) :
    s.Later (s.call function arguments).2 := by
  have h := later_noteAll s
    ((s.registry.call s.heap function arguments).applications.map .applied) (by simp [Host.turn])
  unfold call
  dsimp only
  split <;> exact h.trans (.of_small_step rfl)

theorem later_write (s : Session ω) (text : String) : s.Later (s.write text).2 := by
  rw [write_eq]
  exact .of_small_step rfl

theorem later_flush (s : Session ω) : s.Later s.flush.2 := by
  rw [flush_eq]
  exact .of_small_step rfl

theorem later_readLine (s : Session ω) : s.Later s.readLine.2 := by
  rw [readLine_eq]
  exact .of_small_step rfl

/-- An event for the host and the answer to it belong together: the event says how the world was
moved on. -/
theorem later_receive {α : Type} (s : Session ω) (event : Event) (reply : Reply ω α)
    (h : reply.world = s.host.turn event s.world) : s.Later ((s.note event).receive reply) := by
  refine ⟨rfl, rfl, rfl, rfl, rfl, ⟨[], by simp, rfl⟩,
    ⟨(reply.notes.map Event.hostNote).reverse ++ [event], ?_, ?_⟩⟩
  · show (reply.notes.map Event.hostNote).reverse ++ event :: s.journal = _
    rw [List.append_assoc]
    rfl
  · rw [Host.worldAfter_append, Host.worldAfter_of_turn _ _ _ (by simp [Host.turn])]
    exact h

theorem later_readScript (s : Session ω) (name : String) : s.Later (s.readScript name).2 := by
  have h := later_receive s (.scriptRequested name) (s.host.readScript name s.world) rfl
  unfold readScript
  dsimp only
  split <;> exact h

theorem later_issue (s : Session ω) (command : String) : s.Later (s.issue command).2 := by
  have h := later_receive s (.commandIssued command) (s.host.execute command s.world) rfl
  unfold issue
  dsimp only
  split <;> exact h

theorem registerUnit_journal (s : Session ω) (unit : ExtensionUnit) :
    ∃ added, (s.registerUnit unit).journal = added ++ s.journal ∧
      ∀ event ∈ added, ∃ name arity replaced, event = .registered name arity replaced := by
  unfold registerUnit
  induction unit.operations generalizing s with
  | nil => exact ⟨[], rfl, by simp⟩
  | cons entry rest ih =>
    obtain ⟨added, hjournal, hadded⟩ := ih (s.register entry.1 entry.2)
    refine ⟨added ++ [.registered entry.1 entry.2.arity (s.registry.contains entry.1)], ?_, ?_⟩
    · rw [List.append_assoc]
      exact hjournal
    · intro event he
      rcases List.mem_append.mp he with he | he
      · exact hadded event he
      · exact ⟨_, _, _, List.mem_singleton.mp he⟩

theorem later_registerUnit (s : Session ω) (name : String) (unit : ExtensionUnit)
    (h : s.catalog.lookup name = some unit) : s.Later (s.registerUnit unit) := by
  obtain ⟨added, hjournal, hadded⟩ := registerUnit_journal s unit
  refine ⟨?_, ?_, ?_, ?_, ?_, ⟨[unit], ?_, registerUnit_registry s unit⟩, ⟨added, hjournal, ?_⟩⟩
  · rw [registerUnit_eq]
  · rw [registerUnit_eq]
  · rw [registerUnit_eq]
  · rw [registerUnit_eq]
  · rw [registerUnit_eq]
  · intro u hu
    exact ⟨name, by rw [List.mem_singleton.mp hu]; exact h⟩
  · rw [registerUnit_eq, Host.worldAfter_of_turn]
    intro event he world
    obtain ⟨_, _, _, rfl⟩ := hadded event he
    rfl

theorem later_andThen {α β : Type} {s : Session ω} {ending : Ending ω α}
    {next : α → Session ω → Ending ω β} (h : s.Later ending.2)
    (hn : ∀ value (t : Session ω), t.Later (next value t).2) :
    s.Later (ending.andThen next).2 := by
  obtain ⟨_ | value, t⟩ := ending
  · exact h
  · exact h.trans (hn value t)

/-! ## Statements -/

theorem later_assign (s : Session ω) (target : String) (expression : Expression) :
    s.Later (s.assign target expression).2 := by
  unfold assign
  split
  · exact later_bind s _ _
  · exact .refl s

theorem later_callInto (s : Session ω) (function : String) (arguments : List String)
    (target : String) : s.Later (s.callInto function arguments target).2 := by
  refine later_andThen (later_call s _ _) fun value t => ?_
  cases value with
  | some value => exact later_bind t _ _
  | none => exact later_note t _ rfl

theorem later_drawInto (s : Session ω) (low high target : String) :
    s.Later (s.drawInto low high target).2 := by
  unfold drawInto
  split
  · exact .refl s
  · split
    · exact later_bind s _ _
    · exact .of_small_step rfl

theorem later_ask (s : Session ω) (prompt target : String) : s.Later (s.ask prompt target).2 :=
  later_andThen (later_write s _) fun _ t =>
    later_andThen (later_flush t) fun _ u =>
      later_andThen (later_readLine u) fun _ v => later_bind v _ _

theorem later_wait (s : Session ω) (token : String) : s.Later (s.wait token).2 := by
  unfold wait
  split <;> exact .refl s

theorem later_importUnit (s : Session ω) (token : String) : s.Later (s.importUnit token).2 := by
  unfold importUnit
  split
  · exact .refl s
  · next name _ =>
    split
    · exact .refl s
    · next unit hunit =>
      have h := later_registerUnit s name unit hunit
      dsimp only
      split
      · exact h
      · exact h.trans (later_note _ _ rfl)

variable {nested : String → Session ω → Ending ω Unit}

theorem later_perform (hn : ∀ text (s : Session ω), s.Later (nested text s).2)
    (statement : Statement) (s : Session ω) : s.Later (perform nested statement s).2 := by
  cases statement with
  | assign target expression => exact later_assign s target expression
  | call function arguments target => exact later_callInto s function arguments target
  | random low high target => exact later_drawInto s low high target
  | print token => exact later_write s _
  | input prompt target => exact later_ask s prompt target
  | wait token => exact later_wait s token
  | clear => exact later_clearVariables s
  | run file => exact later_andThen (later_readScript s _) hn
  | execCommand command =>
    exact later_andThen (later_issue s _) fun _ t => later_note t _ rfl
  | importUnit token => exact later_importUnit s token

theorem later_runBuiltIn (hn : ∀ text (s : Session ω), s.Later (nested text s).2)
    (command : Keyword) (given : List String) (s : Session ω) :
    s.Later (runBuiltIn nested command given s).2 := by
  have hs := (later_note s (.performed command) rfl).trans (later_noteSurplus _ command given)
  unfold runBuiltIn
  dsimp only
  split
  · exact hs.trans (later_perform hn _ _)
  · exact hs

theorem later_executeWith (hn : ∀ text (s : Session ω), s.Later (nested text s).2)
    (tokens : List Token) (s : Session ω) : s.Later (executeWith nested tokens s).2 := by
  unfold executeWith
  split
  · exact .refl s
  · dsimp only
    split
    · exact later_andThen ((later_note s _ rfl).trans (later_call _ _ _)) fun _ t => .refl t
    · split
      · exact later_andThen (later_runBuiltIn hn _ _ s) fun _ t => .refl t
      · exact later_note s _ rfl

theorem later_asks (s : Session ω) (tokens : List Token) (asked : Ending ω String)
    (h : s.asks? tokens = some asked) : s.Later asked.2 := by
  obtain ⟨head, file, more, rfl, -, rfl⟩ := eq_of_asks h
  exact ((later_note s _ rfl).trans (later_noteSurplus _ _ _)).trans (later_readScript _ _)

/-! ## Runs -/

theorem later_runLineWith (hn : ∀ text (s : Session ω), s.Later (nested text s).2)
    (line : String) (s : Session ω) : s.Later (runLineWith nested line s).2 := by
  unfold runLineWith
  split
  · exact .refl s
  · exact (later_note s _ rfl).trans (later_executeWith hn _ _)

theorem later_runLinesWith (hn : ∀ text (s : Session ω), s.Later (nested text s).2)
    (lines : List String) (s : Session ω) : s.Later (runLinesWith nested lines s).2 := by
  induction lines generalizing s with
  | nil => exact .refl s
  | cons line rest ih =>
    unfold runLinesWith
    split
    · exact ih s
    · exact later_andThen (later_runLineWith hn line s) fun _ t => ih t

/-- What a nested script is run between: one deeper than outside, and back again. -/
theorem Later.leave {s t : Session ω} (h : s.enter.Later t) : s.Later t.leave := by
  obtain ⟨added, hjournal, hworld⟩ := h.journal
  refine ⟨h.own, h.catalog, h.host, h.config, ?_, h.registry,
    ⟨added ++ [.entered (s.depth + 1)], ?_, hworld.trans ?_⟩⟩
  · show t.depth - 1 = s.depth
    rw [h.depth]
    rfl
  · rw [List.append_assoc]
    exact hjournal
  · rw [Host.worldAfter_append]
    rfl

theorem later_nestedRun (places : Nat) (text : String) (s : Session ω) :
    s.Later (nestedRun places text s).2 := by
  induction places generalizing text s with
  | zero => exact .refl s
  | succ places ih => exact (later_runLinesWith ih (Text.lines text) s.enter).leave

theorem later_execute (tokens : List Token) (s : Session ω) : s.Later (s.execute tokens).2 :=
  later_executeWith (later_nestedRun s.room) tokens s

theorem later_runLine (line : String) (s : Session ω) : s.Later (s.runLine line).2 :=
  later_runLineWith (later_nestedRun s.room) line s

theorem later_runLines (lines : List String) (s : Session ω) : s.Later (s.runLines lines).2 :=
  later_runLinesWith (later_nestedRun s.room) lines s

/-- So long as the depth is what it was, so is the room for further nesting. -/
theorem Later.room {s t : Session ω} (h : s.Later t) : t.room = s.room := by
  unfold Session.room
  rw [h.config, h.depth]

end Session

end LineScript
