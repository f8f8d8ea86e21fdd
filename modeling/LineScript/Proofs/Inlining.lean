import LineScript.Proofs.Comparison
import LineScript.Proofs.Spacing

/-!
Running a script is the same as having its lines in place of the statement that runs it.

The nested script runs one level deeper than the lines in its place would, so the two runs are
compared by a comparison that lets the first of them be cut short at the limit of nesting
(`Comparison.inlining`).  Nothing but the journal tells the two final states apart, and the
journal has the same commands and the same applications of operations.

Main statement: `run_is_inlining`.
-/

namespace LineScript

variable {ω : Type}

/-! ## Hosts with fixed scripts -/

theorem Host.Serves.of_reaches {host : Host ω} {start world : ω}
    {scripts : String → Except String String} (h : host.Serves start scripts)
    (hworld : host.Reaches start world) : host.Serves world scripts :=
  fun other hother => h other (hworld.trans hother)

/-- A table of scripts is fixed. -/
theorem Host.serves_ofTable (table : HostTable) :
    Host.ofTable.Serves table fun name => (Host.ofTable.readScript name table).result := by
  intro world hworld name
  obtain rfl := Host.eq_of_reaches_ofTable hworld
  exact ⟨rfl, rfl, rfl, rfl⟩

/-! ## Names that stay free -/

/-- No operation has the name, and no unit that can be imported brings one. -/
def Session.NeverRegisters (s : Session ω) (name : String) : Prop :=
  s.registry.contains name = false ∧
  ∀ key unit, s.catalog.lookup key = some unit → ∀ entry ∈ unit.operations, entry.1 ≠ name

theorem ExtensionUnit.contains_registerAll (unit : ExtensionUnit) (registry : Registry)
    (name : String) (hunit : ∀ entry ∈ unit.operations, entry.1 ≠ name)
    (hfree : registry.contains name = false) :
    (unit.registerAll registry).contains name = false := by
  unfold ExtensionUnit.registerAll
  revert hunit
  induction unit.operations generalizing registry with
  | nil => exact fun _ => hfree
  | cons entry rest ih =>
    intro hunit
    obtain ⟨hentry, hrest⟩ := List.forall_mem_cons.mp hunit
    refine ih (registry.register entry.1 entry.2) ?_ hrest
    simp [Registry.register, Std.ExtTreeMap.contains_insert, hentry, hfree]

theorem Registry.contains_importAll (units : List ExtensionUnit) (registry : Registry)
    (name : String) (hunits : ∀ unit ∈ units, ∀ entry ∈ unit.operations, entry.1 ≠ name)
    (hfree : registry.contains name = false) :
    (registry.importAll units).contains name = false := by
  induction units generalizing registry with
  | nil => exact hfree
  | cons unit rest ih =>
    obtain ⟨hunit, hrest⟩ := List.forall_mem_cons.mp hunits
    exact ih (unit.registerAll registry) hrest
      (unit.contains_registerAll registry name hunit hfree)

namespace Session

/-- What is never registered is free in every later state. -/
theorem NeverRegisters.contains_of_later {s t : Session ω} {name : String}
    (h : s.NeverRegisters name) (hlater : s.Later t) : t.registry.contains name = false := by
  obtain ⟨units, hunits, hregistry⟩ := hlater.registry
  rw [hregistry]
  refine Registry.contains_importAll units s.registry name (fun unit hunit => ?_) h.1
  obtain ⟨key, hkey⟩ := hunits unit hunit
  exact h.2 key unit hkey

theorem start_neverRegisters_run (host : Host ω) (world : ω) :
    (start host world).NeverRegisters Keyword.run.name := by
  refine ⟨by simp [start], fun key unit hunit => ?_⟩
  rcases Catalog.eq_of_lookup_bundled hunit with rfl | rfl
  · simp [textUnit, textOperation, Keyword.name]
  · simp [mathUnit, Keyword.name]

/-! ## Reading a fixed script -/

/-- Reading a script that is fixed leaves its trace in the journal only. -/
theorem readScript_of_serves (s : Session ω) {scripts : String → Except String String}
    (h : s.host.Serves s.world scripts) (name text : String) (hname : scripts name = .ok text) :
    s.readScript name = (.ok text, (s.note (.scriptRequested name)).noteAll
      ((s.host.readScript name s.world).notes.map .hostNote)) := by
  obtain ⟨hresult, hworld, houtput, herrors⟩ := h s.world .start name
  rw [hname] at hresult
  unfold readScript
  dsimp only
  rw [hresult]
  simp only [receive, hworld, houtput, herrors, ByteWriter.write_nothing, ite_self]
  rfl

/-- The statement with one quoted operand asks for the script of that name. -/
theorem asks?_run (s : Session ω) (file : String)
    (hfree : s.registry.contains Keyword.run.name = false) :
    s.asks? (Keyword.run.quotedTokens file) =
      some ((s.note (.performed .run)).readScript file) := by
  simp [asks?, Keyword.quotedTokens, unquote_quoted, hfree, noteSurplus, Keyword.surplus,
    Keyword.operandCount?]

end Session

/-! ## The nested script and its lines -/

/-- Do both runs have to have the event in common?  Commands and applications of operations. -/
def Event.isOutward (event : Event) : Bool :=
  event.command?.isSome || event.application?.isSome

/-- The first run is the nested one: it may be cut short. -/
def Comparison.inlining (own : StoreId) : Comparison :=
  .exact own Event.isOutward True fun _ _ => rfl

namespace Session

/-- Two states that differ in their journals alone, with the same commands for the host and the
same applications of operations. -/
structure SameEffects (s t : Session ω) : Prop where
  state : t = { s with journal := t.journal }
  commands : t.commands = s.commands
  applications : t.applications = s.applications

/-- What is read off the outward events is the same where these are. -/
theorem filterMap_events_eq {α : Type} {s t : Session ω} (f : Event → Option α)
    (hf : ∀ event, event.isOutward = false → f event = none)
    (h : t.journal.filter Event.isOutward = s.journal.filter Event.isOutward) :
    t.events.filterMap f = s.events.filterMap f := by
  have houtward (events : List Event) :
      events.filterMap f = (events.filter Event.isOutward).filterMap f := by
    rw [List.filterMap_filter]
    congr 1
    funext event
    cases hevent : event.isOutward with
    | true => rfl
    | false => simpa using hf event hevent
  rw [houtward, houtward s.events, events, events, List.filter_reverse, List.filter_reverse, h]

theorem sameEffects_of_matched {s t u : Session ω} (hs : u.Later s) (ht : u.Later t)
    (h : (Comparison.inlining u.own).Matched t s) : s.SameEffects t where
  state := by rw [Comparison.exact_state_eq ht hs h]
  commands := by
    refine filterMap_events_eq _ (fun event he => ?_) h.journal.symm
    cases event <;> simp_all [Event.isOutward, Event.command?, Event.application?]
  applications := by
    refine filterMap_events_eq _ (fun event he => ?_) h.journal.symm
    cases event <;> simp_all [Event.isOutward, Event.command?, Event.application?]

/-- A nested script does what its lines do, unless there is no place left for it. -/
theorem agrees_nestedRun_lines {C : Comparison} (hstop : C.mayStop) (places : Nat) (text : String)
    (htext : TextAllowed C.AdmitsTokens text) {s t : Session ω} (hs : C.Matched s t) :
    C.Agrees (nestedRun places text s) (runLinesWith (nestedRun places) (Text.lines text) t) := by
  cases places with
  | zero => exact .inl ⟨hstop, _, rfl⟩
  | succ places =>
    have hn := Comparison.agrees_nestedRun (ω := ω) (C := C) (Nat.le_succ places) (.inl hstop)
    rcases Comparison.agrees_runLinesWith hn (Text.lines text) htext (hs.enter_left hstop) with
      hcut | ⟨hresult, hafter⟩
    · exact .inl hcut
    · exact .inr ⟨hresult, hafter.leave_left hstop⟩

/-- Asking for a fixed script does nothing outward. -/
theorem matched_readScript {own : StoreId} {s t : Session ω}
    (hs : (Comparison.inlining own).Matched s t) {scripts : String → Except String String}
    (hserves : s.host.Serves s.world scripts) (name text : String)
    (hname : scripts name = .ok text) :
    ∃ v, s.readScript name = (.ok text, v) ∧ (Comparison.inlining own).Matched v t := by
  refine ⟨_, readScript_of_serves s hserves name text hname, ?_⟩
  refine Comparison.Matched.noteAll_left (hs.note_left rfl) fun event he => ?_
  obtain ⟨note, -, rfl⟩ := List.mem_map.mp he
  rfl

/-- The line that runs a script goes on with the text of the script, in a state that has not
changed but for the journal. -/
theorem runLineWith_quotedLine_run (nested : String → Session ω → Ending ω Unit) (s : Session ω)
    {scripts : String → Except String String} (hserves : s.host.Serves s.world scripts)
    (hfree : s.registry.contains Keyword.run.name = false) (file text : String)
    (hquote : '"' ∉ file.toList) (hcomment : ¬ ['/', '/'] <:+: file.toList)
    (hfile : scripts file = .ok text) :
    ∃ v, (Comparison.inlining s.own).Matched v s ∧
      runLineWith nested (Keyword.run.quotedLine file) s = (nested text v).andThen executed := by
  have htokens := tokenize_quotedLine .run file hquote hcomment
  let scanned := s.note (.scanned (Keyword.run.quotedTokens file))
  have hscanned : (Comparison.inlining s.own).Matched (scanned.note (.performed .run)) s :=
    ((Comparison.exact_matched s).note_left rfl).note_left rfl
  obtain ⟨v, hread, hv⟩ := matched_readScript hscanned hserves file text hfile
  refine ⟨v, hv, ?_⟩
  rw [runLineWith_of_tokens nested _ _ s htokens,
    executeWith_of_asks nested _ scanned _ (asks?_run scanned file hfree), hread]
  rfl

/-- A program that goes on behind the script agrees with the one that has the lines there. -/
theorem agrees_run_lines (s : Session ω) {scripts : String → Except String String}
    (hserves : s.host.Serves s.world scripts)
    (hfree : s.registry.contains Keyword.run.name = false) (file text : String)
    (hquote : '"' ∉ file.toList) (hcomment : ¬ ['/', '/'] <:+: file.toList)
    (hfile : scripts file = .ok text) (behind : List String) (places : Nat) :
    (Comparison.inlining s.own).Agrees
      (runLinesWith (nestedRun places) ([Keyword.run.quotedLine file] ++ behind) s)
      (runLinesWith (nestedRun places) (Text.lines text ++ behind) s) := by
  obtain ⟨v, hv, hline⟩ := runLineWith_quotedLine_run (nestedRun places) s hserves hfree file text
    hquote hcomment hfile
  have hbehind : (Comparison.inlining s.own).AgreesNested (ω := ω) (nestedRun places)
      (nestedRun places) :=
    Comparison.agrees_nestedRun (Nat.le_refl places) (.inr rfl)
  have hrun : runLinesWith (nestedRun places) ([Keyword.run.quotedLine file] ++ behind) s =
      (nestedRun places text v).andThen fun _ t => runLinesWith (nestedRun places) behind t := by
    rw [List.singleton_append, runLinesWith, isBlank_quotedLine, hline, Ending.andThen_assoc]
    rfl
  rw [hrun, runLinesWith_append]
  refine (agrees_nestedRun_lines trivial places text (fun _ _ => Comparison.exact_lineAllowed _)
    hv).andThen fun _ _ _ _ ht => ?_
  exact Comparison.agrees_runLinesWith hbehind behind (fun _ _ => Comparison.exact_lineAllowed _) ht

end Session

open Session in
/-- **Running a script is inlining it.**  Let RUN name the built-in command for good, let the
scripts of the host be fixed, and let `file` be the name of one of them.  A program that runs it
ends, unless it is cut short at the limit of nesting, with the result and the state of the program
that has the lines of the script in that place. -/
theorem run_is_inlining (s : Session ω) (scripts : String → Except String String)
    (hserves : s.host.Serves s.world scripts) (hfree : s.NeverRegisters Keyword.run.name)
    (file text : String) (hquote : '"' ∉ file.toList) (hcomment : ¬ ['/', '/'] <:+: file.toList)
    (hfile : scripts file = .ok text) (before behind : List String) :
    let nested := s.runLines (before ++ [Keyword.run.quotedLine file] ++ behind)
    let inlined := s.runLines (before ++ Text.lines text ++ behind)
    (∃ limit, nested.1 = .error (.nestingTooDeep limit)) ∨
      (nested.1 = inlined.1 ∧ inlined.2.SameEffects nested.2) := by
  intro nested inlined
  have hagrees : (Comparison.inlining s.own).Agrees nested inlined := by
    unfold nested inlined runLines
    rw [List.append_assoc, List.append_assoc, runLinesWith_append, runLinesWith_append]
    have hlater := later_runLinesWith (later_nestedRun s.room) before s
    generalize runLinesWith (nestedRun s.room) before s = first at hlater
    obtain ⟨result, u⟩ := first
    have hown : u.own = s.own := hlater.own
    have hhost : u.host = s.host := hlater.host
    rw [← hown]
    cases result with
    | error fault => exact .of_matched (Comparison.exact_matched u) _
    | ok _ =>
      refine agrees_run_lines u ?_ (hfree.contains_of_later hlater) file text hquote hcomment
        hfile behind s.room
      rw [hhost]
      exact hserves.of_reaches hlater.reaches
  rcases hagrees with ⟨-, hcut⟩ | ⟨hresult, hafter⟩
  · exact .inl hcut
  · exact .inr ⟨hresult, sameEffects_of_matched (later_runLines _ s) (later_runLines _ s) hafter⟩

/-- A script that runs a further script, between other lines. -/
theorem run_is_inlining_of_outer :
    let table : HostTable :=
      ⟨[("outer", "RUN \"inner\"\nPRINT x"), ("inner", "STORE x 1")], []⟩
    let s := Session.start Host.ofTable table
    let nested := s.runLines (["STORE x 0"] ++ [Keyword.run.quotedLine "outer"] ++ ["PRINT y"])
    let inlined :=
      s.runLines (["STORE x 0"] ++ Text.lines "RUN \"inner\"\nPRINT x" ++ ["PRINT y"])
    (∃ limit, nested.1 = .error (.nestingTooDeep limit)) ∨
      (nested.1 = inlined.1 ∧ inlined.2.SameEffects nested.2) := by
  intro table s nested inlined
  refine run_is_inlining s _ (Host.serves_ofTable table)
    (Session.start_neverRegisters_run Host.ofTable table) "outer" _ ?_ ?_ ?_ _ _
  · decide
  · decide
  · rfl

end LineScript
