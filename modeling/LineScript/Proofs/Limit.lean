import LineScript.Proofs.Failure
import LineScript.Proofs.Inlining

/-!
The limit of nesting.

A run looks at the limit in one place alone: where a nested script is to begin.  So the same program
runs in the same way under a smaller and a larger limit, until the smaller one cuts it short.  Then
the fault goes out through all scripts that are being run and nothing more is done, so that what was
written, read and asked of the host by then is the beginning of what the other run comes to
(`Precedes`).

* A statement that asks for no script does not see the limit (`executeWith_withLimit`).
* Every run goes on from what was done before (`precedes_of_runs`).
* The two runs are kept in step by `CutShort`, nested script by nested script
  (`cutShort_nestedRun`).

Main statement: `limit_only_cuts_runs_short`.
-/

namespace LineScript

variable {ω α β : Type}

namespace Session

def withLimit (s : Session ω) (limit : Nat) : Session ω :=
  { s with config := { s.config with maxRunDepth := limit } }

/-- What was written, read and done in `s` is the beginning of what was in `t`. -/
structure Precedes (s t : Session ω) : Prop where
  output : ∃ more, t.console.output.written = s.console.output.written ++ more
  /-- The bytes that are unread in `t` are the last ones of those that are in `s`. -/
  input : t.console.input.unread <:+ s.console.input.unread
  events : s.events <+: t.events

end Session

/-- The end of the same step under this limit, if the step does not see it. -/
def Ending.withLimit (ending : Ending ω α) (limit : Nat) : Ending ω α :=
  (ending.1, ending.2.withLimit limit)

namespace Session

/-! ## Statements do not see the limit -/

theorem andThen_withLimit {ending : Ending ω α} {next next' : α → Session ω → Ending ω β}
    {limit : Nat} (hnext : ∀ value t, next' value (t.withLimit limit) =
      (next value t).withLimit limit) :
    (ending.withLimit limit).andThen next' = (ending.andThen next).withLimit limit := by
  obtain ⟨_ | value, t⟩ := ending
  · rfl
  · exact hnext value t

section

variable (s : Session ω) (limit : Nat)

theorem note_withLimit (event : Event) :
    (s.withLimit limit).note event = (s.note event).withLimit limit := rfl

theorem resolve_withLimit : (s.withLimit limit).resolve = s.resolve := rfl

theorem call_withLimit (function : String) (arguments : List Value) :
    (s.withLimit limit).call function arguments =
      (s.call function arguments).withLimit limit := by
  unfold call withLimit
  dsimp only
  split <;> rfl

theorem write_withLimit (text : String) :
    (s.withLimit limit).write text = (s.write text).withLimit limit := by
  unfold write withLimit
  dsimp only
  split <;> rfl

theorem flush_withLimit : (s.withLimit limit).flush = s.flush.withLimit limit := by
  unfold flush withLimit
  dsimp only
  split <;> rfl

theorem readLine_withLimit : (s.withLimit limit).readLine = s.readLine.withLimit limit := by
  unfold readLine withLimit
  dsimp only
  split <;> rfl

theorem readScript_withLimit (name : String) :
    (s.withLimit limit).readScript name = (s.readScript name).withLimit limit := by
  unfold readScript withLimit
  dsimp only [note]
  split <;> rfl

theorem issue_withLimit (command : String) :
    (s.withLimit limit).issue command = (s.issue command).withLimit limit := by
  unfold issue withLimit
  dsimp only [note]
  split <;> rfl

theorem registerUnit_withLimit (unit : ExtensionUnit) :
    (s.withLimit limit).registerUnit unit = (s.registerUnit unit).withLimit limit := by
  unfold registerUnit
  induction unit.operations generalizing s with
  | nil => rfl
  | cons entry rest ih => exact ih (s.register entry.1 entry.2)

theorem assign_withLimit (target : String) (expression : Expression) :
    (s.withLimit limit).assign target expression =
      (s.assign target expression).withLimit limit := by
  unfold assign withLimit
  dsimp only
  split <;> rfl

theorem callInto_withLimit (function : String) (arguments : List String) (target : String) :
    (s.withLimit limit).callInto function arguments target =
      (s.callInto function arguments target).withLimit limit := by
  unfold callInto
  rw [resolve_withLimit, call_withLimit]
  refine andThen_withLimit fun value t => ?_
  cases value <;> rfl

theorem drawInto_withLimit (low high target : String) :
    (s.withLimit limit).drawInto low high target =
      (s.drawInto low high target).withLimit limit := by
  unfold drawInto
  rw [resolve_withLimit]
  split
  · rfl
  · split <;> rfl

theorem ask_withLimit (prompt target : String) :
    (s.withLimit limit).ask prompt target = (s.ask prompt target).withLimit limit := by
  unfold ask
  rw [write_withLimit]
  refine andThen_withLimit fun _ t => ?_
  rw [flush_withLimit]
  refine andThen_withLimit fun _ u => ?_
  rw [readLine_withLimit]
  exact andThen_withLimit fun _ v => rfl

theorem wait_withLimit (token : String) :
    (s.withLimit limit).wait token = (s.wait token).withLimit limit := by
  unfold wait
  rw [resolve_withLimit]
  split <;> rfl

theorem importUnit_withLimit (token : String) :
    (s.withLimit limit).importUnit token = (s.importUnit token).withLimit limit := by
  unfold importUnit
  rw [show (s.withLimit limit).catalog = s.catalog from rfl]
  split
  · rfl
  · split
    · rfl
    · rw [registerUnit_withLimit]
      split <;> rfl

theorem perform_withLimit (statement : Statement) :
    perform (fun _ s => (.ok (), s)) statement (s.withLimit limit) =
      (perform (fun _ s => (.ok (), s)) statement s).withLimit limit := by
  cases statement with
  | assign target expression => exact assign_withLimit s limit target expression
  | call function arguments target => exact callInto_withLimit s limit function arguments target
  | random low high target => exact drawInto_withLimit s limit low high target
  | print token => exact write_withLimit s limit _
  | input prompt target => exact ask_withLimit s limit prompt target
  | wait token => exact wait_withLimit s limit token
  | clear => rfl
  | run file =>
    simp only [perform, readScript_withLimit]
    exact andThen_withLimit fun _ _ => rfl
  | execCommand command =>
    simp only [perform, issue_withLimit]
    exact andThen_withLimit fun _ _ => rfl
  | importUnit token => exact importUnit_withLimit s limit token

theorem noteSurplus_withLimit (command : Keyword) (given : List String) :
    (s.withLimit limit).noteSurplus command given =
      (s.noteSurplus command given).withLimit limit := by
  unfold noteSurplus
  dsimp only
  split <;> rfl

theorem runBuiltIn_withLimit (command : Keyword) (given : List String) :
    runBuiltIn (fun _ s => (.ok (), s)) command given (s.withLimit limit) =
      (runBuiltIn (fun _ s => (.ok (), s)) command given s).withLimit limit := by
  unfold runBuiltIn
  rw [note_withLimit, noteSurplus_withLimit]
  dsimp only
  split
  · exact perform_withLimit _ limit _
  · rfl

/-- A statement that asks for no script does not see the limit. -/
theorem executeWith_withLimit (tokens : List Token) :
    executeWith (fun _ s => (.ok (), s)) tokens (s.withLimit limit) =
      (executeWith (fun _ s => (.ok (), s)) tokens s).withLimit limit := by
  rw [executeWith_eq, executeWith_eq,
    show (s.withLimit limit).destination tokens = s.destination tokens by
      cases tokens <;> rfl]
  cases s.destination tokens with
  | nowhere => rfl
  | unknown name => rfl
  | operation name =>
    dsimp only
    rw [note_withLimit, call_withLimit]
    exact andThen_withLimit fun _ _ => rfl
  | builtIn command =>
    dsimp only
    rw [runBuiltIn_withLimit]
    exact andThen_withLimit fun _ _ => rfl

/-- Nor does the question to the host of one that asks for a script. -/
theorem asks?_withLimit (tokens : List Token) :
    (s.withLimit limit).asks? tokens =
      (s.asks? tokens).map fun asked => asked.withLimit limit := by
  unfold asks?
  split
  · next head file more =>
    rw [show (s.withLimit limit).registry = s.registry from rfl]
    split
    · rw [note_withLimit, noteSurplus_withLimit, readScript_withLimit]
      rfl
    · rfl
  · rfl

end

/-! ## Runs go on from what was done before -/

namespace Precedes

variable {s t u : Session ω}

theorem refl (s : Session ω) : s.Precedes s :=
  ⟨⟨.empty, by simp⟩, List.suffix_rfl, List.prefix_rfl⟩

theorem trans (hst : s.Precedes t) (htu : t.Precedes u) : s.Precedes u := by
  obtain ⟨first, hf⟩ := hst.output
  obtain ⟨second, hs⟩ := htu.output
  refine ⟨⟨first ++ second, ?_⟩, htu.input.trans hst.input, hst.events.trans htu.events⟩
  rw [hs, hf, ByteArray.append_assoc]

theorem commands (h : s.Precedes t) : s.commands <+: t.commands :=
  h.events.filterMap Event.command?

/-- Only the console and the journal count. -/
theorem congr (h : s.Precedes t) {s' t' : Session ω}
    (hs : s'.console = s.console ∧ s'.journal = s.journal)
    (ht : t'.console = t.console ∧ t'.journal = t.journal) : s'.Precedes t' := by
  obtain ⟨houtput, hinput, hevents⟩ := h
  unfold Session.events at hevents
  refine ⟨?_, ?_, ?_⟩
  · rwa [hs.1, ht.1]
  · rwa [hs.1, ht.1]
  · unfold Session.events
    rwa [hs.2, ht.2]

/-- A later state, if its console has only been read and written. -/
theorem of_later (hlater : s.Later t)
    (houtput : ∃ text : String, t.console.output = s.console.output.write text.toUTF8)
    (hinput : t.console.input.unread <:+ s.console.input.unread) : s.Precedes t := by
  obtain ⟨text, houtput⟩ := houtput
  obtain ⟨added, hjournal, -⟩ := hlater.journal
  refine ⟨⟨text.toUTF8, by rw [houtput]; rfl⟩, hinput, added.reverse, ?_⟩
  rw [Session.events, Session.events, hjournal, List.reverse_append]

/-- A later state with the same console. -/
theorem of_console_eq (hlater : s.Later t) (hconsole : t.console = s.console) : s.Precedes t := by
  refine .of_later hlater ⟨"", ?_⟩ ⟨[], ?_⟩
  · rw [hconsole, ByteWriter.write_nothing]
  · rw [hconsole, List.nil_append]

end Precedes

theorem ask_unread (s : Session ω) (prompt target : String) :
    (s.ask prompt target).2.console.input.unread <:+ s.console.input.unread := by
  have hrest : s.console.input.readLine.2.unread <:+ s.console.input.unread :=
    ⟨_, s.console.input.readLine_append⟩
  have hends := s.askEnds prompt target
  generalize s.ask prompt target = ending at hends
  cases hends with
  | refused cause => exact List.suffix_rfl
  | notFlushed cause => exact List.suffix_rfl
  | unread hshown hline => exact hrest
  | read hshown hline => exact hrest

/-- A statement reads from the front of the input, if it reads at all. -/
theorem perform_unread (nested : String → Session ω → Ending ω Unit) {statement : Statement}
    {command : Keyword} {given : List String}
    (hstatement : Statement.ofOperands command given = .ok statement)
    (hrun : ∀ file, statement ≠ .run file) (s : Session ω) :
    (perform nested statement s).2.console.input.unread <:+ s.console.input.unread := by
  by_cases hinput : command = .input
  · obtain rfl := hinput
    obtain ⟨prompt, target, -, -, rfl⟩ := Statement.ofOperands_input hstatement
    exact s.ask_unread prompt target
  · have hframe := perform_frame nested (Statement.mem_commands hstatement) hrun s
    have hsame := hframe.input fun h => hinput (Destination.builtIn.inj h)
    exact ⟨[], by rw [hsame, List.nil_append]⟩

theorem precedes_of_not_asks {s : Session ω} {tokens : List Token}
    (hasks : s.asks? tokens = none) :
    s.Precedes (executeWith (fun _ s => (.ok (), s)) tokens s).2 := by
  have hlater : s.Later (executeWith (fun _ s => (.ok (), s)) tokens s).2 :=
    later_executeWith (fun _ s => .refl s) tokens s
  have hdoes := executeWith_does (fun _ s => (.ok (), s)) tokens s
  generalize executeWith (fun _ s => (.ok (), s)) tokens s = ending at hlater hdoes ⊢
  cases hdoes with
  | elsewhere journal hplace hresult => exact .of_console_eq hlater rfl
  | malformed journal hplace hstatement => exact .of_console_eq hlater rfl
  | builtIn journal hplace hstatement =>
    have hrun := ne_run_of_asks_eq_none hasks hplace hstatement
    have hinput := perform_unread (fun _ s => (.ok (), s)) hstatement hrun
      { s with journal := journal }
    obtain ⟨text, houtput, -⟩ := (perform_frame (fun _ s => (.ok (), s))
      (Statement.mem_commands hstatement) hrun { s with journal := journal }).output
    rw [snd_andThen_executed] at hlater ⊢
    exact .of_later hlater ⟨text, houtput⟩ hinput

theorem readScript_snd (s : Session ω) (name : String) :
    (s.readScript name).2 =
      (s.note (.scriptRequested name)).receive (s.host.readScript name s.world) := by
  unfold readScript
  dsimp only
  split <;> rfl

theorem precedes_readScript (s : Session ω) (name : String) :
    s.Precedes (s.readScript name).2 := by
  have hframe := receive_frame .nowhere (s.note (.scriptRequested name))
    (s.host.readScript name s.world)
  obtain ⟨text, houtput, -⟩ := hframe.output
  have hlater := later_readScript s name
  rw [readScript_snd] at hlater ⊢
  exact .of_later hlater ⟨text, houtput⟩ ⟨[], congrArg ByteReader.unread (hframe.input (by simp))⟩

theorem precedes_of_asks {s : Session ω} {tokens : List Token} {asked : Ending ω String}
    (hasks : s.asks? tokens = some asked) : s.Precedes asked.2 := by
  obtain ⟨head, file, more, -, -, rfl⟩ := eq_of_asks hasks
  have hnoted : s.Precedes ((s.note (.performed .run)).noteSurplus .run
      ((file :: more).map (·.text))) := by
    refine .of_console_eq ((later_note s _ rfl).trans (later_noteSurplus _ _ _)) ?_
    rw [noteSurplus_eq]
    rfl
  exact hnoted.trans (precedes_readScript _ _)

/-- **Runs go on.**  No run takes back what was written, read or done before it. -/
theorem precedes_of_runs : KeptByRuns (ω := ω) (fun _ => True) Precedes where
  refl := .refl
  trans := .trans
  scanned s tokens := .of_console_eq (later_note s _ rfl) rfl
  statement s tokens _ hasks := precedes_of_not_asks hasks
  asks s tokens asked _ hasks := precedes_of_asks hasks
  around s t h := by
    have henter : s.Precedes s.enter :=
      ⟨⟨.empty, by simp [enter, note]⟩, List.suffix_rfl, [.entered (s.depth + 1)], by
        simp [enter, note, events]⟩
    exact (henter.trans h).congr ⟨rfl, rfl⟩ ⟨rfl, rfl⟩

theorem scriptsAllowed_true (s : Session ω) : s.ScriptsAllowed fun _ => True :=
  fun _ _ _ _ _ _ _ _ _ => trivial

theorem precedes_nestedRun (places : Nat) (text : String) (s : Session ω) :
    s.Precedes (nestedRun places text s).2 :=
  precedes_of_runs.nestedRun places text s (fun _ _ _ _ => trivial) s.scriptsAllowed_true

theorem precedes_runLinesWith (places : Nat) (lines : List String) (s : Session ω) :
    s.Precedes (runLinesWith (nestedRun places) lines s).2 :=
  precedes_of_runs.runLinesWith (later_nestedRun places)
    (fun text s _ _ => precedes_nestedRun places text s) lines (fun _ _ _ _ => trivial) s
    s.scriptsAllowed_true

end Session

/-! ## Two runs in step -/

open Session

/-- The same step under two limits, the one of the second run being given: both do the same, or the
first one is cut short and the second goes on from there. -/
inductive CutShort (limit : Nat) (a b : Ending ω α) : Prop
  | same (h : b = a.withLimit limit)
  | short (hfault : ∃ n, a.1 = .error (.nestingTooDeep n)) (h : a.2.Precedes b.2)

namespace CutShort

variable {limit : Nat} {a b : Ending ω α}

theorem andThen (h : CutShort limit a b) {next next' : α → Session ω → Ending ω β}
    (hn : ∀ value s, CutShort limit (next value s) (next' value (s.withLimit limit)))
    (hp : ∀ value (s : Session ω), s.Precedes (next' value s).2) :
    CutShort limit (a.andThen next) (b.andThen next') := by
  obtain ⟨result, s⟩ := a
  rcases h with rfl | ⟨⟨n, rfl⟩, hprecedes⟩
  · cases result with
    | error fault => exact .same rfl
    | ok value => exact hn value s
  · refine .short ⟨n, rfl⟩ ?_
    obtain ⟨_ | value, t⟩ := b
    · exact hprecedes
    · exact hprecedes.trans (hp value t)

/-- Behind a nested script both runs are one level up again. -/
theorem leave (h : CutShort limit a b) : CutShort limit (a.1, a.2.leave) (b.1, b.2.leave) := by
  rcases h with rfl | ⟨hfault, hprecedes⟩
  · exact .same rfl
  · exact .short hfault (hprecedes.congr ⟨rfl, rfl⟩ ⟨rfl, rfl⟩)

end CutShort

/-- Two ways of running nested scripts, the second under the given limit. -/
def CutShortNested (limit : Nat) (nested nested' : String → Session ω → Ending ω Unit) : Prop :=
  ∀ text s, CutShort limit (nested text s) (nested' text (s.withLimit limit))

section

variable {limit : Nat} {nested nested' : String → Session ω → Ending ω Unit}

theorem cutShort_executeWith (hn : CutShortNested limit nested nested')
    (hp : ∀ text (s : Session ω), s.Precedes (nested' text s).2) (tokens : List Token)
    (s : Session ω) :
    CutShort limit (executeWith nested tokens s)
      (executeWith nested' tokens (s.withLimit limit)) := by
  have hasks' := s.asks?_withLimit limit tokens
  cases hasks : s.asks? tokens with
  | none =>
    rw [hasks] at hasks'
    rw [executeWith_of_not_asks nested (fun _ s => (.ok (), s)) tokens s hasks,
      executeWith_of_not_asks nested' (fun _ s => (.ok (), s)) tokens _ hasks',
      executeWith_withLimit]
    exact .same rfl
  | some asked =>
    rw [hasks] at hasks'
    rw [executeWith_of_asks nested tokens s asked hasks,
      executeWith_of_asks nested' tokens _ _ hasks']
    have hasked : CutShort limit asked (asked.withLimit limit) := .same rfl
    exact (hasked.andThen hn hp).andThen (fun _ _ => .same rfl) fun _ s => .refl s

theorem cutShort_runLineWith (hn : CutShortNested limit nested nested')
    (hp : ∀ text (s : Session ω), s.Precedes (nested' text s).2) (line : String)
    (s : Session ω) :
    CutShort limit (runLineWith nested line s) (runLineWith nested' line (s.withLimit limit)) := by
  unfold runLineWith
  split
  · exact .same rfl
  · exact cutShort_executeWith hn hp _ (s.note _)

theorem cutShort_runLinesWith {places places' : Nat}
    (hn : CutShortNested (ω := ω) limit (nestedRun places) (nestedRun places'))
    (lines : List String) (s : Session ω) :
    CutShort limit (runLinesWith (nestedRun places) lines s)
      (runLinesWith (nestedRun places') lines (s.withLimit limit)) := by
  induction lines generalizing s with
  | nil => exact .same rfl
  | cons line rest ih =>
    unfold runLinesWith
    split
    · exact ih s
    · exact (cutShort_runLineWith hn (precedes_nestedRun places') line s).andThen
        (fun _ t => ih t) fun _ t => precedes_runLinesWith places' rest t

end

/-- The second run has as many places of nesting as the first one, or more. -/
theorem cutShort_nestedRun {limit places places' : Nat} (hle : places ≤ places') :
    CutShortNested (ω := ω) limit (nestedRun places) (nestedRun places') := by
  induction places generalizing places' with
  | zero =>
    intro text s
    have hprecedes := precedes_nestedRun places' text (s.withLimit limit)
    exact .short ⟨_, rfl⟩ (hprecedes.congr ⟨rfl, rfl⟩ ⟨rfl, rfl⟩)
  | succ places ih =>
    obtain ⟨below, rfl⟩ := Nat.exists_eq_add_of_le' hle
    intro text s
    exact (cutShort_runLinesWith (ih (Nat.le_add_left _ _)) (Text.lines text) s.enter).leave

/-- **The limit of nesting only cuts runs short.**  A program that is not cut short under a limit
ends under a larger one with the same result and in the same state, but for the limit.  If it is cut
short, then what it wrote to the output, read of the input and asked of the host by then is the
beginning of what it comes to under the larger limit. -/
theorem limit_only_cuts_runs_short (s : Session ω) (program : String) (limit larger : Nat)
    (hle : limit ≤ larger) :
    let run := (s.withLimit limit).runSource program
    let longer := (s.withLimit larger).runSource program
    ((∀ n, run.1 ≠ .error (.nestingTooDeep n)) → longer = run.withLimit larger) ∧
    ((∃ n, run.1 = .error (.nestingTooDeep n)) →
      run.2.Precedes longer.2 ∧ run.2.commands <+: longer.2.commands) := by
  intro run longer
  have hroom : (s.withLimit limit).room ≤ (s.withLimit larger).room :=
    Nat.sub_le_sub_right hle s.depth
  have hstep : CutShort larger run longer :=
    cutShort_runLinesWith (cutShort_nestedRun hroom) (Text.lines program) (s.withLimit limit)
  constructor
  · intro hfinished
    rcases hstep with hsame | ⟨⟨n, hfault⟩, -⟩
    · exact hsame
    · exact absurd hfault (hfinished n)
  · intro _
    have hprecedes : run.2.Precedes longer.2 := by
      rcases hstep with hsame | ⟨-, hprecedes⟩
      · rw [hsame]
        exact (Precedes.refl run.2).congr ⟨rfl, rfl⟩ ⟨rfl, rfl⟩
      · exact hprecedes
    exact ⟨hprecedes, hprecedes.commands⟩

/-- A script that greets, where no script may be run, where one may, and where two may. -/
theorem limit_only_cuts_greeting_short :
    let table : HostTable := ⟨[("greet", "PRINT \"hello\"")], []⟩
    let s := Session.start Host.ofTable table
    let cut := (s.withLimit 0).runSource "RUN \"greet\""
    let run := (s.withLimit 1).runSource "RUN \"greet\""
    let longer := (s.withLimit 2).runSource "RUN \"greet\""
    ((∃ n, cut.1 = .error (.nestingTooDeep n)) ∧ cut.2.Precedes run.2 ∧
      cut.2.commands <+: run.2.commands) ∧
    run.1 = .ok () ∧ longer = run.withLimit 2 := by
  intro table s cut run longer
  -- the program runs the script, with as many places of nesting as the limit says
  have hstarts (limit : Nat) : ∃ v : Session HostTable, v.registry = s.registry ∧
      v.console = s.console ∧ ((s.withLimit limit).runSource "RUN \"greet\"").1 =
        (nestedRun limit "PRINT \"hello\"" v).1 := by
    obtain ⟨v, hv, hline⟩ := runLineWith_quotedLine_run (nestedRun limit) (s.withLimit limit)
      (Host.serves_ofTable table) rfl "greet" _ (by decide) (by decide) rfl
    have hlines : Text.lines "RUN \"greet\"" = [Keyword.run.quotedLine "greet"] := by decide
    have hroom : (s.withLimit limit).room = limit := rfl
    refine ⟨v, hv.registry.symm, hv.console.symm, ?_⟩
    rw [runSource, hlines, runLines, hroom, runLinesWith, isBlank_quotedLine, hline]
    obtain ⟨_ | _, t⟩ := nestedRun limit "PRINT \"hello\"" v <;> rfl
  have hcut : ∃ n, cut.1 = .error (.nestingTooDeep n) := by
    obtain ⟨v, -, -, hrun⟩ := hstarts 0
    exact ⟨_, hrun⟩
  have hends : run.1 = .ok () := by
    obtain ⟨v, hregistry, hconsole, hrun⟩ := hstarts 1
    have hscript : Text.lines "PRINT \"hello\"" = [Keyword.print.quotedLine "hello"] := by decide
    have htokens := tokenize_quotedLine .print "hello" (by decide) (by decide)
    have hfree : v.enter.registry.contains Keyword.print.name = false := by
      show v.registry.contains Keyword.print.name = false
      rw [hregistry]
      rfl
    obtain ⟨u, hprint⟩ : ∃ u, runLineWith (nestedRun 0) (Keyword.print.quotedLine "hello") v.enter =
        (.ok .executed, u) := by
      rw [runLineWith_builtIn _ v.enter htokens hfree (Keyword.ofName?_name .print)]
      obtain ⟨⟩ := v
      obtain rfl := hconsole
      exact ⟨_, rfl⟩
    rw [show run.1 = _ from hrun, nestedRun, hscript, runLinesWith, isBlank_quotedLine, hprint]
    rfl
  have h := limit_only_cuts_runs_short s "RUN \"greet\""
  have hfinished : ∀ n, run.1 ≠ .error (.nestingTooDeep n) := by
    rw [hends]
    simp
  exact ⟨⟨hcut, (h 0 1 (by decide)).2 hcut⟩, hends, (h 1 2 (by decide)).1 hfinished⟩

end LineScript
