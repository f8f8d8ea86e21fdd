import LineScript.Proofs.Comments
import LineScript.Proofs.Sequencing
import LineScript.Proofs.Shadowing

/-!
What a line comes to.

A line that cannot be scanned fails and leaves no trace.  A line of spaces and tabs is empty.  Any
other line has a first token, and goes to the operation that is registered under its text, or else
to the built-in command that has this name.  The built-in commands are the ones that keywords name
(`keyword_iff`), so what is left when neither is there are the lines that name an unknown command.

* A line has no token iff it consists of spaces and tabs (`tokenize_eq_nil_iff`).
* A scanning fault is that of the line, or of a line that a script of it comes to
  (`runLine_eq_lex_iff`).
* A line that goes somewhere writes one dispatch down, and no other until a script begins
  (`dispatches_give`, `dispatches_runBuiltIn`).

Main statement: `lines_are_classified`.
-/

namespace LineScript

open Text

/-! ## The first token -/

/-- Keywords are the tokens whose text names a built-in command. -/
theorem keyword_iff {t : Token} (h : t.HasForm) :
    t.kind = .keyword ↔ ∃ command : Keyword, command.name = t.text := by
  constructor
  · intro hkind
    unfold Token.HasForm at h
    rw [hkind] at h
    exact mem_keywords_iff.mp h
  · rintro ⟨command, hname⟩
    have hword : Shape .word t.text.toList := by
      rw [← hname]
      exact shape_keyword command
    obtain ⟨first, more, hfirst, hbegins⟩ := hword.begins
    -- no other kind of token begins as a word does, and no identifier is a keyword
    cases hkind : t.kind with
    | keyword => rfl
    | identifier =>
      unfold Token.HasForm at h
      rw [hkind] at h
      exact absurd (mem_keywords_iff.mpr ⟨command, hname⟩) h.2
    | number =>
      unfold Token.HasForm at h
      rw [hkind, hfirst] at h
      obtain ⟨first', more', hsame, hdigit⟩ := Shape.begins h
      obtain ⟨rfl, -⟩ := List.cons.inj hsame
      exact absurd hdigit (by rw [SegmentKind.Begins, isDecimalDigit_of_isNameStart hbegins]; simp)
    | string =>
      unfold Token.HasForm at h
      rw [hkind, hfirst] at h
      obtain ⟨first', more', hsame, hquote⟩ := Shape.begins h
      obtain ⟨rfl, -⟩ := List.cons.inj hsame
      obtain rfl : first = '"' := hquote
      have hletter : isNameStart '"' = true := hbegins
      exact absurd hletter (by decide)
    | blank | stray =>
      unfold Token.HasForm at h
      rw [hkind] at h
      exact h.elim

theorem Cuts.isSeparator_of_no_token {segments : List Segment} {cs : List Char}
    (h : Cuts segments cs) (hnone : segments.filterMap Segment.token? = []) :
    ∀ c ∈ cs, isSeparator c = true := by
  induction h with
  | nil => simp
  | @cons x segments cs _ _ ih =>
    rw [List.filterMap_eq_nil_iff] at hnone
    obtain ⟨hx, hrest⟩ := List.forall_mem_cons.mp hnone
    intro c hc
    rcases List.mem_append.mp hc with hc | hc
    · have hblanks : x.kind = .blanks := by
        by_contra hkind
        simp [Segment.token?, hkind] at hx
      obtain ⟨kind, chars, shape⟩ := x
      obtain rfl : kind = .blanks := hblanks
      cases shape with
      | blanks hne hcs => exact hcs c hc
    · exact ih (List.filterMap_eq_nil_iff.mpr hrest) c hc

theorem tokenize_eq_nil_iff (line : String) :
    tokenize line = .ok [] ↔ ∀ c ∈ (stripComment line).toList, c = ' ' ∨ c = '\t' := by
  rw [stripComment, String.toList_ofList]
  constructor
  · intro h c hc
    obtain ⟨segments, hcuts, hnone⟩ := cuts_of_scan h
    exact eq_of_isSeparator (hcuts.isSeparator_of_no_token hnone.symm c hc)
  · intro h
    refine scan_of_separators 0 _ fun c hc => ?_
    rcases h c hc with rfl | rfl <;> decide

/-- The event says where a statement went. -/
def Event.isDispatch : Event → Bool
  | dispatched _ | performed _ | unknownCommand _ => true
  | _ => false

variable {ω : Type}

namespace Session

/-! ## Where a line goes -/

/-- The first token of a line, if no operation is registered under its text, goes to a built-in
command iff it is a keyword. -/
theorem destination_of_tokenize {line : String} {head : Token} {rest : List Token} (s : Session ω)
    (hline : tokenize line = .ok (head :: rest)) (hfree : s.registry.contains head.text = false) :
    (head.kind = .keyword ∧ ∃ command : Keyword, command.name = head.text ∧
      s.destination (head :: rest) = .builtIn command) ∨
    (head.kind ≠ .keyword ∧ s.destination (head :: rest) = .unknown head.text) := by
  have hform : head.HasForm := (wellFormed_of_tokenize hline head List.mem_cons_self).form
  unfold destination
  dsimp only
  rw [if_neg (by simp [hfree])]
  cases hname : Keyword.ofName? head.text with
  | some command =>
    have hcommand := Keyword.ofName?_eq_some_iff.mp hname
    exact .inl ⟨(keyword_iff hform).mpr ⟨command, hcommand⟩, command, hcommand, rfl⟩
  | none =>
    refine .inr ⟨fun hkind => ?_, rfl⟩
    obtain ⟨command, hcommand⟩ := (keyword_iff hform).mp hkind
    rw [← hcommand, Keyword.ofName?_name] at hname
    cases hname

/-! ## Scanning faults -/

/-- The line cannot be scanned, or it runs a script in which, behind lines that do not fail, a line
comes to this. -/
inductive ScanFault (e : LexError) : Session ω → String → Prop
  | line {s : Session ω} {line : String} (hline : tokenize line = .error e) : ScanFault e s line
  | script {s t u : Session ω} {line text inner : String} {tokens : List Token}
      {before behind : List String} (hline : tokenize line = .ok tokens)
      (hasks : (s.note (.scanned tokens)).asks? tokens = some (.ok text, t)) (hroom : 0 < t.room)
      (hlines : Text.lines text = before ++ inner :: behind) (hblank : Text.isBlank inner = false)
      (hbefore : t.enter.runLines before = (.ok (), u)) (hinner : ScanFault e u inner) :
      ScanFault e s line

theorem room_enter (s : Session ω) : s.enter.room = s.room - 1 :=
  Nat.sub_add_eq _ _ _

/-- Asking for a script leaves all the room there was. -/
theorem room_of_asks {s : Session ω} {tokens : List Token} {asked : Ending ω String}
    (h : (s.note (.scanned tokens)).asks? tokens = some asked) : asked.2.room = s.room :=
  ((later_note s _ rfl).trans (later_asks _ _ _ h)).room

theorem room_of_runLines {s u : Session ω} {lines : List String} {result : Except Fault Unit}
    (h : s.runLines lines = (result, u)) : u.room = s.room := by
  have hlater := later_runLines lines s
  rw [h] at hlater
  exact hlater.room

theorem eq_of_nestedRun_lex {s : Session ω} {places : Nat} {text : String} {e : LexError}
    (h : (nestedRun places text s).1 = .error (.lex e)) :
    ∃ below before line behind u, places = below + 1 ∧
      Text.lines text = before ++ line :: behind ∧ Text.isBlank line = false ∧
      runLinesWith (nestedRun below) before s.enter = (.ok (), u) ∧
      (runLineWith (nestedRun below) line u).1 = .error (.lex e) := by
  cases places with
  | zero => cases h
  | succ below =>
    rw [nestedRun] at h
    cases hrun : runLinesWith (nestedRun below) (Text.lines text) s.enter with
    | mk result t =>
      rw [hrun] at h
      obtain rfl : result = .error (.lex e) := h
      obtain ⟨before, line, behind, u, hlines, hblank, hbefore, hline⟩ :=
        eq_of_runLinesWith_error hrun
      exact ⟨below, before, line, behind, u, rfl, hlines, hblank, hbefore,
        congrArg Prod.fst hline⟩

/-- Of the statements only RUN fails so, and then it is its script that does. -/
theorem eq_of_executeWith_lex {nested : String → Session ω → Ending ω Unit} {tokens : List Token}
    {s : Session ω} {e : LexError} (h : (executeWith nested tokens s).1 = .error (.lex e)) :
    ∃ text t, s.asks? tokens = some (.ok text, t) ∧ (nested text t).1 = .error (.lex e) := by
  cases hasks : s.asks? tokens with
  | none => cases isOfRun_of_executeWith hasks h
  | some asked =>
    rw [executeWith_of_asks nested tokens s asked hasks] at h
    have hasked := error_of_andThen_executed h
    obtain ⟨fault | text, t⟩ := asked
    · -- the host has its own faults
      obtain ⟨head, file, more, -, -, heq⟩ := eq_of_asks hasks
      obtain rfl : fault = .lex e := Except.error.inj hasked
      simp only [readScript] at heq
      split at heq
      · cases congrArg Prod.fst heq
      · cases congrArg Prod.fst heq
    · exact ⟨text, t, rfl, hasked⟩

/-- A scanning fault is that of the line, or of a line that its script comes to. -/
theorem runLine_eq_lex_iff (s : Session ω) (line : String) (e : LexError) :
    (s.runLine line).1 = .error (.lex e) ↔ ScanFault e s line := by
  constructor
  · -- a script has less room than the line that runs it
    generalize hplaces : s.room = places
    induction places using Nat.strong_induction_on generalizing s line with
    | _ places ih =>
      intro h
      cases hline : tokenize line with
      | error other =>
        rw [runLine_of_scan_fault s hline] at h
        obtain rfl : other = e := by simpa using h
        exact .line hline
      | ok tokens =>
        rw [runLine, runLineWith_of_tokens _ _ _ _ hline] at h
        obtain ⟨text, t, hasks, hnested⟩ := eq_of_executeWith_lex h
        obtain ⟨below, before, inner, behind, u, hbelow, hlines, hblank, hbefore, hinner⟩ :=
          eq_of_nestedRun_lex hnested
        have htroom : t.room = below + 1 := (room_of_asks hasks).trans hbelow
        have hroom : t.enter.room = below := by rw [room_enter, htroom, Nat.add_sub_cancel]
        have hrun : t.enter.runLines before = (.ok (), u) := by rw [runLines, hroom, hbefore]
        have huroom : u.room = below := (room_of_runLines hrun).trans hroom
        refine .script hline hasks (by rw [htroom]; exact Nat.succ_pos below) hlines hblank hrun
          (ih below ?_ u inner huroom ?_)
        · rw [← hplaces, hbelow]
          exact Nat.lt_succ_self below
        · rw [runLine, huroom, hinner]
  · intro h
    induction h with
    | line hline => rw [runLine_of_scan_fault _ hline]
    | @script s t u line text inner tokens before behind hline hasks hroom hlines hblank hbefore _
        ih =>
      have htroom : t.room = s.room := room_of_asks hasks
      obtain ⟨below, hbelow⟩ := Nat.exists_eq_succ_of_ne_zero (Nat.pos_iff_ne_zero.mp hroom)
      have henter : t.enter.room = below := by rw [room_enter, hbelow, Nat.succ_sub_one]
      have huroom : u.room = below := (room_of_runLines hbefore).trans henter
      rw [runLines, henter] at hbefore
      rw [runLine, huroom] at ih
      have hfault : runLineWith (nestedRun below) inner u =
          (.error (.lex e), (runLineWith (nestedRun below) inner u).2) := Prod.ext ih rfl
      have hnested := nestedRun_of_error hlines hbefore hblank hfault
      rw [runLine, runLineWith_of_tokens _ _ _ _ hline, executeWith_of_asks _ _ _ _ hasks,
        Ending.andThen_ok, ← htroom, hbelow, hnested]
      rfl

/-! ## Dispatches -/

/-- From `s` on the journal has this dispatch and, up to the beginning of a script, no other. -/
def DispatchesOnce (event : Event) (s t : Session ω) : Prop :=
  ∃ inner own, t.journal = inner ++ own ++ event :: s.journal ∧
    (∀ other ∈ own, other.isDispatch = false) ∧
    ∀ first, inner.getLast? = some first →
      event = .performed .run ∧ first = .entered (s.depth + 1)

theorem dispatchesOnce_of_adds {event : Event} {s t : Session ω}
    (h : Adds (fun other => other.isDispatch = false) (s.note event) t) :
    DispatchesOnce event s t := by
  obtain ⟨own, hjournal, hown⟩ := h
  exact ⟨[], own, hjournal, hown, by simp⟩

theorem dispatches_give (operation : Operation) (name : String) (texts : List String)
    (s : Session ω) :
    DispatchesOnce (.dispatched name) s (s.give operation name texts).2 := by
  have h : Adds (fun other => other.isDispatch = false) (s.note (.dispatched name))
      ((s.note (.dispatched name)).noteAll
        ((operation.call name s.heap (texts.map .text)).applications.map .applied)) := by
    refine ⟨_, rfl, fun other hother => ?_⟩
    obtain ⟨application, -, rfl⟩ := List.mem_map.mp (List.mem_reverse.mp hother)
    rfl
  unfold give
  dsimp only
  split <;> exact dispatchesOnce_of_adds h

/-- A nested script begins with being entered, if it begins. -/
theorem nestedRun_journal (places : Nat) (text : String) (s : Session ω) :
    (nestedRun places text s).2.journal = s.journal ∨
      ∃ more, (nestedRun places text s).2.journal =
        more ++ .entered (s.depth + 1) :: s.journal := by
  cases places with
  | zero => exact .inl rfl
  | succ below =>
    obtain ⟨more, hjournal, -⟩ :=
      (later_runLinesWith (later_nestedRun below) (Text.lines text) s.enter).journal
    exact .inr ⟨more, hjournal⟩

theorem dispatches_runBuiltIn (places : Nat) (command : Keyword) (given : List String)
    (s : Session ω) :
    DispatchesOnce (.performed command) s (runBuiltIn (nestedRun places) command given s).2 := by
  have hsurplus := noteSurplus_adds (fun other => other.isDispatch = false)
    (s.note (.performed command)) command given fun _ => rfl
  unfold runBuiltIn
  dsimp only
  cases hstatement : Statement.ofOperands command given with
  | error fault => exact dispatchesOnce_of_adds hsurplus
  | ok statement =>
    dsimp only
    by_cases hrun : ∃ file, statement = .run file
    · obtain ⟨file, rfl⟩ := hrun
      obtain ⟨rfl, -⟩ := Statement.ofOperands_eq_run hstatement
      let u := (s.note (.performed .run)).noteSurplus .run given
      have hread : Adds (fun other => other.isDispatch = false) (s.note (.performed .run))
          (u.readScript (unquote file)).2 :=
        hsurplus.trans (readScript_adds _ (fun _ => rfl) u _ rfl)
      have hdepth : (u.readScript (unquote file)).2.depth = s.depth :=
        (((later_note s _ rfl).trans (later_noteSurplus _ _ _)).trans
          (later_readScript u _)).depth
      show DispatchesOnce _ s ((u.readScript (unquote file)).andThen (nestedRun places)).2
      generalize u.readScript (unquote file) = asked at hread hdepth
      obtain ⟨_ | text, t⟩ := asked
      · exact dispatchesOnce_of_adds hread
      · rw [Ending.andThen_ok]
        rcases nestedRun_journal places text t with hjournal | ⟨more, hjournal⟩
        · exact dispatchesOnce_of_adds (hread.trans (.of_journal_eq hjournal))
        · obtain ⟨own, hbefore, hown⟩ := hread
          refine ⟨more ++ [.entered (t.depth + 1)], own, ?_, hown, fun first hfirst => ?_⟩
          · rw [hjournal, hbefore]
            simp [Session.note]
          · rw [List.getLast?_append, List.getLast?_singleton, Option.some_or] at hfirst
            refine ⟨rfl, ?_⟩
            rw [← Option.some.inj hfirst, show t.depth = s.depth from hdepth]
    · have hwrites : statement.Writes fun other => other.isDispatch = false :=
        ⟨fun _ _ => rfl, fun _ _ => rfl, fun _ _ _ => rfl, fun _ => rfl, fun _ => rfl,
          fun _ _ => rfl, fun _ _ => rfl⟩
      exact dispatchesOnce_of_adds
        (hsurplus.trans (perform_adds _ hwrites (fun file h => hrun ⟨file, h⟩) _))

/-! ## What a line comes to -/

inductive LineEnds (s : Session ω) (line : String) : Ending ω Outcome → Prop
  | unscanned {e : LexError} (hline : tokenize line = .error e) :
      LineEnds s line (.error (.lex e), s)
  | empty (hline : tokenize line = .ok []) : LineEnds s line (.ok .empty, s.note (.scanned []))
  | operation {head : Token} {rest : List Token} {operation : Operation}
      (hline : tokenize line = .ok (head :: rest))
      (hlookup : s.registry.lookup head.text = some operation) :
      LineEnds s line
        ((s.note (.scanned (head :: rest))).give operation head.text (rest.map (·.text)))
  | builtIn {head : Token} {rest : List Token} {command : Keyword}
      (hline : tokenize line = .ok (head :: rest))
      (hfree : s.registry.contains head.text = false) (hkind : head.kind = .keyword)
      (hcommand : command.name = head.text) :
      LineEnds s line
        ((runBuiltIn (nestedRun s.room) command (rest.map (·.text))
          (s.note (.scanned (head :: rest)))).andThen executed)
  | unknown {head : Token} {rest : List Token} (hline : tokenize line = .ok (head :: rest))
      (hfree : s.registry.contains head.text = false) (hkind : head.kind ≠ .keyword) :
      LineEnds s line (.ok (.unknownCommand head.text),
        (s.note (.scanned (head :: rest))).note (.unknownCommand head.text))

theorem runLine_ends (s : Session ω) (line : String) : s.LineEnds line (s.runLine line) := by
  cases hline : tokenize line with
  | error e =>
    rw [runLine_of_scan_fault s hline]
    exact .unscanned hline
  | ok tokens =>
    rw [runLine, runLineWith_of_tokens _ _ _ _ hline]
    cases tokens with
    | nil => exact .empty hline
    | cons head rest =>
      cases hlookup : s.registry.lookup head.text with
      | some operation =>
        have hnoted : (s.note (.scanned (head :: rest))).registry.lookup head.text =
            some operation := hlookup
        rw [executeWith_give _ hnoted]
        exact .operation hline hlookup
      | none =>
        have hfree : s.registry.contains head.text = false := by
          rw [Registry.contains_eq_isSome, hlookup]
          rfl
        have hplace := (s.note (.scanned (head :: rest))).destination_of_tokenize hline hfree
        rw [executeWith_eq]
        rcases hplace with ⟨hkind, command, hcommand, hplace⟩ | ⟨hkind, hplace⟩
        · rw [hplace]
          exact .builtIn hline hfree hkind hcommand
        · rw [hplace]
          exact .unknown hline hfree hkind

/-- What is given to an operation is executed or fails. -/
theorem eq_executed_of_give {operation : Operation} {name : String} {texts : List String}
    {s : Session ω} {outcome : Outcome} (h : (s.give operation name texts).1 = .ok outcome) :
    outcome = .executed := by
  unfold give at h
  dsimp only at h
  split at h
  · exact (Except.ok.inj h).symm
  · cases h

theorem eq_executed_of_andThen {ending : Ending ω Unit} {outcome : Outcome}
    (h : (ending.andThen executed).1 = .ok outcome) : outcome = .executed := by
  obtain ⟨_ | _, t⟩ := ending
  · cases h
  · exact (Except.ok.inj h).symm

/-- A line that ends without being executed has no token, or a first token that is known to
nobody. -/
theorem LineEnds.of_skipped {s : Session ω} {line : String} {ending : Ending ω Outcome}
    {outcome : Outcome} (hends : s.LineEnds line ending) (h : ending.1 = .ok outcome)
    (hskipped : outcome ≠ .executed) :
    (outcome = .empty ∧ tokenize line = .ok [] ∧ ending.2 = s.note (.scanned [])) ∨
    ∃ head rest, outcome = .unknownCommand head.text ∧ tokenize line = .ok (head :: rest) ∧
      s.registry.contains head.text = false ∧ head.kind ≠ .keyword ∧
      ending.2 = (s.note (.scanned (head :: rest))).note (.unknownCommand head.text) := by
  cases hends with
  | unscanned hline => cases h
  | empty hline => exact .inl ⟨(Except.ok.inj h).symm, hline, rfl⟩
  | operation hline hlookup => exact absurd (eq_executed_of_give h) hskipped
  | builtIn hline hfree hkind hcommand => exact absurd (eq_executed_of_andThen h) hskipped
  | unknown hline hfree hkind =>
    exact .inr ⟨_, _, (Except.ok.inj h).symm, hline, hfree, hkind, rfl⟩

theorem runLine_eq_empty_iff (s : Session ω) (line : String) :
    (s.runLine line).1 = .ok .empty ↔
      ∀ c ∈ (stripComment line).toList, c = ' ' ∨ c = '\t' := by
  rw [← tokenize_eq_nil_iff]
  constructor
  · intro h
    rcases (s.runLine_ends line).of_skipped h (by simp) with ⟨-, hline, -⟩ | ⟨_, _, houtcome, -⟩
    · exact hline
    · cases houtcome
  · intro hline
    rw [runLine, runLineWith_of_tokens _ _ _ _ hline]
    rfl

theorem runLine_eq_unknown_iff (s : Session ω) (line name : String) :
    (s.runLine line).1 = .ok (.unknownCommand name) ↔
      ∃ head rest, tokenize line = .ok (head :: rest) ∧ head.text = name ∧
        s.registry.contains name = false ∧ head.kind ≠ .keyword := by
  constructor
  · intro h
    rcases (s.runLine_ends line).of_skipped h (by simp) with
      ⟨houtcome, -⟩ | ⟨head, rest, houtcome, hline, hfree, hkind, -⟩
    · cases houtcome
    · obtain rfl := Outcome.unknownCommand.inj houtcome
      exact ⟨head, rest, hline, rfl, hfree, hkind⟩
  · rintro ⟨head, rest, hline, rfl, hfree, hkind⟩
    have hends := s.runLine_ends line
    generalize s.runLine line = ending at hends
    cases hends with
    | unknown hother hfree' hkind' =>
      cases hline.symm.trans hother
      rfl
    | operation hother hlookup =>
      cases hline.symm.trans hother
      rw [Registry.contains_eq_isSome, hlookup] at hfree
      cases hfree
    | builtIn hother hfree' hkind' hcommand =>
      cases hline.symm.trans hother
      exact absurd hkind' hkind
    | unscanned hother | empty hother => cases hline.symm.trans hother

/-- Lines that are not dispatched leave their trace in the journal only. -/
theorem runLine_of_skipped {s : Session ω} {line : String}
    (h : (∃ e, tokenize line = .error e) ∨ (s.runLine line).1 = .ok .empty ∨
      ∃ name, (s.runLine line).1 = .ok (.unknownCommand name)) :
    ∃ journal, (s.runLine line).2 = { s with journal := journal } := by
  have hskipped {outcome : Outcome} (h : (s.runLine line).1 = .ok outcome)
      (hne : outcome ≠ .executed) :
      ∃ journal, (s.runLine line).2 = { s with journal := journal } := by
    rcases (s.runLine_ends line).of_skipped h hne with ⟨-, -, hstate⟩ | ⟨_, _, -, -, -, -, hstate⟩
    · exact ⟨_, hstate⟩
    · exact ⟨_, hstate⟩
  rcases h with ⟨e, hline⟩ | h | ⟨name, h⟩
  · rw [runLine_of_scan_fault s hline]
    exact ⟨s.journal, rfl⟩
  · exact hskipped h (by simp)
  · exact hskipped h (by simp)

/-- A line that is dispatched is dispatched once. -/
theorem runLine_of_dispatched {s : Session ω} {line : String} {head : Token} {rest : List Token}
    (hline : tokenize line = .ok (head :: rest))
    (hknown : s.registry.contains head.text = true ∨ head.kind = .keyword) :
    ∃ event, DispatchesOnce event (s.note (.scanned (head :: rest))) (s.runLine line).2 ∧
      (s.registry.contains head.text = true → event = .dispatched head.text) ∧
      (s.registry.contains head.text = false →
        ∃ command : Keyword, command.name = head.text ∧ event = .performed command) ∧
      ∀ outcome, (s.runLine line).1 = .ok outcome → outcome = .executed := by
  have hends := s.runLine_ends line
  generalize s.runLine line = ending at hends
  cases hends with
  | unscanned hother | empty hother => cases hline.symm.trans hother
  | @operation _ _ operation hother hlookup =>
    cases hline.symm.trans hother
    have hcontains : s.registry.contains head.text = true := by
      rw [Registry.contains_eq_isSome, hlookup]
      rfl
    refine ⟨_, dispatches_give operation _ _ _, fun _ => rfl, fun hfree => ?_,
      fun outcome h => eq_executed_of_give h⟩
    rw [hcontains] at hfree
    cases hfree
  | @builtIn _ _ command hother hfree hkind hcommand =>
    cases hline.symm.trans hother
    have hdispatch := dispatches_runBuiltIn s.room command (rest.map (·.text))
      (s.note (.scanned (head :: rest)))
    refine ⟨.performed command, ?_, fun hcontains => ?_, fun _ => ⟨command, hcommand, rfl⟩,
      fun outcome h => eq_executed_of_andThen h⟩
    · rwa [snd_andThen_executed]
    · rw [hfree] at hcontains
      cases hcontains
  | unknown hother hfree hkind =>
    cases hline.symm.trans hother
    rcases hknown with hcontains | hkeyword
    · rw [hfree] at hcontains
      cases hcontains
    · exact absurd hkeyword hkind

/-- **Outcomes of lines.**  A line fails by a scanning fault iff it cannot be scanned or runs a
script in which a line comes to that; it is empty iff nothing but spaces and tabs stands in front of
its comment; and it names an unknown command iff its first token is no keyword and no operation is
registered under its text.  Lines that cannot be scanned, empty ones and unknown ones change nothing
but the journal.  All others dispatch once: to the operation that is registered under the text of
the first token, or else to the built-in command of that name, and they are executed unless that
fails. -/
theorem lines_are_classified (s : Session ω) (line : String) :
    s.LineEnds line (s.runLine line) ∧
    (∀ e, (s.runLine line).1 = .error (.lex e) ↔ ScanFault e s line) ∧
    ((s.runLine line).1 = .ok .empty ↔
      ∀ c ∈ (stripComment line).toList, c = ' ' ∨ c = '\t') ∧
    (∀ name, (s.runLine line).1 = .ok (.unknownCommand name) ↔
      ∃ head rest, tokenize line = .ok (head :: rest) ∧ head.text = name ∧
        s.registry.contains name = false ∧ head.kind ≠ .keyword) ∧
    ((∃ e, tokenize line = .error e) ∨ (s.runLine line).1 = .ok .empty ∨
        (∃ name, (s.runLine line).1 = .ok (.unknownCommand name)) →
      ∃ journal, (s.runLine line).2 = { s with journal := journal }) ∧
    ∀ head rest, tokenize line = .ok (head :: rest) →
      s.registry.contains head.text = true ∨ head.kind = .keyword →
      ∃ event, DispatchesOnce event (s.note (.scanned (head :: rest))) (s.runLine line).2 ∧
        (s.registry.contains head.text = true → event = .dispatched head.text) ∧
        (s.registry.contains head.text = false →
          ∃ command : Keyword, command.name = head.text ∧ event = .performed command) ∧
        ∀ outcome, (s.runLine line).1 = .ok outcome → outcome = .executed := by
  exact ⟨s.runLine_ends line, s.runLine_eq_lex_iff line, s.runLine_eq_empty_iff line,
    s.runLine_eq_unknown_iff line, runLine_of_skipped, fun _ _ => runLine_of_dispatched⟩

/-- The line can be scanned, and fails by the scanning fault of the script that it runs. -/
theorem scanned_line_fails_by_scan_fault :
    ¬ ((∃ e, ((start Host.ofTable ⟨[("lib", ";")], []⟩).runLine "RUN \"lib\"").1 =
        .error (.lex e)) ↔ ∃ e, tokenize "RUN \"lib\"" = .error e) := by
  let s := start Host.ofTable ⟨[("lib", ";")], []⟩
  have hline : tokenize "RUN \"lib\"" = .ok (Keyword.run.quotedTokens "lib") :=
    tokenize_quotedLine .run "lib" (by decide) (by decide)
  let scanned := s.note (.scanned (Keyword.run.quotedTokens "lib"))
  have hasks : scanned.asks? (Keyword.run.quotedTokens "lib") =
      some (.ok ";", ((scanned.note (.performed .run)).readScript "lib").2) := by
    rw [asks?_run scanned "lib" (by simp [scanned, s, start, Session.note])]
    rfl
  have hlines : Text.lines ";" = [] ++ ";" :: [] := rfl
  have hfault : ScanFault ⟨';', 0⟩ s "RUN \"lib\"" :=
    .script hline hasks (by decide) hlines rfl rfl (.line tokenize_semicolon)
  intro h
  obtain ⟨e, he⟩ := h.mp ⟨_, (runLine_eq_lex_iff _ _ _).mpr hfault⟩
  rw [hline] at he
  cases he

end Session

end LineScript
