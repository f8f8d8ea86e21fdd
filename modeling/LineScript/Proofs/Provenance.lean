import LineScript.Proofs.Journal

/-!
Where the texts come from that the host is given.

A host is given two kinds of texts: command lines and names of scripts.  In every run each of them
is, without its quotes, the second token of a line whose first token is EXECCMD or RUN, and the
line is one that the run was given or one of a script that the host answered with before
(`host_is_given_written_text`).  The lines are known from the texts alone, so no value of a
variable, no line of the input and no result of an operation gets there.

The set of lines grows while the run goes on, so the property is one of journals: every event is
good in the light of the events before it (`Sourced`), and such journals can be put one behind the
other (`Sourced.append`).
-/

namespace LineScript

/-- The first token of the line names the command, and the second one, without quotes around it,
is the text. -/
def HasOperand (command : Keyword) (line text : String) : Prop :=
  ∃ head operand more, tokenize line = .ok (head :: operand :: more) ∧
    head.text = command.name ∧ text = unquote operand.text

/-- If the event gives the host a text, one of the lines has it as its operand. -/
def Event.WrittenIn (lines : String → Prop) : Event → Prop
  | .commandIssued command => ∃ line, lines line ∧ HasOperand .execCommand line command
  | .scriptRequested name => ∃ line, lines line ∧ HasOperand .run line name
  | _ => True

theorem Event.WrittenIn.mono {lines lines' : String → Prop} (hl : ∀ line, lines line → lines' line)
    {event : Event} (h : event.WrittenIn lines) : event.WrittenIn lines' := by
  cases event with
  | commandIssued command => obtain ⟨line, hline, hop⟩ := h; exact ⟨line, hl line hline, hop⟩
  | scriptRequested name => obtain ⟨line, hline, hop⟩ := h; exact ⟨line, hl line hline, hop⟩
  | _ => trivial

variable {ω : Type}

/-- The lines of the scripts that the host answered with in the course of a journal. -/
def Host.Served (host : Host ω) (start : ω) (journal : List Event) (line : String) : Prop :=
  ∃ later name earlier text, journal = later ++ .scriptRequested name :: earlier ∧
    (host.readScript name (host.worldAfter start earlier)).result = .ok text ∧
    line ∈ Text.lines text

/-- Each event gives the host only what stands in the lines, or in scripts served before it. -/
def Sourced (host : Host ω) (start : ω) (lines : String → Prop) (journal : List Event) : Prop :=
  ∀ later event earlier, journal = later ++ event :: earlier →
    event.WrittenIn fun line => lines line ∨ host.Served start earlier line

theorem Host.Served.append_left {host : Host ω} {start : ω} {earlier : List Event} {line : String}
    (h : host.Served start earlier line) (later : List Event) :
    host.Served start (later ++ earlier) line := by
  obtain ⟨after, name, before, text, rfl, hresult, hline⟩ := h
  exact ⟨later ++ after, name, before, text, by rw [List.append_assoc], hresult, hline⟩

theorem Host.Served.append_right {host : Host ω} {start : ω} {later earlier : List Event}
    {line : String} (h : host.Served (host.worldAfter start earlier) later line) :
    host.Served start (later ++ earlier) line := by
  obtain ⟨after, name, before, text, rfl, hresult, hline⟩ := h
  refine ⟨after, name, before ++ earlier, text, by simp, ?_, hline⟩
  rw [Host.worldAfter_append]
  exact hresult

theorem sourced_of_forall {host : Host ω} {start : ω} {lines : String → Prop}
    {journal : List Event} (h : ∀ event ∈ journal, event.WrittenIn lines) :
    Sourced host start lines journal := by
  rintro later event earlier rfl
  exact (h event (by simp)).mono fun _ hl => .inl hl

theorem Sourced.append {host : Host ω} {start : ω} {lines : String → Prop}
    {first second : List Event} (hf : Sourced host start lines first)
    (hs : Sourced host (host.worldAfter start first)
      (fun line => lines line ∨ host.Served start first line) second) :
    Sourced host start lines (second ++ first) := by
  intro later event earlier hsplit
  rcases List.append_eq_append_iff.mp hsplit with ⟨mid, rfl, hfirst⟩ | ⟨mid, hsecond, hearlier⟩
  · exact hf mid event earlier hfirst
  · -- the event stands in `second`, unless `mid` is empty and it is the last one of `first`
    cases mid with
    | nil => exact hf [] event earlier hearlier.symm
    | cons e mid =>
      obtain ⟨rfl, rfl⟩ := List.cons.inj hearlier
      refine (hs later event mid hsecond).mono ?_
      rintro line ((hl | hl) | hl)
      · exact .inl hl
      · exact .inr (hl.append_left mid)
      · exact .inr hl.append_right

theorem Sourced.mono {host : Host ω} {start : ω} {lines lines' : String → Prop}
    (hl : ∀ line, lines line → lines' line) {journal : List Event}
    (h : Sourced host start lines journal) : Sourced host start lines' journal :=
  fun later event earlier hsplit =>
    (h later event earlier hsplit).mono fun line => Or.imp_left (hl line)

namespace Session

/-! ## Runs that give the host written text only -/

/-- From `s` to `t` these events were written down, and each of them gives the host only what
stands in the lines or in scripts that it served before. -/
structure SourcedBy (lines : String → Prop) (added : List Event) (s t : Session ω) : Prop where
  host : t.host = s.host
  journal : t.journal = added ++ s.journal
  /-- What the events say is what the host was asked. -/
  world : t.world = s.host.worldAfter s.world added
  sourced : Sourced s.host s.world lines added

theorem SourcedBy.append {lines : String → Prop} {first second : List Event} {s t u : Session ω}
    (hst : SourcedBy lines first s t)
    (htu : SourcedBy (fun line => lines line ∨ s.host.Served s.world first line) second t u) :
    SourcedBy lines (second ++ first) s u := by
  refine ⟨htu.host.trans hst.host, ?_, ?_, hst.sourced.append ?_⟩
  · rw [htu.journal, hst.journal, List.append_assoc]
  · rw [htu.world, hst.world, hst.host, Host.worldAfter_append]
  · have := htu.sourced
    rwa [hst.host, hst.world] at this

theorem SourcedBy.mono {lines lines' : String → Prop} (hl : ∀ line, lines line → lines' line)
    {added : List Event} {s t : Session ω} (h : SourcedBy lines added s t) :
    SourcedBy lines' added s t :=
  ⟨h.host, h.journal, h.world, h.sourced.mono hl⟩

/-- The host was given nothing but operands of these lines and of scripts that it served. -/
def GivesOnly (lines : String → Prop) (s t : Session ω) : Prop :=
  ∃ added, SourcedBy lines added s t

theorem GivesOnly.trans {lines : String → Prop} {s t u : Session ω} (hst : GivesOnly lines s t)
    (htu : GivesOnly lines t u) : GivesOnly lines s u := by
  obtain ⟨first, hf⟩ := hst
  obtain ⟨second, hs⟩ := htu
  exact ⟨second ++ first, hf.append (hs.mono fun _ hl => .inl hl)⟩

theorem givesOnly_of_adds {lines : String → Prop} {s t : Session ω} (hlater : s.Later t)
    (hadds : Adds (Event.WrittenIn lines) s t) : GivesOnly lines s t := by
  obtain ⟨added, hjournal, hworld⟩ := hlater.journal
  obtain ⟨added', hjournal', hwritten⟩ := hadds
  obtain rfl : added' = added := List.append_cancel_right (hjournal'.symm.trans hjournal)
  exact ⟨added', hlater.host, hjournal, hworld, sourced_of_forall hwritten⟩

theorem givesOnly_note (lines : String → Prop) (s : Session ω) (event : Event)
    (hturn : s.host.turn event s.world = s.world) (h : event.WrittenIn lines) :
    GivesOnly lines s (s.note event) :=
  givesOnly_of_adds (later_note s event hturn) (.note h)

theorem GivesOnly.andThen {α β : Type} {lines : String → Prop} {s : Session ω}
    {ending : Ending ω α} {next : α → Session ω → Ending ω β} (h : GivesOnly lines s ending.2)
    (hn : ∀ value t, GivesOnly lines t (next value t).2) :
    GivesOnly lines s (ending.andThen next).2 := by
  obtain ⟨_ | value, t⟩ := ending
  · exact h
  · exact h.trans (hn value t)

/-- Asking for a script: what is asked for is an operand of RUN, and the lines of the answer are
served from then on. -/
theorem sourcedBy_readScript {lines : String → Prop} {line name : String} (hline : lines line)
    (hop : HasOperand .run line name) (s : Session ω) :
    ∃ added, SourcedBy lines added s (s.readScript name).2 ∧
      ∀ text, (s.readScript name).1 = .ok text →
        ∀ l ∈ Text.lines text, s.host.Served s.world added l := by
  obtain ⟨added, hadded⟩ : GivesOnly lines s (s.readScript name).2 :=
    givesOnly_of_adds (later_readScript s name)
      (readScript_adds _ (fun _ => trivial) s name ⟨line, hline, hop⟩)
  refine ⟨added, hadded, fun text hresult l hl => ?_⟩
  have hsplit : added =
      ((s.host.readScript name s.world).notes.map Event.hostNote).reverse ++
        [.scriptRequested name] := by
    apply List.append_cancel_right
    rw [← hadded.journal, readScript_journal, List.append_assoc]
    rfl
  exact ⟨_, name, [], text, hsplit, (readScript_eq_ok s name text).mp hresult, hl⟩

theorem sourcedBy_asks {lines : String → Prop} {line : String} (hline : lines line)
    {tokens : List Token} (htokens : tokenize line = .ok tokens) (s : Session ω)
    (asked : Ending ω String) (hasks : s.asks? tokens = some asked) :
    ∃ added, SourcedBy lines added s asked.2 ∧
      ∀ text, asked.1 = .ok text → ∀ l ∈ Text.lines text, s.host.Served s.world added l := by
  obtain ⟨head, file, more, rfl, hname, rfl⟩ := eq_of_asks hasks
  have hop : HasOperand .run line (unquote file.text) := ⟨head, file, more, htokens, hname, rfl⟩
  obtain ⟨before, hbefore⟩ : GivesOnly lines s
      ((s.note (.performed .run)).noteSurplus .run ((file :: more).map (·.text))) :=
    (givesOnly_note lines s (.performed .run) rfl trivial).trans (givesOnly_of_adds
      (later_noteSurplus _ _ _) (noteSurplus_adds _ _ _ _ fun _ => trivial))
  obtain ⟨added, hadded, hserved⟩ := sourcedBy_readScript hline hop
    ((s.note (.performed .run)).noteSurplus .run ((file :: more).map (·.text)))
  refine ⟨added ++ before, hbefore.append (hadded.mono fun _ hl => .inl hl), ?_⟩
  intro text hresult l hl
  have := hserved text hresult l hl
  rw [hbefore.host, hbefore.world] at this
  exact this.append_right

variable {nested : String → Session ω → Ending ω Unit}

theorem givesOnly_executeWith
    (hn : ∀ text (s : Session ω), GivesOnly (· ∈ Text.lines text) s (nested text s).2)
    {lines : String → Prop} {line : String} (hline : lines line) {tokens : List Token}
    (htokens : tokenize line = .ok tokens) (s : Session ω) :
    GivesOnly lines s (executeWith nested tokens s).2 := by
  cases hasks : s.asks? tokens with
  | none =>
    rw [executeWith_of_not_asks nested (fun _ s => (.ok (), s)) tokens s hasks]
    refine givesOnly_of_adds (later_executeWith (fun _ s => .refl s) tokens s)
      ((executeWith_adds _ tokens s hasks).mono fun event he => ?_)
    cases event with
    | commandIssued command =>
      obtain ⟨head, operand, more, rfl, hname, hcommand⟩ := he
      exact ⟨line, hline, head, operand, more, htokens, hname, hcommand⟩
    | scriptRequested name => exact he.elim
    | _ => trivial
  | some asked =>
    obtain ⟨added, hadded, hserved⟩ := sourcedBy_asks hline htokens s asked hasks
    rw [executeWith_of_asks nested tokens s asked hasks, snd_andThen_executed]
    obtain ⟨result, t⟩ := asked
    cases result with
    | error fault => exact ⟨added, hadded⟩
    | ok text =>
      obtain ⟨more, hmore⟩ := hn text t
      exact ⟨more ++ added, hadded.append (hmore.mono fun l hl => .inr (hserved text rfl l hl))⟩

theorem givesOnly_runLineWith
    (hn : ∀ text (s : Session ω), GivesOnly (· ∈ Text.lines text) s (nested text s).2)
    {lines : String → Prop} {line : String} (hline : lines line) (s : Session ω) :
    GivesOnly lines s (runLineWith nested line s).2 := by
  cases htokens : tokenize line with
  | error e =>
    simp only [runLineWith, htokens]
    exact givesOnly_of_adds (.refl s) (.of_journal_eq rfl)
  | ok tokens =>
    rw [runLineWith_of_tokens nested line tokens s htokens]
    exact (givesOnly_note lines s (.scanned tokens) rfl trivial).trans
      (givesOnly_executeWith hn hline htokens _)

theorem givesOnly_runLinesWith
    (hn : ∀ text (s : Session ω), GivesOnly (· ∈ Text.lines text) s (nested text s).2)
    {lines : String → Prop} (program : List String) (hprogram : ∀ line ∈ program, lines line)
    (s : Session ω) : GivesOnly lines s (runLinesWith nested program s).2 := by
  induction program generalizing s with
  | nil => exact givesOnly_of_adds (.refl s) (.of_journal_eq rfl)
  | cons line rest ih =>
    have hrest := ih fun l hl => hprogram l (List.mem_cons_of_mem _ hl)
    unfold runLinesWith
    split
    · exact hrest s
    · exact (givesOnly_runLineWith hn (hprogram line List.mem_cons_self) s).andThen
        fun _ t => hrest t

theorem givesOnly_nestedRun (places : Nat) (text : String) (s : Session ω) :
    GivesOnly (· ∈ Text.lines text) s (nestedRun places text s).2 := by
  induction places generalizing text s with
  | zero => exact givesOnly_of_adds (.refl s) (.of_journal_eq rfl)
  | succ places ih =>
    have henter : GivesOnly (· ∈ Text.lines text) s s.enter :=
      ⟨[.entered (s.depth + 1)], rfl, rfl, rfl, sourced_of_forall (by simp [Event.WrittenIn])⟩
    obtain ⟨added, h⟩ := henter.trans
      (givesOnly_runLinesWith ih (Text.lines text) (fun _ hl => hl) s.enter)
    exact ⟨added, h.host, h.journal, h.world, h.sourced⟩

end Session

open Session in
/-- **Data never reaches the host.**  Whatever a run of a line or of a program gives its host is an
operand, without its quotes, of an EXECCMD or a RUN that stands in the line or the program or in a
script that the host served before. -/
theorem host_is_given_written_text (s : Session ω) :
    (∀ line, GivesOnly (· = line) s (s.runLine line).2) ∧
    (∀ text, GivesOnly (· ∈ Text.lines text) s (s.runSource text).2) := by
  constructor
  · intro line
    refine givesOnly_runLineWith (givesOnly_nestedRun s.room) ?_ s
    rfl
  · intro text
    exact givesOnly_runLinesWith (givesOnly_nestedRun s.room) (Text.lines text)
      (fun _ hl => hl) s

end LineScript
