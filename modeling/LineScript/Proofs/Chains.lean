import LineScript.Run.Targets
import LineScript.Proofs.Failure
import LineScript.Proofs.Inlining

/-!
Chains of scripts that run one another.

Which scripts a program names can be read off its lines, and which ones these name in turn off
theirs.  A chain of such names through scripts that exist (`RunChain`) says how deep a run may go,
without running anything.  A run need not follow it: a statement may fail, or RUN may have been
given another meaning.  But it cannot leave it, so a limit of nesting that no chain passes never
cuts a run short.

* A statement has this fault from a script that it runs, or not at all (`notCut_executeWith`).
* Below a script, the chains have one place less (`chainsWithin_iff`).

Main statement: `limit_behind_all_chains_never_cuts`.
-/

namespace LineScript

/-! ## Chains -/

/-- The program names the first of these scripts, each of them the next, and all of them exist. -/
inductive RunChain (scripts : String → Except String String) : String → List String → Prop
  | nil (program : String) : RunChain scripts program []
  | cons {program file text : String} {rest : List String} (htarget : file ∈ runTargets program)
      (htext : scripts file = .ok text) (hrest : RunChain scripts text rest) :
      RunChain scripts program (file :: rest)

/-- No chain from the program on has more scripts than there are places. -/
def ChainsWithin (scripts : String → Except String String) (places : Nat) (program : String) :
    Prop :=
  ∀ files, RunChain scripts program files → files.length ≤ places

variable {scripts : String → Except String String}

/-- A script that the program names takes up a place, and leaves the others to its own chains. -/
theorem chainsWithin_iff {places : Nat} {program : String} :
    ChainsWithin scripts places program ↔
      ∀ file ∈ runTargets program, ∀ text, scripts file = .ok text →
        ∃ left, places = left + 1 ∧ ChainsWithin scripts left text := by
  constructor
  · intro h file htarget text htext
    have hone := h [file] (.cons htarget htext (.nil text))
    obtain ⟨left, rfl⟩ := Nat.exists_eq_add_of_le' hone
    refine ⟨left, rfl, fun files hfiles => ?_⟩
    have hlonger := h (file :: files) (.cons htarget htext hfiles)
    rw [List.length_cons] at hlonger
    exact Nat.le_of_succ_le_succ hlonger
  · intro h files hfiles
    cases hfiles with
    | nil => exact Nat.zero_le _
    | @cons _ file text rest htarget htext hrest =>
      obtain ⟨left, rfl, hleft⟩ := h file htarget text htext
      exact Nat.succ_le_succ (hleft rest hrest)

theorem runTarget?_of_tokens {line : String} {tokens : List Token}
    (hblank : Text.isBlank line = false) (htokens : tokenize line = .ok tokens) :
    runTarget? line = runTargetOf? tokens := by
  simp [runTarget?, hblank, htokens]

theorem runTarget?_quotedLine (file : String) (hquote : '"' ∉ file.toList)
    (hcomment : ¬ ['/', '/'] <:+: file.toList) :
    runTarget? (Keyword.run.quotedLine file) = some file := by
  rw [runTarget?_of_tokens (isBlank_quotedLine .run file)
    (tokenize_quotedLine .run file hquote hcomment)]
  simp [Keyword.quotedTokens, runTargetOf?, unquote_quoted]

variable {ω α β : Type}

/-! ## Runs that are not cut short -/

/-- The step did not end at the limit of nesting. -/
def Ending.NotCut (ending : Ending ω α) : Prop :=
  ∀ limit, ending.1 ≠ .error (.nestingTooDeep limit)

theorem Ending.NotCut.andThen {ending : Ending ω α} {next : α → Session ω → Ending ω β}
    (h : ending.NotCut) (hnext : ∀ value t, ending = (.ok value, t) → (next value t).NotCut) :
    (ending.andThen next).NotCut := by
  obtain ⟨fault | value, t⟩ := ending
  · exact fun limit hcut => h limit (congrArg Except.error (Except.error.inj hcut))
  · exact hnext value t rfl

namespace Session

theorem notCut_readScript (s : Session ω) (name : String) : (s.readScript name).NotCut := by
  intro limit
  unfold readScript
  dsimp only
  split <;> simp

/-- What becomes of a statement depends on the scripts that it asks for and that exist. -/
theorem notCut_executeWith {nested : String → Session ω → Ending ω Unit} {tokens : List Token}
    {s : Session ω} (hserves : s.host.Serves s.world scripts)
    (hnested : ∀ file text (t : Session ω), runTargetOf? tokens = some file →
      scripts file = .ok text → t.host.Serves t.world scripts → (nested text t).NotCut) :
    (executeWith nested tokens s).NotCut := by
  cases hasks : s.asks? tokens with
  | none =>
    intro limit hcut
    cases isOfRun_of_executeWith hasks hcut
  | some asked =>
    have hlater := later_asks s tokens asked hasks
    rw [executeWith_of_asks nested tokens s asked hasks]
    obtain ⟨head, file, more, rfl, hname, hasked⟩ := eq_of_asks hasks
    have htarget : runTargetOf? (head :: file :: more) = some (unquote file.text) := by
      simp [runTargetOf?, hname]
    have hread : asked.NotCut := by
      rw [hasked]
      exact notCut_readScript _ _
    refine (hread.andThen fun text t ht => ?_).andThen fun _ _ _ _ h => by cases h
    rw [ht] at hlater
    have hresult := (readScript_eq_ok _ _ text).mp (congrArg Prod.fst (hasked.symm.trans ht))
    rw [noteSurplus_eq] at hresult
    refine hnested _ text t htarget ((hserves _ .start _).1.symm.trans hresult) ?_
    rw [hlater.host]
    exact hserves.of_reaches hlater.reaches

theorem notCut_runLineWith {nested : String → Session ω → Ending ω Unit} {line : String}
    (hblank : Text.isBlank line = false) {s : Session ω}
    (hserves : s.host.Serves s.world scripts)
    (hnested : ∀ file text (t : Session ω), runTarget? line = some file →
      scripts file = .ok text → t.host.Serves t.world scripts → (nested text t).NotCut) :
    (runLineWith nested line s).NotCut := by
  cases htokens : tokenize line with
  | error e =>
    intro limit
    simp [runLineWith, htokens]
  | ok tokens =>
    rw [runLineWith_of_tokens _ _ _ _ htokens]
    rw [runTarget?_of_tokens hblank htokens] at hnested
    exact notCut_executeWith (s := s.note (.scanned tokens)) hserves hnested

theorem notCut_runLinesWith {nested : String → Session ω → Ending ω Unit}
    (hlater : ∀ text (s : Session ω), s.Later (nested text s).2) (lines : List String)
    {s : Session ω} (hserves : s.host.Serves s.world scripts)
    (hnested : ∀ file text (t : Session ω), file ∈ lines.filterMap runTarget? →
      scripts file = .ok text → t.host.Serves t.world scripts → (nested text t).NotCut) :
    (runLinesWith nested lines s).NotCut := by
  induction lines generalizing s with
  | nil =>
    intro limit
    simp [runLinesWith]
  | cons line rest ih =>
    have hrest := fun file text (t : Session ω) (hfile : file ∈ rest.filterMap runTarget?) =>
      hnested file text t ((List.sublist_cons_self line rest).filterMap runTarget? |>.subset hfile)
    unfold runLinesWith
    cases hblank : Text.isBlank line with
    | true => exact ih hserves hrest
    | false =>
      have hline : (runLineWith nested line s).NotCut :=
        notCut_runLineWith hblank hserves fun file text t hfile =>
          hnested file text t (List.mem_filterMap.mpr ⟨line, List.mem_cons_self, hfile⟩)
      refine hline.andThen fun _ t ht => ih ?_ hrest
      have hafter := later_runLineWith hlater line s
      rw [ht] at hafter
      rw [hafter.host]
      exact hserves.of_reaches hafter.reaches

/-- By induction on the places: every script that is run takes up one place, and one script of each
of its chains. -/
theorem notCut_of_chainsWithin {places : Nat} {program : String}
    (hchains : ChainsWithin scripts places program) {s : Session ω}
    (hserves : s.host.Serves s.world scripts) :
    (runLinesWith (nestedRun places) (Text.lines program) s).NotCut := by
  induction places generalizing program s with
  | zero =>
    refine notCut_runLinesWith (later_nestedRun 0) _ hserves fun file text t hfile htext _ => ?_
    obtain ⟨left, hleft, -⟩ := chainsWithin_iff.mp hchains file hfile text htext
    cases hleft
  | succ places ih =>
    refine notCut_runLinesWith (later_nestedRun _) _ hserves fun file text t hfile htext ht => ?_
    obtain ⟨left, hleft, hbelow⟩ := chainsWithin_iff.mp hchains file hfile text htext
    obtain rfl := Nat.succ.inj hleft
    exact ih hbelow (s := t.enter) ht

/-- **A static bound is enough.**  Let the scripts of the host be fixed.  If no chain of scripts,
from the program on, is longer than the limit of nesting, then a run of the program that begins
outside all scripts is never cut short there, whatever else its state holds. -/
theorem limit_behind_all_chains_never_cuts (s : Session ω)
    (scripts : String → Except String String) (hserves : s.host.Serves s.world scripts)
    (hdepth : s.depth = 0) (program : String)
    (hchains : ∀ files, RunChain scripts program files → files.length ≤ s.config.maxRunDepth)
    (limit : Nat) : (s.runSource program).1 ≠ .error (.nestingTooDeep limit) := by
  have hroom : s.room = s.config.maxRunDepth := by
    rw [room, hdepth, Nat.sub_zero]
  refine notCut_of_chainsWithin (fun files hfiles => ?_) hserves limit
  rw [hroom]
  exact hchains files hfiles

/-- A script that runs a further one and then one that does not exist, where two may be nested. -/
theorem limit_behind_all_chains_never_cuts_outer :
    let table : HostTable := ⟨[("outer", "RUN \"inner\"\nRUN \"lost\""), ("inner", "")], []⟩
    let scripts := fun name => (Host.ofTable.readScript name table).result
    let s : Session HostTable :=
      { start Host.ofTable table with config := { Config.default with maxRunDepth := 2 } }
    s.host.Serves s.world scripts ∧ s.depth = 0 ∧
    (∀ files, RunChain scripts "RUN \"outer\"" files → files.length ≤ s.config.maxRunDepth) ∧
    ∀ limit, (s.runSource "RUN \"outer\"").1 ≠ .error (.nestingTooDeep limit) := by
  intro table scripts s
  have hprogram : runTargets "RUN \"outer\"" = ["outer"] := by
    have hlines : Text.lines "RUN \"outer\"" = [Keyword.run.quotedLine "outer"] := by decide
    rw [runTargets, hlines,
      List.filterMap_cons_some (runTarget?_quotedLine _ (by decide) (by decide)),
      List.filterMap_nil]
  have houter : runTargets "RUN \"inner\"\nRUN \"lost\"" = ["inner", "lost"] := by
    have hlines : Text.lines "RUN \"inner\"\nRUN \"lost\"" =
        [Keyword.run.quotedLine "inner", Keyword.run.quotedLine "lost"] := by decide
    rw [runTargets, hlines,
      List.filterMap_cons_some (runTarget?_quotedLine _ (by decide) (by decide)),
      List.filterMap_cons_some (runTarget?_quotedLine _ (by decide) (by decide)),
      List.filterMap_nil]
  have hserves : s.host.Serves s.world scripts := Host.serves_ofTable table
  have hinner : ChainsWithin scripts 0 "" := by
    rw [chainsWithin_iff, show runTargets "" = [] from rfl]
    simp
  have hchains : ChainsWithin scripts 2 "RUN \"outer\"" := by
    rw [chainsWithin_iff, hprogram]
    intro file hfile text htext
    obtain rfl := List.mem_singleton.mp hfile
    obtain rfl := Except.ok.inj htext
    refine ⟨1, rfl, ?_⟩
    rw [chainsWithin_iff, houter]
    intro file hfile text htext
    rcases (by simpa using hfile : file = "inner" ∨ file = "lost") with rfl | rfl
    · obtain rfl := Except.ok.inj htext
      exact ⟨0, rfl, hinner⟩
    · cases htext
  exact ⟨hserves, rfl, hchains, limit_behind_all_chains_never_cuts s scripts hserves rfl _ hchains⟩

end Session

end LineScript
