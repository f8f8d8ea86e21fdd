import LineScript.Proofs.Later

/-!
What every run does because every statement does it.

A relation between states that holds of single statements, and that can be put one behind the
other, holds of whole runs (`KeptByRuns.runLines`).  The statements may be restricted: then the
lines of the program and of every script that the host can come to serve must be of that kind.
-/

namespace LineScript

/-! ## Kinds of programs -/

/-- If the line can be cut into tokens, they are of this kind. -/
def LineAllowed (allowed : List Token → Prop) (line : String) : Prop :=
  ∀ tokens, tokenize line = .ok tokens → allowed tokens

/-- Every line of the text is of this kind. -/
def TextAllowed (allowed : List Token → Prop) (text : String) : Prop :=
  ∀ line ∈ Text.lines text, LineAllowed allowed line

variable {ω : Type}

/-- Every script that the host can come to serve is of this kind. -/
def Host.ScriptsAllowed (host : Host ω) (start : ω) (allowed : List Token → Prop) : Prop :=
  ∀ world, host.Reaches start world → ∀ name text,
    (host.readScript name world).result = .ok text → TextAllowed allowed text

theorem TextAllowed.mono {allowed allowed' : List Token → Prop} {text : String}
    (h : TextAllowed allowed text) (hle : ∀ tokens, allowed tokens → allowed' tokens) :
    TextAllowed allowed' text :=
  fun line hline tokens htokens => hle tokens (h line hline tokens htokens)

theorem Host.ScriptsAllowed.of_reaches {host : Host ω} {start world : ω}
    {allowed : List Token → Prop} (h : host.ScriptsAllowed start allowed)
    (hworld : host.Reaches start world) : host.ScriptsAllowed world allowed :=
  fun other hother => h other (hworld.trans hother)

/-- A table serves what it holds. -/
theorem Host.scriptsAllowed_ofTable {allowed : List Token → Prop} {table : HostTable}
    (h : ∀ entry ∈ table.scripts, TextAllowed allowed entry.2) :
    Host.ofTable.ScriptsAllowed table allowed := by
  intro world hworld name text htext
  obtain rfl := Host.eq_of_reaches_ofTable hworld
  simp only [Host.ofTable, Reply.plain] at htext
  split at htext
  · next found hfound =>
    obtain rfl := Except.ok.inj htext
    obtain ⟨before, behind, hscripts, -⟩ := List.lookup_eq_some_iff.mp hfound
    exact h (name, found) (by rw [hscripts]; simp)
  · cases htext

namespace Session

/-- The host of the state serves scripts of this kind only. -/
def ScriptsAllowed (s : Session ω) (allowed : List Token → Prop) : Prop :=
  s.host.ScriptsAllowed s.world allowed

theorem ScriptsAllowed.of_later {s t : Session ω} {allowed : List Token → Prop}
    (h : s.ScriptsAllowed allowed) (hlater : s.Later t) : t.ScriptsAllowed allowed := by
  unfold ScriptsAllowed
  rw [hlater.host]
  exact Host.ScriptsAllowed.of_reaches h hlater.reaches

/-! ## Relations that runs keep -/

/-- What is to be shown of a relation, statement by statement, so that all runs keep it. -/
structure KeptByRuns (allowed : List Token → Prop) (R : Session ω → Session ω → Prop) : Prop where
  refl : ∀ s, R s s
  trans : ∀ {s t u}, R s t → R t u → R s u
  scanned : ∀ s tokens, R s (s.note (.scanned tokens))
  /-- A statement that asks for no script. -/
  statement : ∀ s tokens, allowed tokens → s.asks? tokens = none →
    R s (executeWith (fun _ s => (.ok (), s)) tokens s).2
  /-- A statement that asks for a script, up to the answer. -/
  asks : ∀ s tokens asked, allowed tokens → s.asks? tokens = some asked → R s asked.2
  /-- Around a nested script. -/
  around : ∀ s t, R s.enter t → R s t.leave

variable {allowed : List Token → Prop} {R : Session ω → Session ω → Prop}

/-- What the host answers a statement with is a script that it serves. -/
theorem ScriptsAllowed.textAllowed_of_asks {s : Session ω} (h : s.ScriptsAllowed allowed)
    {tokens : List Token} {text : String} {t : Session ω}
    (hasks : s.asks? tokens = some (.ok text, t)) : TextAllowed allowed text := by
  obtain ⟨name, hresult⟩ := result_of_asks hasks
  exact h s.world .start name text hresult

theorem KeptByRuns.executeWith (h : KeptByRuns allowed R)
    {nested : String → Session ω → Ending ω Unit}
    (hn : ∀ text s, TextAllowed allowed text → s.ScriptsAllowed allowed → R s (nested text s).2)
    (tokens : List Token) (htokens : allowed tokens) (s : Session ω)
    (hs : s.ScriptsAllowed allowed) : R s (Session.executeWith nested tokens s).2 := by
  cases hasks : s.asks? tokens with
  | none =>
    rw [executeWith_of_not_asks nested _ tokens s hasks]
    exact h.statement s tokens htokens hasks
  | some asked =>
    have hasked := h.asks s tokens asked htokens hasks
    have hlater := later_asks s tokens asked hasks
    rw [executeWith_of_asks nested tokens s asked hasks, snd_andThen_executed]
    obtain ⟨_ | text, t⟩ := asked
    · exact hasked
    · exact h.trans hasked (hn text t (hs.textAllowed_of_asks hasks) (hs.of_later hlater))

theorem KeptByRuns.runLineWith (h : KeptByRuns allowed R)
    {nested : String → Session ω → Ending ω Unit}
    (hn : ∀ text s, TextAllowed allowed text → s.ScriptsAllowed allowed → R s (nested text s).2)
    (line : String) (hline : LineAllowed allowed line) (s : Session ω)
    (hs : s.ScriptsAllowed allowed) : R s (Session.runLineWith nested line s).2 := by
  unfold Session.runLineWith
  split
  · exact h.refl s
  · next tokens htokens =>
    exact h.trans (h.scanned s tokens)
      (h.executeWith hn tokens (hline tokens htokens) (s.note (.scanned tokens)) hs)

theorem KeptByRuns.runLinesWith (h : KeptByRuns allowed R)
    {nested : String → Session ω → Ending ω Unit}
    (hlater : ∀ text (s : Session ω), s.Later (nested text s).2)
    (hn : ∀ text s, TextAllowed allowed text → s.ScriptsAllowed allowed → R s (nested text s).2)
    (lines : List String) (hlines : ∀ line ∈ lines, LineAllowed allowed line) (s : Session ω)
    (hs : s.ScriptsAllowed allowed) : R s (Session.runLinesWith nested lines s).2 := by
  induction lines generalizing s with
  | nil => exact h.refl s
  | cons line rest ih =>
    obtain ⟨hline, hrest⟩ := List.forall_mem_cons.mp hlines
    unfold Session.runLinesWith
    split
    · exact ih hrest s hs
    · have hfirst := h.runLineWith hn line hline s hs
      have hafter := hs.of_later (later_runLineWith hlater line s)
      generalize Session.runLineWith nested line s = ending at hfirst hafter ⊢
      obtain ⟨_ | _, t⟩ := ending
      · exact hfirst
      · exact h.trans hfirst (ih hrest t hafter)

theorem KeptByRuns.nestedRun (h : KeptByRuns allowed R) (places : Nat) (text : String)
    (s : Session ω) (htext : TextAllowed allowed text) (hs : s.ScriptsAllowed allowed) :
    R s (Session.nestedRun places text s).2 := by
  induction places generalizing text s with
  | zero => exact h.refl s
  | succ places ih =>
    refine h.around s _ ?_
    exact h.runLinesWith (later_nestedRun places) ih (Text.lines text) htext s.enter hs

/-- **Run induction.**  What every statement keeps, every run keeps. -/
theorem KeptByRuns.runLines (h : KeptByRuns allowed R) (lines : List String)
    (hlines : ∀ line ∈ lines, LineAllowed allowed line) (s : Session ω)
    (hs : s.ScriptsAllowed allowed) : R s (s.runLines lines).2 :=
  h.runLinesWith (later_nestedRun s.room) (h.nestedRun s.room) lines hlines s hs

end Session

end LineScript
