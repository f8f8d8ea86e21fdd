import LineScript.Proofs.Effects
import LineScript.Proofs.Machine

/-!
The life of an interpreter, move by move.

Between runs an interpreter can be given tokens, a line or a program, and operations can be
registered from outside; during a run it goes on as the machine does.  A sequence of such moves, of
any length, is `Machine.Leads`.  Its statements are those of nested scripts as well, each with the
state that it finds.

* What a move does to the state is one of a few things (`Changes`, `changes_of_moves`).
* What every move keeps, all sequences of moves keep (`KeptByMoves.leads`).
* Whole runs are such sequences (`leads_execute`, `leads_runLine`, `leads_runSource`).
-/

namespace LineScript

open Session

inductive Move (ω : Type)
  /-- A statement is taken up, in the state that it finds. -/
  | statement (found : Session ω) (tokens : List Token)
  /-- An operation is put under a name from outside. -/
  | registration (name : String) (operation : Operation)
  /-- A program begins, a line is passed over or refused, or a script ends. -/
  | other

variable {ω : Type}

/-- What taking up the line is. -/
def Move.ofLine (line : String) (s : Session ω) : Move ω :=
  match tokenize line with
  | .ok tokens => .statement (s.note (.scanned tokens)) tokens
  | .error _ => .other

/-- The move belongs to a run: nothing is registered from outside. -/
def Move.InRun : Move ω → Prop
  | registration _ _ => False
  | statement _ _ | other => True

theorem Move.inRun_ofLine (line : String) (s : Session ω) : (Move.ofLine line s).InRun := by
  unfold ofLine
  split <;> trivial

namespace Machine

def atRest (s : Session ω) : Machine ω :=
  { pending := [], result := .ok (), session := s }

def nextMove (m : Machine ω) : Move ω :=
  match m.pending, m.result with
  | (line :: _) :: _, .ok _ => if Text.isBlank line then .other else .ofLine line m.session
  | _, _ => .other

/-- What an interpreter can do next.  A run can begin only where none is under way. -/
inductive Moves : Machine ω → Move ω → Machine ω → Prop
  | step (m : Machine ω) : Moves m m.nextMove m.step
  | execute (m : Machine ω) (tokens : List Token) (hrest : m.pending = []) :
      Moves m (.statement m.session tokens) (ofTokens tokens m.session)
  | runLine (m : Machine ω) (line : String) (hrest : m.pending = []) :
      Moves m (.ofLine line m.session) (ofLine line m.session)
  | runSource (m : Machine ω) (text : String) (hrest : m.pending = []) :
      Moves m .other (ofLines (Text.lines text) m.session)
  | register (m : Machine ω) (name : String) (operation : Operation) (hrest : m.pending = []) :
      Moves m (.registration name operation)
        { m with session := m.session.register name operation }

/-- What an interpreter can do, one move after the other. -/
inductive Leads : Machine ω → List (Move ω) → Machine ω → Prop
  | nil (m : Machine ω) : Leads m [] m
  | snoc {m n o : Machine ω} {moves : List (Move ω)} {move : Move ω} :
      Leads m moves n → Moves n move o → Leads m (moves ++ [move]) o

namespace Leads

variable {m n o : Machine ω} {moves more : List (Move ω)}

theorem single {move : Move ω} (h : Moves m move n) : Leads m [move] n :=
  .snoc (.nil m) h

theorem append (h : Leads m moves n) (hmore : Leads n more o) : Leads m (moves ++ more) o := by
  induction hmore with
  | nil => rwa [List.append_nil]
  | snoc _ hmove ih =>
    rw [← List.append_assoc]
    exact .snoc ih hmove

end Leads

/-! ## What a move does -/

/-- The tokens are dispatched in this state. -/
theorem dispatch_session (m : Machine ω) (tokens : List Token) :
    (m.session.asks? tokens = none ∧ (m.dispatch tokens).session =
      (executeWith (fun _ s => (.ok (), s)) tokens m.session).2) ∨
    ∃ asked, m.session.asks? tokens = some asked ∧
      ((m.dispatch tokens).session = asked.2 ∨ (m.dispatch tokens).session = asked.2.enter) := by
  unfold dispatch
  cases hasks : m.session.asks? tokens with
  | none => exact .inl ⟨rfl, rfl⟩
  | some asked =>
    refine .inr ⟨asked, rfl, ?_⟩
    obtain ⟨fault | text, s⟩ := asked
    · exact .inl rfl
    · dsimp only
      unfold descend
      split
      · exact .inl rfl
      · exact .inr rfl

/-- What moves do, by their kind. -/
inductive Changes (m : Machine ω) : Move ω → Machine ω → Prop
  | nothing {n : Machine ω} (hsession : n.session = m.session) : Changes m .other n
  /-- A nested script ends. -/
  | back {n : Machine ω} (hsession : n.session = m.session.leave) : Changes m .other n
  | registration {n : Machine ω} {name : String} {operation : Operation}
      (hsession : n.session = m.session.register name operation) :
      Changes m (.registration name operation) n
  /-- The statement finds the state, or the state with the line's tokens noted. -/
  | statement (k : Machine ω) (tokens : List Token)
      (hfound : k.session = m.session ∨ k.session = m.session.note (.scanned tokens)) :
      Changes m (.statement k.session tokens) (k.dispatch tokens)

theorem changes_take (m k : Machine ω) (line : String) (hsession : k.session = m.session) :
    Changes m (.ofLine line m.session) (k.take line) := by
  unfold Move.ofLine take
  rw [← hsession]
  cases tokenize line with
  | error e => exact .nothing hsession
  | ok tokens =>
    exact .statement { k with session := k.session.note (.scanned tokens) } tokens
      (.inr (by rw [← hsession]))

theorem changes_ascend (m : Machine ω) (outer : List (List String)) :
    Changes m .other (m.ascend outer) := by
  unfold ascend
  cases outer with
  | nil => exact .nothing rfl
  | cons script rest => exact .back rfl

theorem changes_step (m : Machine ω) : Changes m m.nextMove m.step := by
  obtain ⟨pending, result, s⟩ := m
  rcases pending with _ | ⟨_ | ⟨line, rest⟩, outer⟩
  · exact .nothing rfl
  · cases result <;> exact changes_ascend _ outer
  · cases result with
    | error fault => exact changes_ascend _ outer
    | ok _ =>
      unfold nextMove step
      dsimp only
      split
      · exact .nothing rfl
      · exact changes_take _ _ line rfl

/-- **Moves.**  What an interpreter can do to its state at a time. -/
theorem changes_of_moves {m n : Machine ω} {move : Move ω} (h : Moves m move n) :
    Changes m move n := by
  cases h with
  | step => exact changes_step m
  | execute tokens _ => exact .statement (idle m.session) tokens (.inl rfl)
  | runLine line _ => exact changes_take m (idle m.session) line rfl
  | runSource text _ => exact .nothing rfl
  | register name operation _ => exact .registration rfl

/-! ## What a statement does -/

section

variable {m n : Machine ω} {found : Session ω} {tokens : List Token}

/-- A statement finds the state, or the state with the line's tokens noted. -/
theorem found_of_moves (h : Moves m (.statement found tokens) n) :
    found = m.session ∨ found = m.session.note (.scanned tokens) := by
  cases changes_of_moves h with
  | statement k _ hfound => exact hfound

/-- A statement that asks for no script is done at once. -/
theorem done_of_moves (h : Moves m (.statement found tokens) n)
    (hasks : found.asks? tokens = none) :
    n.result = (executeWith (fun _ s => (.ok (), s)) tokens found).1.map (fun _ => ()) ∧
      n.session = (executeWith (fun _ s => (.ok (), s)) tokens found).2 := by
  cases changes_of_moves h with
  | statement k _ _ =>
    unfold dispatch
    rw [hasks]
    exact ⟨rfl, rfl⟩

/-- A statement of a built-in command is performed at once, unless it runs a script. -/
theorem performed_of_moves {command : Keyword} {statement : Statement}
    (h : Moves m (.statement found tokens) n) (hplace : found.destination tokens = .builtIn command)
    (hrun : command ≠ .run)
    (hstatement : Statement.ofOperands command (operands tokens) = .ok statement) :
    ∃ journal, (n.result, n.session) =
      perform (fun _ s => (.ok (), s)) statement { found with journal := journal } := by
  have hasks : found.asks? tokens = none := by
    cases hasks : found.asks? tokens with
    | none => rfl
    | some asked =>
      have hplace' := hplace.symm.trans (destination_of_asks hasks)
      exact absurd (Destination.builtIn.inj hplace') hrun
  obtain ⟨hresult, hsession⟩ := done_of_moves h hasks
  obtain ⟨journal, hperform⟩ := executeWith_of_builtIn (fun _ s => (.ok (), s)) hplace hstatement
  refine ⟨journal, ?_⟩
  rw [hresult, hsession, hperform]
  generalize perform (fun _ s => (.ok (), s)) statement _ = ending
  obtain ⟨_ | _, t⟩ := ending <;> rfl

end

/-! ## What all moves keep -/

/-- What is to be shown of a relation, move by move, so that all sequences of moves keep it. -/
structure KeptByMoves (allowed : Move ω → Prop) (R : Session ω → Session ω → Prop) : Prop where
  refl : ∀ s, R s s
  trans : ∀ {s t u}, R s t → R t u → R s u
  scanned : ∀ s tokens, R s (s.note (.scanned tokens))
  /-- A statement that asks for no script. -/
  statement : ∀ s tokens, allowed (.statement s tokens) → s.asks? tokens = none →
    R s (executeWith (fun _ s => (.ok (), s)) tokens s).2
  /-- A statement that asks for a script, up to the answer. -/
  asks : ∀ s tokens asked, allowed (.statement s tokens) → s.asks? tokens = some asked →
    R s asked.2
  enter : ∀ s, R s s.enter
  leave : ∀ s, R s s.leave
  registration : ∀ s name operation, allowed (.registration name operation) →
    R s (s.register name operation)

namespace KeptByMoves

variable {allowed : Move ω → Prop} {R : Session ω → Session ω → Prop} {m n : Machine ω}

theorem dispatch (h : KeptByMoves allowed R) (k : Machine ω) (tokens : List Token)
    (htokens : allowed (.statement k.session tokens)) :
    R k.session (k.dispatch tokens).session := by
  rcases dispatch_session k tokens with ⟨hasks, hsession⟩ | ⟨asked, hasks, hsession⟩
  · rw [hsession]
    exact h.statement k.session tokens htokens hasks
  · have hasked := h.asks k.session tokens asked htokens hasks
    rcases hsession with hsession | hsession
    · rwa [hsession]
    · rw [hsession]
      exact h.trans hasked (h.enter asked.2)

/-- A statement finds a state that the relation leads to. -/
theorem found (h : KeptByMoves allowed R) {s : Session ω} {tokens : List Token}
    (hmoves : Moves m (.statement s tokens) n) : R m.session s := by
  rcases found_of_moves hmoves with hfound | hfound
  · rw [hfound]
    exact h.refl m.session
  · rw [hfound]
    exact h.scanned m.session tokens

theorem moves (h : KeptByMoves allowed R) {move : Move ω} (hallowed : allowed move)
    (hmoves : Moves m move n) : R m.session n.session := by
  cases changes_of_moves hmoves with
  | nothing hsession =>
    rw [hsession]
    exact h.refl m.session
  | back hsession =>
    rw [hsession]
    exact h.leave m.session
  | registration hsession =>
    rw [hsession]
    exact h.registration m.session _ _ hallowed
  | statement k tokens _ => exact h.trans (h.found hmoves) (h.dispatch k tokens hallowed)

/-- **Induction on moves.**  What every move keeps, all sequences of moves keep. -/
theorem leads (h : KeptByMoves allowed R) {moves : List (Move ω)}
    (hallowed : ∀ move ∈ moves, allowed move) (hleads : Leads m moves n) :
    R m.session n.session := by
  induction hleads with
  | nil => exact h.refl _
  | snoc _ hmove ih =>
    rw [List.forall_mem_append, List.forall_mem_singleton] at hallowed
    exact h.trans (ih hallowed.1) (h.moves hallowed.2 hmove)

end KeptByMoves

/-! ## Whole runs are moves -/

theorem nextMove_inRun (m : Machine ω) : m.nextMove.InRun := by
  unfold nextMove
  split
  · split
    · trivial
    · exact Move.inRun_ofLine _ _
  · trivial

theorem leads_iterate_step (m : Machine ω) (count : Nat) :
    ∃ moves, (∀ move ∈ moves, Move.InRun move) ∧ Leads m moves (step^[count] m) := by
  induction count with
  | zero => exact ⟨[], by simp, .nil m⟩
  | succ count ih =>
    obtain ⟨moves, hmoves, h⟩ := ih
    rw [Function.iterate_succ_apply']
    refine ⟨moves ++ [(step^[count] m).nextMove], ?_, .snoc h (.step _)⟩
    rw [List.forall_mem_append, List.forall_mem_singleton]
    exact ⟨hmoves, nextMove_inRun _⟩

/-- The machine after a run, before anything else is done. -/
def atEndOf {α : Type} (ending : Ending ω α) : Machine ω :=
  { pending := [], result := ending.1.map fun _ => (), session := ending.2 }

section

variable {α : Type} {m n : Machine ω} {move : Move ω}

theorem leads_of_endsAs {ending : Ending ω α} (hmove : move.InRun) (hmoves : Moves m move n)
    (h : n.EndsAs ending) :
    ∃ moves, (∀ move ∈ moves, Move.InRun move) ∧ Leads m moves (atEndOf ending) := by
  obtain ⟨count, hcount⟩ := h
  obtain ⟨more, hmore, hleads⟩ := leads_iterate_step n count
  rw [hcount] at hleads
  exact ⟨[move] ++ more, by simpa using ⟨hmove, hmore⟩, (Leads.single hmoves).append hleads⟩

theorem leads_execute (hrest : m.pending = []) (tokens : List Token) :
    ∃ moves, (∀ move ∈ moves, Move.InRun move) ∧
      Leads m moves (atEndOf (m.session.execute tokens)) := by
  have hmove : (Move.statement m.session tokens).InRun := trivial
  exact leads_of_endsAs hmove (.execute m tokens hrest) (ofTokens_endsAs tokens m.session)

theorem leads_runLine (hrest : m.pending = []) (line : String) :
    ∃ moves, (∀ move ∈ moves, Move.InRun move) ∧
      Leads m moves (atEndOf (m.session.runLine line)) :=
  leads_of_endsAs (Move.inRun_ofLine line m.session) (.runLine m line hrest)
    (ofLine_endsAs line m.session)

theorem leads_runSource (hrest : m.pending = []) (text : String) :
    ∃ moves, (∀ move ∈ moves, Move.InRun move) ∧
      Leads m moves (atEndOf (m.session.runSource text)) := by
  have hmove : (Move.other : Move ω).InRun := trivial
  exact leads_of_endsAs hmove (.runSource m text hrest) (ofLines_endsAs (Text.lines text) m.session)

end

end Machine

end LineScript
