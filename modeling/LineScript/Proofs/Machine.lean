import Mathlib.Logic.Function.Iterate
import LineScript.Proofs.Later

/-!
A run, one step after the other.

The machine has the scripts that are being run on a stack and counts their depth up and down, as
an interpreter does that calls itself for a nested script.  Nothing in it bounds the number of its
steps: whether a further script may begin is asked of the depth alone.

Main statement: the machine comes to an end from wherever a run begins, with the result and the
state of the run (`ofTokens_endsAs`, `ofLine_endsAs`, `ofLines_endsAs`).  The induction is on the
places of nesting that are left, and inside of a script on its lines (`runsFrame`).
-/

namespace LineScript

open Session

/-- A run under way. -/
structure Machine (ω : Type) where
  /-- The lines that are left of each script being run, the innermost script first. -/
  pending : List (List String)
  /-- A fault leaves one script after the other. -/
  result : Except Fault Unit
  session : Session ω

namespace Machine

variable {ω α : Type}

/-- Goes on from what a statement came to. -/
def settle (m : Machine ω) (ending : Ending ω α) : Machine ω :=
  { m with result := ending.1.map fun _ => (), session := ending.2 }

/-- Begins a nested script, if the depth is below the limit. -/
def descend (m : Machine ω) (text : String) (s : Session ω) : Machine ω :=
  if s.config.maxRunDepth ≤ s.depth then
    m.settle (α := Unit) (.error (.nestingTooDeep s.config.maxRunDepth), s)
  else { pending := Text.lines text :: m.pending, result := .ok (), session := s.enter }

/-- Does the statement that the tokens make up, or begins the script that it asks for. -/
def dispatch (m : Machine ω) (tokens : List Token) : Machine ω :=
  match m.session.asks? tokens with
  | none => m.settle (executeWith (fun _ s => (.ok (), s)) tokens m.session)
  | some (.error fault, s) => m.settle (α := Unit) (.error fault, s)
  | some (.ok text, s) => m.descend text s

def take (m : Machine ω) (line : String) : Machine ω :=
  match tokenize line with
  | .error e => m.settle (α := Unit) (.error (.lex e), m.session)
  | .ok tokens => { m with session := m.session.note (.scanned tokens) }.dispatch tokens

/-- Goes back from the innermost script, one level up unless it is the outermost. -/
def ascend (m : Machine ω) (outer : List (List String)) : Machine ω :=
  { m with
    pending := outer
    session := if outer.isEmpty then m.session else m.session.leave }

/-- A step: the next line of the innermost script, or the way back from it. -/
def step (m : Machine ω) : Machine ω :=
  match m.pending with
  | [] => m
  | script :: outer =>
    match m.result, script with
    | .ok _, line :: rest =>
      let m := { m with pending := rest :: outer }
      if Text.isBlank line then m else m.take line
    | _, _ => m.ascend outer

/-! ## Where runs begin -/

def idle (s : Session ω) : Machine ω :=
  { pending := [[]], result := .ok (), session := s }

def ofTokens (tokens : List Token) (s : Session ω) : Machine ω :=
  (idle s).dispatch tokens

def ofLine (line : String) (s : Session ω) : Machine ω :=
  (idle s).take line

def ofLines (lines : List String) (s : Session ω) : Machine ω :=
  { pending := [lines], result := .ok (), session := s }

/-! ## The machine runs what the run runs -/

/-- From the beginning of a script the machine comes to the end of its run. -/
def RunsFrame (ω : Type) (places : Nat) : Prop :=
  ∀ (lines : List String) (outer : List (List String)) (s : Session ω), s.room = places →
    ∃ n rest, step^[n] ⟨lines :: outer, .ok (), s⟩ =
        ⟨rest :: outer, (runLinesWith (nestedRun places) lines s).1,
          (runLinesWith (nestedRun places) lines s).2⟩ ∧
      ((runLinesWith (nestedRun places) lines s).1 = .ok () → rest = [])

theorem step_ascend (outer : List (List String)) (lines : List String)
    (result : Except Fault Unit) (s : Session ω) (h : result = .ok () → lines = []) :
    step ⟨lines :: outer, result, s⟩ = ascend ⟨lines :: outer, result, s⟩ outer := by
  cases result with
  | error fault => rfl
  | ok _ => rw [h rfl]; rfl

theorem room_pos_iff (s : Session ω) : 0 < s.room ↔ s.depth < s.config.maxRunDepth := by
  unfold Session.room
  omega

/-- The nested script, from the descent to the return, with `places` places left outside. -/
theorem descend_runs (places : Nat) (below : ∀ p, places = p + 1 → RunsFrame ω p) (text : String)
    (rest : List String) (outer : List (List String)) (result : Except Fault Unit)
    (s t : Session ω) (ht : t.room = places) :
    ∃ n, step^[n] (descend ⟨rest :: outer, result, s⟩ text t) =
      settle ⟨rest :: outer, result, s⟩ (nestedRun places text t) := by
  have hpos := room_pos_iff t
  unfold descend
  cases places with
  | zero =>
    refine ⟨0, ?_⟩
    rw [if_pos (by omega)]
    rfl
  | succ p =>
    rw [if_neg (by omega)]
    have hroom : t.enter.room = p := by
      show t.config.maxRunDepth - (t.depth + 1) = p
      unfold Session.room at ht
      omega
    obtain ⟨n, left, hn, hleft⟩ := below p rfl (Text.lines text) (rest :: outer) t.enter hroom
    refine ⟨n + 1, ?_⟩
    rw [Function.iterate_succ_apply', hn, step_ascend _ _ _ _ hleft]
    simp only [nestedRun, ascend, settle]
    cases (runLinesWith (nestedRun p) (Text.lines text) t.enter).1 <;> rfl

theorem dispatch_runs (places : Nat) (below : ∀ p, places = p + 1 → RunsFrame ω p)
    (tokens : List Token) (rest : List String) (outer : List (List String)) (s : Session ω)
    (hs : s.room = places) :
    ∃ n, step^[n] (dispatch ⟨rest :: outer, .ok (), s⟩ tokens) =
      settle ⟨rest :: outer, .ok (), s⟩ (executeWith (nestedRun places) tokens s) := by
  unfold dispatch
  dsimp only
  split
  · next hasks =>
    refine ⟨0, ?_⟩
    rw [executeWith_of_not_asks (nestedRun places) _ tokens s hasks]
    rfl
  · next fault t hasks =>
    refine ⟨0, ?_⟩
    rw [executeWith_of_asks _ tokens s _ hasks]
    rfl
  · next text t hasks =>
    have ht : t.room = places := by rw [(later_asks s tokens _ hasks).room, hs]
    obtain ⟨n, hn⟩ := descend_runs places below text rest outer (.ok ()) s t ht
    refine ⟨n, ?_⟩
    rw [hn, executeWith_of_asks _ tokens s _ hasks, Ending.andThen_ok]
    obtain ⟨result, u⟩ := nestedRun places text t
    cases result <;> rfl

theorem take_runs (places : Nat) (below : ∀ p, places = p + 1 → RunsFrame ω p) (line : String)
    (rest : List String) (outer : List (List String)) (s : Session ω) (hs : s.room = places) :
    ∃ n, step^[n] (take ⟨rest :: outer, .ok (), s⟩ line) =
      settle ⟨rest :: outer, .ok (), s⟩ (runLineWith (nestedRun places) line s) := by
  unfold take
  dsimp only
  split
  · next e htokens =>
    refine ⟨0, ?_⟩
    simp only [runLineWith, htokens]
    rfl
  · next tokens htokens =>
    obtain ⟨n, hn⟩ := dispatch_runs places below tokens rest outer (s.note (.scanned tokens)) hs
    refine ⟨n, ?_⟩
    rw [hn, runLineWith_of_tokens _ _ _ _ htokens]
    rfl

theorem runsFrame_of_below (places : Nat) (below : ∀ p, places = p + 1 → RunsFrame ω p) :
    RunsFrame ω places := by
  intro lines
  induction lines with
  | nil => intro outer s _; exact ⟨0, [], rfl, fun _ => rfl⟩
  | cons line rest ih =>
    intro outer s hs
    by_cases hblank : Text.isBlank line = true
    · obtain ⟨n, left, hn, hleft⟩ := ih outer s hs
      refine ⟨n + 1, left, ?_, ?_⟩
      · rw [Function.iterate_succ_apply, step]
        simpa only [hblank, if_true, runLinesWith] using hn
      · simpa only [hblank, if_true, runLinesWith] using hleft
    · obtain ⟨n, hn⟩ := take_runs places below line rest outer s hs
      have hlater := later_runLineWith (later_nestedRun places) line s
      have hrun : runLinesWith (nestedRun places) (line :: rest) s =
          (runLineWith (nestedRun places) line s).andThen
            fun _ s => runLinesWith (nestedRun places) rest s := by
        rw [runLinesWith, if_neg hblank]
      have hfirst : step ⟨(line :: rest) :: outer, .ok (), s⟩ =
          take ⟨rest :: outer, .ok (), s⟩ line := by
        simp only [step, hblank, Bool.false_eq_true, if_false]
      rw [hrun]
      generalize runLineWith (nestedRun places) line s = ending at hn hlater ⊢
      obtain ⟨result, t⟩ := ending
      cases result with
      | error fault =>
        refine ⟨n + 1, rest, ?_, fun h => ?_⟩
        · rw [Function.iterate_succ_apply, hfirst, hn]
          rfl
        · cases h
      | ok outcome =>
        obtain ⟨k, left, hk, hleft⟩ := ih outer t (hlater.room.trans hs)
        refine ⟨k + (n + 1), left, ?_, hleft⟩
        rw [Function.iterate_add_apply, Function.iterate_succ_apply, hfirst, hn]
        exact hk

theorem runsFrame (places : Nat) : RunsFrame ω places := by
  induction places with
  | zero => exact runsFrame_of_below 0 fun p hp => by omega
  | succ places ih =>
    refine runsFrame_of_below (places + 1) fun p hp => ?_
    obtain rfl : places = p := by omega
    exact ih

theorem below_runsFrame (places p : Nat) (_ : places = p + 1) : RunsFrame ω p :=
  runsFrame p

/-! ## The machine comes to an end -/

/-- The machine comes to an end, with this result and this state. -/
def EndsAs (m : Machine ω) (ending : Ending ω α) : Prop :=
  ∃ n, step^[n] m = { pending := [], result := ending.1.map fun _ => (), session := ending.2 }

theorem endsAs_of_settled (s : Session ω) (m : Machine ω) (ending : Ending ω α)
    (h : ∃ n, step^[n] m = (idle s).settle ending) : m.EndsAs ending := by
  obtain ⟨n, hn⟩ := h
  refine ⟨n + 1, ?_⟩
  rw [Function.iterate_succ_apply', hn, settle, idle, step_ascend _ _ _ _ fun _ => rfl]
  rfl

theorem ofTokens_endsAs (tokens : List Token) (s : Session ω) :
    (ofTokens tokens s).EndsAs (s.execute tokens) :=
  endsAs_of_settled s _ _ (dispatch_runs s.room (below_runsFrame s.room) tokens [] [] s rfl)

theorem ofLine_endsAs (line : String) (s : Session ω) :
    (ofLine line s).EndsAs (s.runLine line) :=
  endsAs_of_settled s _ _ (take_runs s.room (below_runsFrame s.room) line [] [] s rfl)

theorem ofLines_endsAs (lines : List String) (s : Session ω) :
    (ofLines lines s).EndsAs (s.runLines lines) := by
  obtain ⟨n, left, hn, hleft⟩ := runsFrame s.room lines [] s rfl
  refine ⟨n + 1, ?_⟩
  rw [Function.iterate_succ_apply', ofLines, hn, step_ascend _ _ _ _ hleft]
  unfold Session.runLines
  obtain ⟨result, t⟩ := runLinesWith (nestedRun s.room) lines s
  cases result <;> rfl

end Machine

end LineScript
