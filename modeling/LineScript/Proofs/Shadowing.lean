import LineScript.Proofs.Journal
import LineScript.Proofs.Moves

/-!
Registered operations.

A name that is registered stays registered, the operation under it is the one that was registered
last, and from then on all statements that begin with the name are given to the operation that is
found there, whatever built-in command has this name too (`Machine.registered_name_is_permanent`).

* What a statement registers are the operations of the unit that it imports, whether or not the
  unit fails then (`Session.imports`, `executeWith_registry`).
* Every move registers what it says that it does (`registry_of_moves`), so that the registry at any
  time is that of the beginning with all registrations since (`registry_of_leads`).
* No move performs a built-in command of a registered name (`shadowed_of_moves`).
-/

namespace LineScript

variable {ω : Type}

/-! ## Registrations in order -/

namespace Registry

def registerAll (registry : Registry) (entries : List (String × Operation)) : Registry :=
  entries.foldl (fun r entry => r.register entry.1 entry.2) registry

theorem registerAll_append (registry : Registry) (first second : List (String × Operation)) :
    registry.registerAll (first ++ second) = (registry.registerAll first).registerAll second :=
  List.foldl_append

/-- The last registration under a name counts. -/
theorem lookup_registerAll (registry : Registry) (entries : List (String × Operation))
    (name : String) :
    (registry.registerAll entries).lookup name =
      (entries.reverse.lookup name).or (registry.lookup name) := by
  induction entries generalizing registry with
  | nil => rfl
  | cons entry rest ih =>
    obtain ⟨key, operation⟩ := entry
    have hfirst : ([(key, operation)].lookup name).or (registry.lookup name) =
        (registry.register key operation).lookup name := by
      rw [lookup_register]
      by_cases h : key = name
      · simp [h]
      · have hne : (name == key) = false := by simpa using fun e => h e.symm
        simp [List.lookup_cons, hne, h]
    rw [List.reverse_cons, List.lookup_append, Option.or_assoc, hfirst]
    exact ih (registry.register key operation)

theorem contains_eq_isSome (registry : Registry) (name : String) :
    registry.contains name = (registry.lookup name).isSome :=
  Std.ExtTreeMap.contains_eq_isSome_getElem?

theorem contains_registerAll (registry : Registry) (entries : List (String × Operation))
    {name : String} (h : registry.contains name = true) :
    (registry.registerAll entries).contains name = true := by
  rw [contains_eq_isSome] at h ⊢
  rw [lookup_registerAll, Option.isSome_or, h, Bool.or_true]

end Registry

/-! ## What a statement registers -/

namespace Session

/-- The operations that the statement registers: all those of the unit that it imports. -/
def imports (s : Session ω) (tokens : List Token) : List (String × Operation) :=
  match s.destination tokens, operands tokens with
  | .builtIn .importUnit, token :: _ =>
    match (unquoted? token).bind s.catalog.lookup with
    | some unit => unit.operations
    | none => []
  | _, _ => []

theorem imports_of_destination {s : Session ω} {tokens : List Token}
    (h : s.destination tokens ≠ .builtIn .importUnit) : s.imports tokens = [] := by
  unfold imports
  split
  · next hplace _ => exact absurd hplace h
  · rfl

theorem exists_unit_of_mem_imports {s : Session ω} {tokens : List Token}
    {entry : String × Operation} (h : entry ∈ s.imports tokens) :
    ∃ key unit, s.catalog.lookup key = some unit ∧ entry ∈ unit.operations := by
  unfold imports at h
  split at h
  · split at h
    · next unit hunit =>
      obtain ⟨key, -, hkey⟩ := Option.bind_eq_some_iff.mp hunit
      exact ⟨key, unit, hkey, h⟩
    · cases h
  · cases h

/-- A unit that fails has been registered as well. -/
theorem importUnit_registry (s : Session ω) (token : String) :
    (s.importUnit token).2.registry = s.registry.registerAll
      (match (unquoted? token).bind s.catalog.lookup with
      | some unit => unit.operations
      | none => []) := by
  unfold importUnit
  split
  · next hname => rw [hname]; rfl
  · next name hname =>
    rw [hname, Option.bind_some]
    split
    · next hunit => rw [hunit]; rfl
    · next unit hunit =>
      have hregistered := registerUnit_registry s unit
      rw [hunit]
      dsimp only
      split <;> exact hregistered

/-- A statement registers the operations that it imports and no others. -/
theorem executeWith_registry (nested : String → Session ω → Ending ω Unit) {tokens : List Token}
    {s : Session ω} (hasks : s.asks? tokens = none) :
    (executeWith nested tokens s).2.registry = s.registry.registerAll (s.imports tokens) := by
  have hdoes := executeWith_does nested tokens s
  generalize executeWith nested tokens s = ending at hdoes
  cases hdoes with
  | elsewhere journal hplace _ =>
    rw [imports_of_destination (hplace .importUnit)]
    rfl
  | @malformed command fault journal hplace hstatement =>
    have hnothing : s.imports tokens = [] := by
      unfold imports
      split
      · next token more hcommand hoperands =>
        -- one operand is all that IMPORT needs
        obtain rfl := Destination.builtIn.inj (hplace.symm.trans hcommand)
        rw [hoperands] at hstatement
        cases hstatement
      · rfl
    rw [hnothing]
    rfl
  | @builtIn command statement journal hplace hstatement =>
    rw [snd_andThen_executed]
    by_cases hcommand : command = .importUnit
    · obtain rfl := hcommand
      obtain ⟨token, more, hoperands, rfl⟩ := Statement.ofOperands_importUnit hstatement
      have h := importUnit_registry { s with journal := journal } token
      simp only [imports, hplace, hoperands]
      exact h
    · have hother : Destination.builtIn command ≠ .builtIn .importUnit :=
        fun h => hcommand (Destination.builtIn.inj h)
      have hframe := perform_frame nested (Statement.mem_commands hstatement)
        (ne_run_of_asks_eq_none hasks hplace hstatement) { s with journal := journal }
      rw [hframe.registry hother, imports_of_destination (by rwa [hplace])]
      rfl

theorem asks_registry {s : Session ω} {tokens : List Token} {asked : Ending ω String}
    (hasks : s.asks? tokens = some asked) : asked.2.registry = s.registry := by
  obtain ⟨head, file, more, -, -, rfl⟩ := eq_of_asks hasks
  rw [readScript_eq, noteSurplus_eq]
  rfl

theorem imports_of_asks {s : Session ω} {tokens : List Token} {asked : Ending ω String}
    (hasks : s.asks? tokens = some asked) : s.imports tokens = [] := by
  refine imports_of_destination ?_
  rw [destination_of_asks hasks]
  simp

/-! ## What is performed -/

/-- The event is not that a built-in command of a registered name is performed. -/
def SparesRegistered (s : Session ω) (event : Event) : Prop :=
  ∀ command, event = .performed command → s.registry.contains command.name = false

theorem executeWith_spares (nested : String → Session ω → Ending ω Unit) {tokens : List Token}
    {s : Session ω} (hasks : s.asks? tokens = none) :
    Adds s.SparesRegistered s (executeWith nested tokens s).2 := by
  cases tokens with
  | nil => exact .of_journal_eq rfl
  | cons head rest =>
    cases hfree : s.registry.contains head.text with
    | true =>
      have hcall : Adds s.SparesRegistered s ((s.note (.dispatched head.text)).call head.text
          ((rest.map (·.text)).map .text)).2 :=
        Adds.trans (Adds.note fun _ h => by cases h) (call_adds _ (fun _ _ h => by cases h) _ _ _)
      rw [executeWith]
      simp only [hfree, if_true]
      rwa [Ending.snd_andThen_ok]
    | false =>
      refine (executeWith_adds nested (head :: rest) s hasks).mono fun event hevent => ?_
      rintro command rfl
      obtain ⟨_, _, htokens, hname⟩ := hevent
      obtain ⟨rfl, -⟩ := List.cons.inj htokens
      rwa [← hname]

theorem asks_spares {s : Session ω} {tokens : List Token} {asked : Ending ω String}
    (hasks : s.asks? tokens = some asked) : Adds s.SparesRegistered s asked.2 := by
  have hfree : s.registry.contains Keyword.run.name = false := by
    unfold asks? at hasks
    split at hasks
    · split at hasks
      · next hrun => rw [← hrun.1, hrun.2]
      · cases hasks
    · cases hasks
  obtain ⟨head, file, more, -, -, rfl⟩ := eq_of_asks hasks
  refine Adds.trans (Adds.trans (Adds.note ?_) (noteSurplus_adds _ _ _ _ ?_))
    (readScript_adds _ ?_ _ _ ?_)
  · rintro command h
    obtain rfl := Event.performed.inj h
    exact hfree
  · exact fun _ _ h => by cases h
  · exact fun _ _ h => by cases h
  · exact fun _ h => by cases h

/-! ## What is given to an operation -/

/-- A statement in the hands of an operation: it is called with the texts of the further tokens,
and what it gives is dropped. -/
def give (s : Session ω) (operation : Operation) (name : String) (texts : List String) :
    Ending ω Outcome :=
  let report := operation.call name s.heap (texts.map .text)
  let s := { (s.note (.dispatched name)).noteAll (report.applications.map .applied) with
    heap := report.heap }
  match report.result with
  | .ok _ => (.ok .executed, s)
  | .error cause => (.error (.invocation name cause), s)

/-- What a statement in the hands of an operation comes to. -/
inductive GivenTo (s : Session ω) (operation : Operation) (name : String) (texts : List String) :
    Ending ω Outcome → Prop
  | applied {value : Option Value}
      (hcount : operation.arity.accepts texts.length = true)
      (happly : operation.apply s.heap (texts.map .text) = .ok value) :
      GivenTo s operation name texts (.ok .executed, { s with
        heap := operation.effect s.heap (texts.map .text)
        journal := .applied ⟨name, operation.origin, operation.arity, texts.map .text⟩ ::
          .dispatched name :: s.journal })
  | failed {reason : String}
      (hcount : operation.arity.accepts texts.length = true)
      (happly : operation.apply s.heap (texts.map .text) = .error reason) :
      GivenTo s operation name texts (.error (.invocation name (.failed reason)), { s with
        heap := operation.effect s.heap (texts.map .text)
        journal := .applied ⟨name, operation.origin, operation.arity, texts.map .text⟩ ::
          .dispatched name :: s.journal })
  /-- It does not take so many arguments, and is not applied. -/
  | refused (hcount : operation.arity.accepts texts.length = false) :
      GivenTo s operation name texts
        (.error (.invocation name (.wrongCount operation.arity texts.length)),
          s.note (.dispatched name))

theorem give_givenTo (s : Session ω) (operation : Operation) (name : String)
    (texts : List String) : s.GivenTo operation name texts (s.give operation name texts) := by
  unfold give Operation.call
  rw [List.length_map]
  cases hcount : operation.arity.accepts texts.length with
  | false => exact .refused hcount
  | true =>
    cases happly : operation.apply s.heap (texts.map .text) with
    | ok value => exact .applied hcount happly
    | error reason => exact .failed hcount happly

theorem executeWith_give (nested : String → Session ω → Ending ω Unit) {s : Session ω}
    {head : Token} {operation : Operation} (h : s.registry.lookup head.text = some operation)
    (rest : List Token) :
    executeWith nested (head :: rest) s = s.give operation head.text (rest.map (·.text)) := by
  have hfree : s.registry.contains head.text = true := by
    rw [Registry.contains_eq_isSome, h]
    rfl
  have hcall : (s.note (.dispatched head.text)).registry.call (s.note (.dispatched head.text)).heap
      head.text ((rest.map (·.text)).map .text) =
        operation.call head.text s.heap ((rest.map (·.text)).map .text) := by
    have hlookup : (s.note (.dispatched head.text)).registry.lookup head.text = some operation := h
    unfold Registry.call
    rw [hlookup]
    rfl
  rw [executeWith]
  simp only [hfree, if_true, call, hcall, give]
  cases (operation.call head.text s.heap ((rest.map (·.text)).map .text)).result <;> rfl

theorem asks?_of_contains {s : Session ω} {head : Token} (rest : List Token)
    (h : s.registry.contains head.text = true) : s.asks? (head :: rest) = none := by
  cases rest with
  | nil => rfl
  | cons file more => simp [asks?, h]

end Session

/-! ## Moves -/

def Move.registrations : Move ω → List (String × Operation)
  | statement found tokens => found.imports tokens
  | registration name operation => [(name, operation)]
  | other => []

namespace Machine

open Session

variable {m n : Machine ω} {moves : List (Move ω)}

theorem found_registry {found : Session ω} {tokens : List Token}
    (h : Moves m (.statement found tokens) n) : found.registry = m.session.registry := by
  rcases found_of_moves h with rfl | rfl
  · rfl
  · rfl

theorem registry_of_moves {move : Move ω} (h : Moves m move n) :
    n.session.registry = m.session.registry.registerAll move.registrations := by
  cases changes_of_moves h with
  | nothing hsession => rw [hsession]; rfl
  | back hsession => rw [hsession]; rfl
  | registration hsession => rw [hsession]; rfl
  | statement k tokens _ =>
    rw [← found_registry h]
    rcases dispatch_session k tokens with ⟨hasks, hsession⟩ | ⟨asked, hasks, hsession⟩
    · rw [hsession]
      exact executeWith_registry _ hasks
    · have hregistry := asks_registry hasks
      have hnothing : (Move.statement k.session tokens).registrations = [] :=
        imports_of_asks hasks
      rw [hnothing]
      rcases hsession with hsession | hsession
      · rw [hsession]
        exact hregistry
      · rw [hsession]
        exact hregistry

/-- The registry at any time is that of the beginning with what was registered since. -/
theorem registry_of_leads (h : Leads m moves n) :
    n.session.registry = m.session.registry.registerAll (moves.flatMap Move.registrations) := by
  induction h with
  | nil => rfl
  | snoc _ hmove ih =>
    rw [registry_of_moves hmove, ih, List.flatMap_append, Registry.registerAll_append]
    simp

/-- From a state on, names stay registered and no built-in command of theirs is performed. -/
structure Shadowed (s t : Session ω) : Prop where
  contains : ∀ name, s.registry.contains name = true → t.registry.contains name = true
  events : Adds s.SparesRegistered s t

theorem Shadowed.trans {s t u : Session ω} (hst : Shadowed s t) (htu : Shadowed t u) :
    Shadowed s u := by
  refine ⟨fun name hname => htu.contains name (hst.contains name hname), hst.events.trans ?_⟩
  refine htu.events.mono fun event hevent command hcommand => ?_
  cases hname : s.registry.contains command.name with
  | false => rfl
  | true =>
    have hlater := hst.contains command.name hname
    rw [hevent command hcommand] at hlater
    cases hlater

/-- A step that registers some operations at most and performs nothing. -/
theorem Shadowed.of_note {s t : Session ω} (event : Event)
    (hregistry : ∃ entries, t.registry = s.registry.registerAll entries)
    (hjournal : t.journal = event :: s.journal) (hevent : ∀ command, event ≠ .performed command) :
    Shadowed s t := by
  obtain ⟨entries, hregistry⟩ := hregistry
  refine ⟨fun name hname => ?_, [event], hjournal, fun e he command h => ?_⟩
  · rw [hregistry]
    exact s.registry.contains_registerAll entries hname
  · rw [List.mem_singleton.mp he] at h
    exact absurd h (hevent command)

theorem shadowed_of_moves : KeptByMoves (ω := ω) (fun _ => True) Shadowed where
  refl s := ⟨fun _ h => h, .of_journal_eq rfl⟩
  trans := Shadowed.trans
  scanned s tokens := .of_note (.scanned tokens) ⟨[], rfl⟩ rfl (by simp)
  statement s tokens _ hasks := by
    refine ⟨fun name hname => ?_, executeWith_spares _ hasks⟩
    rw [executeWith_registry _ hasks]
    exact s.registry.contains_registerAll _ hname
  asks s tokens asked _ hasks :=
    ⟨fun name hname => by rwa [asks_registry hasks], asks_spares hasks⟩
  enter s := .of_note (.entered (s.depth + 1)) ⟨[], rfl⟩ rfl (by simp)
  leave s := ⟨fun _ h => h, .of_journal_eq rfl⟩
  registration s name operation _ :=
    .of_note (.registered name operation.arity (s.registry.contains name))
      ⟨[(name, operation)], rfl⟩ rfl (by simp)

/-! ## Registered names -/

/-- The operation that was registered last under the name, these moves having been made. -/
def lastRegistered (m : Machine ω) (moves : List (Move ω)) (name : String) : Option Operation :=
  ((moves.flatMap Move.registrations).reverse.lookup name).or (m.session.registry.lookup name)

/-- What has become of the names that were registered in `m`, `moves` having led from there
to `n`. -/
structure KeepsNames (m : Machine ω) (moves : List (Move ω)) (n : Machine ω) : Prop where
  /-- They are registered, ... -/
  permanent : ∀ name, m.session.registry.contains name = true →
    n.session.registry.contains name = true
  /-- ... with the operation that was registered last. -/
  last : ∀ name, n.session.registry.lookup name = lastRegistered m moves name
  /-- A statement that begins with one of them, of a program or of a nested script, is given to
  that operation, with the texts of the further tokens, and nothing else is done. -/
  given : ∀ o found head rest, Moves n (.statement found (head :: rest)) o →
    m.session.registry.contains head.text = true →
    ∃ operation, lastRegistered m moves head.text = some operation ∧
      found.GivenTo operation head.text (rest.map (·.text))
        (found.give operation head.text (rest.map (·.text))) ∧
      o.result = (found.give operation head.text (rest.map (·.text))).1.map (fun _ => ()) ∧
      o.session = (found.give operation head.text (rest.map (·.text))).2
  /-- No built-in command of these names has been performed on the way. -/
  spared : Adds m.session.SparesRegistered m.session n.session

/-- A statement that begins with a registered name is given to the operation under it. -/
theorem given_of_moves {found : Session ω} {head : Token} {rest : List Token}
    {operation : Operation} (h : Moves m (.statement found (head :: rest)) n)
    (hname : m.session.registry.lookup head.text = some operation) :
    n.result = (found.give operation head.text (rest.map (·.text))).1.map (fun _ => ()) ∧
      n.session = (found.give operation head.text (rest.map (·.text))).2 := by
  rw [← found_registry h] at hname
  have hasks : found.asks? (head :: rest) = none := by
    refine asks?_of_contains rest ?_
    rw [Registry.contains_eq_isSome, hname]
    rfl
  have hdone := done_of_moves h hasks
  rwa [executeWith_give _ hname] at hdone

/-- **Registered names are permanent and shadow built-in commands.**  Whatever an interpreter does
in whatever order, a name that is registered stays registered, the operation found under it is the
one registered last, and all statements that begin with it are given to that operation and never
performed by the built-in command of the same name. -/
theorem registered_name_is_permanent (h : Leads m moves n) : KeepsNames m moves n := by
  have hshadowed := shadowed_of_moves.leads (fun _ _ => trivial) h
  have hlast (name : String) : n.session.registry.lookup name = lastRegistered m moves name := by
    rw [registry_of_leads h]
    exact m.session.registry.lookup_registerAll _ name
  refine ⟨hshadowed.contains, hlast, fun o found head rest hmove hname => ?_, hshadowed.events⟩
  have hkept := hshadowed.contains head.text hname
  rw [Registry.contains_eq_isSome] at hkept
  obtain ⟨operation, hoperation⟩ := Option.isSome_iff_exists.mp hkept
  exact ⟨operation, (hlast head.text).symm.trans hoperation, found.give_givenTo _ _ _,
    given_of_moves hmove hoperation⟩

/-- CLEAR is registered twice and then run. -/
theorem registered_name_is_permanent_of_clear :
    let gives (text : String) : Operation :=
      { arity := .any, origin := .embedder, apply := fun _ _ => .ok (some (.text text)) }
    let m := atRest ((start Host.ofTable ⟨[], []⟩).register "CLEAR" (gives "first"))
    let s := m.session.register "CLEAR" (gives "second")
    let tokens : List Token := [⟨.keyword, "CLEAR"⟩]
    let moves := [.registration "CLEAR" (gives "second"), .statement s tokens]
    Leads m moves (ofTokens tokens s) ∧ m.session.registry.contains "CLEAR" = true ∧
      KeepsNames m moves (ofTokens tokens s) ∧
      (ofTokens tokens s).session = (s.give (gives "second") "CLEAR" []).2 ∧
      (ofTokens tokens s).session.journal =
        .applied ⟨"CLEAR", .embedder, .any, []⟩ :: .dispatched "CLEAR" :: s.journal := by
  intro gives m s tokens moves
  have hregister : Moves m (.registration "CLEAR" (gives "second")) (atRest s) :=
    .register m "CLEAR" (gives "second") rfl
  have hexecute : Moves (atRest s) (.statement s tokens) (ofTokens tokens s) :=
    .execute (atRest s) tokens rfl
  have hleads : Leads m moves (ofTokens tokens s) := .snoc (.single hregister) hexecute
  have hfirst : m.session.registry.contains "CLEAR" = true := by
    simp [m, atRest, Session.register, Registry.register]
  have hsecond : (atRest s).session.registry.lookup "CLEAR" = some (gives "second") := by
    show (m.session.registry.register "CLEAR" (gives "second")).lookup "CLEAR" = _
    rw [Registry.lookup_register, if_pos rfl]
  have hgive := (given_of_moves hexecute hsecond).2
  refine ⟨hleads, hfirst, registered_name_is_permanent hleads, hgive, ?_⟩
  obtain ⟨operation, hlast, hgiven, -, hsession⟩ :=
    (registered_name_is_permanent (.single hregister)).given _ s ⟨.keyword, "CLEAR"⟩ [] hexecute hfirst
  obtain rfl : gives "second" = operation := Option.some.inj hlast
  rw [hsession]
  generalize s.give _ _ _ = ending at hgiven ⊢
  cases hgiven with
  | applied hcount happly => rfl
  | failed hcount happly => cases happly
  | refused hcount => cases hcount

end Machine

end LineScript
