import LineScript.Proofs.RunInduction

/-!
Two runs side by side.

A comparison says when two heaps count as alike, which words programs may use and which values
they may come upon, and which events both runs must have in common.  Its laws are about heaps
alone.  From them it follows that two runs of an admitted program which begin in matching states
end in the same way in matching states (`agrees_runLinesWith`, `agrees_nestedRun`).

The two runs may differ in how deep they are nested.  Then the first of them may be cut short at
the limit where the second one goes on; nothing more is said about such a run.
-/

namespace LineScript

/-- How two runs are compared. -/
structure Comparison where
  /-- The store that both runs read and write. -/
  own : StoreId
  alike : Heap → Heap → Prop
  /-- The words that programs may use. -/
  word : String → Prop
  /-- The values that programs may come upon. -/
  value : Value → Prop
  /-- The events that both runs must have in common. -/
  counts : Event → Bool
  /-- May the first run be cut short at the limit of nesting? -/
  mayStop : Prop
  text_value : ∀ text, value (.text text)
  number_value : ∀ x, value (.number x)
  get?_eq : ∀ {h k : Heap} {name : String}, alike h k → word name →
    k.get? own name = h.get? own name
  get?_value : ∀ {h k : Heap} {name : String} {v : Value}, alike h k → word name →
    h.get? own name = some v → value v
  display_eq : ∀ {h k : Heap} {v : Value}, alike h k → value v → k.display v = h.display v
  alike_set : ∀ {h k : Heap} {name : String} {v : Value}, alike h k → word name → value v →
    alike (h.set own name v) (k.set own name v)
  alike_clear : ∀ {h k : Heap}, alike h k → alike (h.clear own) (k.clear own)
  /-- Entering a script at two depths is not the same event. -/
  entered_uncounted : mayStop → ∀ depth, counts (.entered depth) = false

namespace Comparison

variable (C : Comparison)

/-! ## What is admitted -/

/-- The operation cannot tell two heaps apart that are alike, leaves them alike, and gives admitted
values. -/
def AdmitsOperation (operation : Operation) : Prop :=
  ∀ (h k : Heap) (arguments : List Value), C.alike h k → (∀ v ∈ arguments, C.value v) →
    operation.apply k arguments = operation.apply h arguments ∧
    C.alike (operation.effect h arguments) (operation.effect k arguments) ∧
    ∀ v, operation.apply h arguments = .ok (some v) → C.value v

/-- The tokens are admitted words; a statement that puts the store itself into a variable needs
that to be an admitted value. -/
def AdmitsTokens (tokens : List Token) : Prop :=
  (∀ token ∈ tokens, C.word token.text) ∧
  (C.value (.mapping C.own) ∨ ∀ head rest, tokens = head :: rest → head.text ≠ Keyword.memory.name)

/-! ## Matching states -/

variable {ω α β : Type}

/-- Two states from which the same statements do the same. -/
structure Matched (s t : Session ω) : Prop where
  heap : C.alike s.heap t.heap
  own_left : s.own = C.own
  own_right : t.own = C.own
  registry : t.registry = s.registry
  catalog : t.catalog = s.catalog
  console : t.console = s.console
  host : t.host = s.host
  world : t.world = s.world
  chance : t.chance = s.chance
  promptSuffix : t.config.promptSuffix = s.config.promptSuffix
  limit : C.mayStop ∨ (t.config.maxRunDepth = s.config.maxRunDepth ∧ t.depth = s.depth)
  journal : t.journal.filter C.counts = s.journal.filter C.counts
  operations : ∀ name operation, s.registry.lookup name = some operation →
    C.AdmitsOperation operation
  units : ∀ name unit, s.catalog.lookup name = some unit →
    ∀ entry ∈ unit.operations, C.AdmitsOperation entry.2
  scripts : s.ScriptsAllowed C.AdmitsTokens

/-- Two calls that did the same. -/
structure MatchedReports (a b : CallReport) : Prop where
  applications : b.applications = a.applications
  result : b.result = a.result
  heap : C.alike a.heap b.heap
  value : ∀ v, a.result = .ok (some v) → C.value v

/-- Two runs that ended in the same way, unless the first one was cut short. -/
def Agrees (a b : Ending ω α) : Prop :=
  (C.mayStop ∧ ∃ limit, a.1 = .error (.nestingTooDeep limit)) ∨
  (a.1 = b.1 ∧ C.Matched a.2 b.2)

variable {C}

theorem Agrees.of_matched {s t : Session ω} (h : C.Matched s t) (result : Except Fault α) :
    C.Agrees (result, s) (result, t) :=
  .inr ⟨rfl, h⟩

theorem Agrees.andThen {a b : Ending ω α} {next next' : α → Session ω → Ending ω β}
    (h : C.Agrees a b)
    (hn : ∀ value, a.1 = .ok value → ∀ s t, C.Matched s t →
      C.Agrees (next value s) (next' value t)) :
    C.Agrees (a.andThen next) (b.andThen next') := by
  obtain ⟨result, s⟩ := a
  obtain ⟨result', t⟩ := b
  rcases h with ⟨hstop, limit, hlimit⟩ | ⟨hresult, hst⟩
  · obtain rfl : result = .error (.nestingTooDeep limit) := hlimit
    exact .inl ⟨hstop, limit, rfl⟩
  · obtain rfl : result = result' := hresult
    cases result with
    | error fault => exact .of_matched hst _
    | ok value => exact hn value rfl s t hst

/-! ## Values -/

theorem resolve_eq {h k : Heap} {text : String} (hk : C.alike h k) (hword : C.word text) :
    k.resolve C.own text = h.resolve C.own text := by
  unfold Heap.resolve Heap.lookup
  rw [C.get?_eq hk hword]

theorem lookup_value {h k : Heap} {name : String} (hk : C.alike h k) (hword : C.word name) :
    C.value (h.lookup C.own name) := by
  unfold Heap.lookup
  cases hget : h.get? C.own name with
  | none => exact C.number_value 0.0
  | some v => exact C.get?_value hk hword hget

theorem resolve_value {h k : Heap} {text : String} (hk : C.alike h k) (hword : C.word text) :
    C.value (h.resolve C.own text) := by
  unfold Heap.resolve
  split
  · exact C.text_value _
  · split
    · exact C.number_value _
    · exact lookup_value hk hword

theorem display_resolve_eq {h k : Heap} {text : String} (hk : C.alike h k) (hword : C.word text) :
    k.display (k.resolve C.own text) = h.display (h.resolve C.own text) := by
  rw [resolve_eq hk hword, C.display_eq hk (resolve_value hk hword)]

theorem evaluate_eq {h k : Heap} (hk : C.alike h k) (expression : Expression)
    (hwords : ∀ w ∈ expression.words, C.word w) :
    expression.evaluate k C.own = expression.evaluate h C.own := by
  cases expression with
  | operand token =>
    have htoken : C.word token := by simpa [Expression.words] using hwords
    simp only [Expression.evaluate, resolve_eq hk htoken]
  | binary f left right =>
    obtain ⟨hleft, hright⟩ : C.word left ∧ C.word right := by
      simpa [Expression.words] using hwords
    simp only [Expression.evaluate, resolve_eq hk hleft, resolve_eq hk hright]
  | unary f token =>
    have htoken : C.word token := by simpa [Expression.words] using hwords
    simp only [Expression.evaluate, resolve_eq hk htoken]
  | join left right =>
    obtain ⟨hleft, hright⟩ : C.word left ∧ C.word right := by
      simpa [Expression.words] using hwords
    simp only [Expression.evaluate, display_resolve_eq hk hleft, display_resolve_eq hk hright]
  | textOf name =>
    have hname : C.word name := by simpa [Expression.words] using hwords
    simp only [Expression.evaluate, C.get?_eq hk hname]
    cases hget : h.get? C.own name with
    | none => rfl
    | some v => simp only [C.display_eq hk (C.get?_value hk hname hget)]
  | numberOf name =>
    have hname : C.word name := by simpa [Expression.words] using hwords
    simp only [Expression.evaluate, Heap.lookup, C.get?_eq hk hname]
  | ownStore => rfl

theorem evaluate_value {h k : Heap} (hk : C.alike h k) (expression : Expression)
    (hwords : ∀ w ∈ expression.words, C.word w)
    (hstore : expression = .ownStore → C.value (.mapping C.own)) (v : Value)
    (hv : expression.evaluate h C.own = .ok v) : C.value v := by
  cases expression with
  | operand token =>
    obtain rfl := Except.ok.inj hv
    exact resolve_value hk (by simpa [Expression.words] using hwords)
  | ownStore =>
    obtain rfl := Except.ok.inj hv
    exact hstore rfl
  | join left right =>
    obtain rfl := Except.ok.inj hv
    exact C.text_value _
  | textOf name =>
    obtain rfl := Except.ok.inj hv
    exact C.text_value _
  | binary | unary | numberOf =>
    -- what arithmetic and conversion give is a number
    simp only [Expression.evaluate, bind, Except.bind] at hv
    repeat' split at hv
    all_goals cases hv
    exact C.number_value _

/-! ## Steps -/

theorem Matched.note {s t : Session ω} (hs : C.Matched s t) (event : Event) :
    C.Matched (s.note event) (t.note event) :=
  { hs with journal := by simp [Session.note, List.filter_cons, hs.journal] }

/-- An event that does not count need not happen in both runs. -/
theorem Matched.note_left {s t : Session ω} (hs : C.Matched s t) {event : Event}
    (hevent : C.counts event = false) : C.Matched (s.note event) t :=
  { hs with journal := by simp [Session.note, hevent, hs.journal] }

theorem Matched.noteAll {s t : Session ω} (hs : C.Matched s t) (events : List Event) :
    C.Matched (s.noteAll events) (t.noteAll events) :=
  { hs with journal := by simp [Session.noteAll, List.filter_append, hs.journal] }

theorem Matched.noteAll_left {s t : Session ω} (hs : C.Matched s t) {events : List Event}
    (hevents : ∀ event ∈ events, C.counts event = false) : C.Matched (s.noteAll events) t := by
  have hnone : events.filter C.counts = [] := by
    simpa [List.filter_eq_nil_iff] using hevents
  exact { hs with
    journal := by simp [Session.noteAll, List.filter_append, hnone, hs.journal] }

theorem Matched.noteSurplus {s t : Session ω} (hs : C.Matched s t) (command : Keyword)
    (given : List String) :
    C.Matched (s.noteSurplus command given) (t.noteSurplus command given) := by
  unfold Session.noteSurplus
  dsimp only
  split
  · exact hs
  · exact hs.note _

theorem Matched.resolve_eq {s t : Session ω} (hs : C.Matched s t) {text : String}
    (hword : C.word text) : t.resolve text = s.resolve text := by
  unfold Session.resolve
  rw [hs.own_left, hs.own_right]
  exact Comparison.resolve_eq hs.heap hword

theorem Matched.resolve_value {s t : Session ω} (hs : C.Matched s t) {text : String}
    (hword : C.word text) : C.value (s.resolve text) := by
  unfold Session.resolve
  rw [hs.own_left]
  exact Comparison.resolve_value hs.heap hword

theorem Matched.bind {s t : Session ω} (hs : C.Matched s t) {name : String} {v : Value}
    (hname : C.word name) (hv : C.value v) : C.Matched (s.bind name v) (t.bind name v) :=
  { hs with
    heap := by
      unfold Session.bind
      rw [hs.own_left, hs.own_right]
      exact C.alike_set hs.heap hname hv }

theorem Matched.clearVariables {s t : Session ω} (hs : C.Matched s t) :
    C.Matched s.clearVariables t.clearVariables :=
  { hs with
    heap := by
      unfold Session.clearVariables
      rw [hs.own_left, hs.own_right]
      exact C.alike_clear hs.heap }

theorem Matched.withConsole {s t : Session ω} (hs : C.Matched s t) (console : Console) :
    C.Matched { s with console := console } { t with console := console } :=
  { hs with console := rfl }

theorem Matched.withChance {s t : Session ω} (hs : C.Matched s t) (chance : Chance) :
    C.Matched { s with chance := chance } { t with chance := chance } :=
  { hs with chance := rfl }

theorem agrees_write {s t : Session ω} (hs : C.Matched s t) (text : String) :
    C.Agrees (s.write text) (t.write text) := by
  unfold Session.write
  rw [hs.console]
  split
  · exact .of_matched (hs.withConsole _) _
  · exact .of_matched hs _

theorem agrees_flush {s t : Session ω} (hs : C.Matched s t) : C.Agrees s.flush t.flush := by
  unfold Session.flush
  rw [hs.console]
  split
  · exact .of_matched (hs.withConsole _) _
  · exact .of_matched hs _

theorem agrees_readLine {s t : Session ω} (hs : C.Matched s t) :
    C.Agrees s.readLine t.readLine := by
  unfold Session.readLine
  rw [hs.console]
  dsimp only
  split <;> exact .of_matched (hs.withConsole _) _

/-- The registry of both states answers a call in the same way. -/
theorem Matched.reports {s t : Session ω} (hs : C.Matched s t) (function : String)
    (arguments : List Value) (hargs : ∀ v ∈ arguments, C.value v) :
    C.MatchedReports (s.registry.call s.heap function arguments)
      (t.registry.call t.heap function arguments) := by
  rw [hs.registry]
  unfold Registry.call
  cases hfound : s.registry.lookup function with
  | none => exact ⟨rfl, rfl, hs.heap, fun v hv => by cases hv⟩
  | some operation =>
    obtain ⟨happly, heffect, hvalue⟩ :=
      hs.operations function operation hfound s.heap t.heap arguments hs.heap hargs
    dsimp only
    unfold Operation.call
    rw [happly]
    split
    · refine ⟨rfl, rfl, heffect, fun v hv => ?_⟩
      dsimp only at hv
      split at hv
      · next value hok =>
        obtain rfl := Except.ok.inj hv
        exact hvalue v hok
      · cases hv
    · exact ⟨rfl, rfl, hs.heap, fun v hv => by cases hv⟩

theorem Matched.withHeap {s t : Session ω} (hs : C.Matched s t) {h k : Heap} (hk : C.alike h k) :
    C.Matched { s with heap := h } { t with heap := k } :=
  { hs with heap := hk }

theorem agrees_call {s t : Session ω} (hs : C.Matched s t) (function : String)
    (arguments : List Value) (hargs : ∀ v ∈ arguments, C.value v) :
    C.Agrees (s.call function arguments) (t.call function arguments) := by
  have hreports := hs.reports function arguments hargs
  unfold Session.call
  dsimp only
  rw [hreports.applications, hreports.result]
  split <;> exact .of_matched ((hs.noteAll _).withHeap hreports.heap) _

theorem call_value {s t : Session ω} (hs : C.Matched s t) (function : String)
    (arguments : List Value) (hargs : ∀ v ∈ arguments, C.value v) (v : Value)
    (hv : (s.call function arguments).1 = .ok (some v)) : C.value v := by
  apply (hs.reports function arguments hargs).value v
  unfold Session.call at hv
  dsimp only at hv
  split at hv
  · next value hok => rw [hok, Except.ok.inj hv]
  · cases hv

theorem Matched.receive {s t : Session ω} (hs : C.Matched s t) (reply : Reply ω α)
    (hreach : s.host.Reaches s.world reply.world) :
    C.Matched (s.receive reply) (t.receive reply) :=
  { hs.noteAll (reply.notes.map .hostNote) with
    console := by simp only [Session.receive, hs.console]
    world := rfl
    scripts := fun world hworld => hs.scripts world (hreach.trans hworld) }

theorem agrees_readScript {s t : Session ω} (hs : C.Matched s t) (name : String) :
    C.Agrees (s.readScript name) (t.readScript name) := by
  have hreceive := (hs.note (.scriptRequested name)).receive
    (s.host.readScript name s.world) (.read name .start)
  unfold Session.readScript
  rw [hs.host, hs.world]
  dsimp only
  split <;> exact .of_matched hreceive _

/-- What the host serves in a matched state is admitted. -/
theorem Matched.textAllowed {s t : Session ω} (hs : C.Matched s t) {name text : String}
    (h : (s.readScript name).1 = .ok text) : TextAllowed C.AdmitsTokens text :=
  hs.scripts s.world .start name text ((Session.readScript_eq_ok s name text).mp h)

theorem agrees_issue {s t : Session ω} (hs : C.Matched s t) (command : String) :
    C.Agrees (s.issue command) (t.issue command) := by
  have hreceive := (hs.note (.commandIssued command)).receive
    (s.host.execute command s.world) (.execute command .start)
  unfold Session.issue
  rw [hs.host, hs.world]
  dsimp only
  split <;> exact .of_matched hreceive _

theorem Matched.register {s t : Session ω} (hs : C.Matched s t) (name : String)
    {operation : Operation} (h : C.AdmitsOperation operation) :
    C.Matched (s.register name operation) (t.register name operation) := by
  have hnote := hs.note (.registered name operation.arity (s.registry.contains name))
  unfold Session.register
  rw [hs.registry]
  refine { hnote with registry := rfl, operations := fun other found hfound => ?_ }
  rw [Registry.lookup_register] at hfound
  split at hfound
  · obtain rfl := Option.some.inj hfound
    exact h
  · exact hs.operations other found hfound

theorem Matched.registerUnit {s t : Session ω} (hs : C.Matched s t) (unit : ExtensionUnit)
    (h : ∀ entry ∈ unit.operations, C.AdmitsOperation entry.2) :
    C.Matched (s.registerUnit unit) (t.registerUnit unit) := by
  unfold Session.registerUnit
  revert h
  induction unit.operations generalizing s t with
  | nil => exact fun _ => hs
  | cons entry rest ih =>
    intro h
    exact ih (hs.register entry.1 (h entry List.mem_cons_self))
      fun e he => h e (List.mem_cons_of_mem _ he)

/-! ## Statements -/

theorem agrees_assign {s t : Session ω} (hs : C.Matched s t) (target : String)
    (expression : Expression) (htarget : C.word target)
    (hwords : ∀ w ∈ expression.words, C.word w)
    (hstore : expression = .ownStore → C.value (.mapping C.own)) :
    C.Agrees (s.assign target expression) (t.assign target expression) := by
  unfold Session.assign
  rw [hs.own_left, hs.own_right, evaluate_eq hs.heap expression hwords]
  split
  · next v hv =>
    exact .of_matched (hs.bind htarget (evaluate_value hs.heap expression hwords hstore v hv)) _
  · exact .of_matched hs _

theorem agrees_callInto {s t : Session ω} (hs : C.Matched s t) (function : String)
    (arguments : List String) (target : String) (htarget : C.word target)
    (hwords : ∀ w ∈ arguments, C.word w) :
    C.Agrees (s.callInto function arguments target) (t.callInto function arguments target) := by
  have hargs : arguments.map t.resolve = arguments.map s.resolve :=
    List.map_congr_left fun w hw => hs.resolve_eq (hwords w hw)
  have hvalues : ∀ v ∈ arguments.map s.resolve, C.value v := by
    intro v hv
    obtain ⟨w, hw, rfl⟩ := List.mem_map.mp hv
    exact hs.resolve_value (hwords w hw)
  unfold Session.callInto
  rw [hargs]
  refine (agrees_call hs function _ hvalues).andThen fun value hvalue s' t' hs' => ?_
  cases value with
  | some v => exact .of_matched (hs'.bind htarget (call_value hs function _ hvalues v hvalue)) _
  | none => exact .of_matched (hs'.note _) _

theorem agrees_drawInto {s t : Session ω} (hs : C.Matched s t) (low high target : String)
    (hlow : C.word low) (hhigh : C.word high) (htarget : C.word target) :
    C.Agrees (s.drawInto low high target) (t.drawInto low high target) := by
  unfold Session.drawInto
  rw [hs.resolve_eq hlow, hs.resolve_eq hhigh, hs.chance]
  split
  · exact .of_matched hs _
  · split
    · exact .of_matched (hs.bind htarget (C.number_value _)) _
    · exact .of_matched ((hs.withChance _).bind htarget (C.number_value _)) _

theorem agrees_print {s t : Session ω} (hs : C.Matched s t) (token : String)
    (htoken : C.word token) : C.Agrees (s.print token) (t.print token) := by
  unfold Session.print
  rw [hs.resolve_eq htoken, C.display_eq hs.heap (hs.resolve_value htoken)]
  exact agrees_write hs _

theorem agrees_ask {s t : Session ω} (hs : C.Matched s t) (prompt target : String)
    (htarget : C.word target) : C.Agrees (s.ask prompt target) (t.ask prompt target) := by
  unfold Session.ask
  rw [hs.promptSuffix]
  exact (agrees_write hs _).andThen fun _ _ _ _ h1 =>
    (agrees_flush h1).andThen fun _ _ _ _ h2 =>
      (agrees_readLine h2).andThen fun line _ _ _ h3 =>
        .of_matched (h3.bind htarget (C.text_value line)) _

theorem agrees_wait {s t : Session ω} (hs : C.Matched s t) (token : String)
    (htoken : C.word token) : C.Agrees (s.wait token) (t.wait token) := by
  unfold Session.wait
  rw [hs.resolve_eq htoken]
  split <;> exact .of_matched hs _

theorem agrees_importUnit {s t : Session ω} (hs : C.Matched s t) (token : String) :
    C.Agrees (s.importUnit token) (t.importUnit token) := by
  unfold Session.importUnit
  rw [hs.catalog]
  split
  · exact .of_matched hs _
  · next name _ =>
    split
    · exact .of_matched hs _
    · next unit hunit =>
      have hregistered := hs.registerUnit unit (hs.units name unit hunit)
      dsimp only
      split
      · exact .of_matched hregistered _
      · exact .of_matched (hregistered.note _) _

/-! ## Runs -/

variable (C) in
/-- Two ways of running nested scripts that agree on admitted ones. -/
def AgreesNested (nested nested' : String → Session ω → Ending ω Unit) : Prop :=
  ∀ text s t, TextAllowed C.AdmitsTokens text → C.Matched s t →
    C.Agrees (nested text s) (nested' text t)

variable {nested nested' : String → Session ω → Ending ω Unit}

theorem agrees_perform (hn : C.AgreesNested nested nested') {s t : Session ω}
    (hs : C.Matched s t) (statement : Statement) (hwords : ∀ w ∈ statement.words, C.word w)
    (hstore : ∀ target, statement = .assign target .ownStore → C.value (.mapping C.own)) :
    C.Agrees (Session.perform nested statement s) (Session.perform nested' statement t) := by
  cases statement with
  | assign target expression =>
    obtain ⟨htarget, hexpression⟩ := List.forall_mem_cons.mp hwords
    refine agrees_assign hs target expression htarget hexpression ?_
    rintro rfl
    exact hstore target rfl
  | call function arguments target =>
    obtain ⟨-, hrest⟩ := List.forall_mem_cons.mp hwords
    obtain ⟨htarget, harguments⟩ := List.forall_mem_cons.mp hrest
    exact agrees_callInto hs function arguments target htarget harguments
  | random low high target =>
    obtain ⟨hlow, hhigh, htarget⟩ : C.word low ∧ C.word high ∧ C.word target := by
      simpa [Statement.words] using hwords
    exact agrees_drawInto hs low high target hlow hhigh htarget
  | print token => exact agrees_print hs token (hwords token List.mem_cons_self)
  | input prompt target =>
    exact agrees_ask hs prompt target (hwords target (by simp [Statement.words]))
  | wait token => exact agrees_wait hs token (hwords token List.mem_cons_self)
  | clear => exact .of_matched hs.clearVariables _
  | run file =>
    refine (agrees_readScript hs _).andThen fun text htext s' t' hs' => ?_
    exact hn text s' t' (hs.textAllowed htext) hs'
  | execCommand command =>
    exact (agrees_issue hs _).andThen fun _ _ _ _ hs' => .of_matched (hs'.note _) _
  | importUnit token => exact agrees_importUnit hs token

theorem agrees_runBuiltIn (hn : C.AgreesNested nested nested') {s t : Session ω}
    (hs : C.Matched s t) (command : Keyword) (given : List String)
    (hwords : ∀ w ∈ given, C.word w)
    (hstore : command = .memory → C.value (.mapping C.own)) :
    C.Agrees (Session.runBuiltIn nested command given s)
      (Session.runBuiltIn nested' command given t) := by
  have hnoted := (hs.note (.performed command)).noteSurplus command given
  unfold Session.runBuiltIn
  dsimp only
  split
  · next statement hstatement =>
    refine agrees_perform hn hnoted statement
      (fun w hw => hwords w (Statement.words_subset hstatement hw)) fun target htarget => ?_
    rw [htarget] at hstatement
    exact hstore (List.mem_singleton.mp (Statement.mem_commands hstatement))
  · exact .of_matched hnoted _

theorem agrees_executeWith (hn : C.AgreesNested nested nested') {s t : Session ω}
    (hs : C.Matched s t) (tokens : List Token) (htokens : C.AdmitsTokens tokens) :
    C.Agrees (Session.executeWith nested tokens s) (Session.executeWith nested' tokens t) := by
  cases tokens with
  | nil => exact .of_matched hs _
  | cons head rest =>
    obtain ⟨hwords, hstore⟩ := htokens
    have hgiven : ∀ w ∈ rest.map (·.text), C.word w := by
      intro w hw
      obtain ⟨token, htoken, rfl⟩ := List.mem_map.mp hw
      exact hwords token (List.mem_cons_of_mem _ htoken)
    unfold Session.executeWith
    rw [hs.registry]
    dsimp only
    split
    · refine (agrees_call (hs.note _) head.text _ fun v hv => ?_).andThen
        fun _ _ _ _ hs' => .of_matched hs' _
      obtain ⟨w, -, rfl⟩ := List.mem_map.mp hv
      exact C.text_value w
    · split
      · next command hcommand =>
        refine (agrees_runBuiltIn hn hs command _ hgiven fun hmemory => ?_).andThen
          fun _ _ _ _ hs' => .of_matched hs' _
        refine hstore.resolve_right fun h => h head rest rfl ?_
        rw [← Keyword.ofName?_eq_some_iff.mp hcommand, hmemory]
      · exact .of_matched (hs.note _) _

theorem agrees_runLineWith (hn : C.AgreesNested nested nested') {s t : Session ω}
    (hs : C.Matched s t) (line : String) (hline : LineAllowed C.AdmitsTokens line) :
    C.Agrees (Session.runLineWith nested line s) (Session.runLineWith nested' line t) := by
  unfold Session.runLineWith
  split
  · exact .of_matched hs _
  · next tokens htokens => exact agrees_executeWith hn (hs.note _) tokens (hline tokens htokens)

theorem agrees_runLinesWith (hn : C.AgreesNested nested nested') (lines : List String)
    (hlines : ∀ line ∈ lines, LineAllowed C.AdmitsTokens line) {s t : Session ω}
    (hs : C.Matched s t) :
    C.Agrees (Session.runLinesWith nested lines s) (Session.runLinesWith nested' lines t) := by
  induction lines generalizing s t with
  | nil => exact .of_matched hs _
  | cons line rest ih =>
    obtain ⟨hline, hrest⟩ := List.forall_mem_cons.mp hlines
    unfold Session.runLinesWith
    split
    · exact ih hrest hs
    · exact (agrees_runLineWith hn hs line hline).andThen fun _ _ _ _ hs' => ih hrest hs'

theorem Matched.enter {s t : Session ω} (hs : C.Matched s t) : C.Matched s.enter t.enter := by
  rcases hs.limit with hstop | ⟨hlimit, hdepth⟩
  · have huncounted := C.entered_uncounted hstop
    exact { hs with
      limit := .inl hstop
      journal := by simp [Session.enter, Session.note, huncounted, hs.journal] }
  · have hnote := hs.note (.entered (s.depth + 1))
    unfold Session.enter
    rw [hdepth]
    exact { hnote with limit := .inr ⟨hlimit, rfl⟩ }

theorem Matched.leave {s t : Session ω} (hs : C.Matched s t) : C.Matched s.leave t.leave :=
  { hs with
    limit := hs.limit.imp_right fun h => ⟨h.1, by simp only [Session.leave, h.2]⟩ }

/-- If runs may be cut short, the first one may be nested deeper than the second. -/
theorem Matched.enter_left (hstop : C.mayStop) {s t : Session ω} (hs : C.Matched s t) :
    C.Matched s.enter t :=
  { hs.note_left (C.entered_uncounted hstop (s.depth + 1)) with limit := .inl hstop }

theorem Matched.leave_left (hstop : C.mayStop) {s t : Session ω} (hs : C.Matched s t) :
    C.Matched s.leave t :=
  { hs with limit := .inl hstop }

/-- Behind a nested script both states are one level up again. -/
theorem Agrees.leave {a b : Ending ω α} (h : C.Agrees a b) :
    C.Agrees (a.1, a.2.leave) (b.1, b.2.leave) :=
  h.imp_right fun h => ⟨h.1, h.2.leave⟩

/-- The second run has as many places of nesting as the first one, or more if that may stop. -/
theorem agrees_nestedRun {places places' : Nat} (hle : places ≤ places')
    (hplaces : C.mayStop ∨ places = places') :
    C.AgreesNested (ω := ω) (Session.nestedRun places) (Session.nestedRun places') := by
  induction places generalizing places' with
  | zero =>
    intro text s t _ hs
    rcases hs.limit with hstop | ⟨hlimit, -⟩
    · exact .inl ⟨hstop, _, rfl⟩
    · rcases hplaces with hstop | rfl
      · exact .inl ⟨hstop, _, rfl⟩
      · refine .inr ⟨?_, hs⟩
        simp only [Session.nestedRun, hlimit]
  | succ places ih =>
    obtain ⟨below, rfl⟩ := Nat.exists_eq_add_of_le' hle
    intro text s t htext hs
    have hn : C.AgreesNested (ω := ω) (Session.nestedRun places)
        (Session.nestedRun (below + places)) :=
      ih (by omega) (hplaces.imp_right fun h => by omega)
    exact (agrees_runLinesWith hn (Text.lines text) htext hs.enter).leave

/-! ## Equal heaps -/

/-- The comparison that admits every program and takes no two heaps for one another. -/
def exact (own : StoreId) (counts : Event → Bool) (mayStop : Prop)
    (h : mayStop → ∀ depth, counts (.entered depth) = false) : Comparison where
  own := own
  alike := Eq
  word _ := True
  value _ := True
  counts := counts
  mayStop := mayStop
  text_value _ := trivial
  number_value _ := trivial
  get?_eq := by rintro heap _ name rfl _; rfl
  get?_value _ _ _ := trivial
  display_eq := by rintro heap _ v rfl _; rfl
  alike_set := by rintro heap _ name v rfl _ _; rfl
  alike_clear := by rintro heap _ rfl; rfl
  entered_uncounted := h

variable {own : StoreId} {counts : Event → Bool} {mayStop : Prop}
  {h : mayStop → ∀ depth, counts (.entered depth) = false}

theorem exact_admitsOperation (operation : Operation) :
    (exact own counts mayStop h).AdmitsOperation operation := by
  rintro heap _ arguments rfl _
  exact ⟨rfl, rfl, fun _ _ => trivial⟩

theorem exact_lineAllowed (line : String) :
    LineAllowed (exact own counts mayStop h).AdmitsTokens line :=
  fun _ _ => ⟨fun _ _ => trivial, .inl trivial⟩

theorem exact_matched (s : Session ω) : (exact s.own counts mayStop h).Matched s s where
  heap := rfl
  own_left := rfl
  own_right := rfl
  registry := rfl
  catalog := rfl
  console := rfl
  host := rfl
  world := rfl
  chance := rfl
  promptSuffix := rfl
  limit := .inr ⟨rfl, rfl⟩
  journal := rfl
  operations _ operation _ := exact_admitsOperation operation
  units _ _ _ entry _ := exact_admitsOperation entry.2
  scripts _ _ _ _ _ line _ := exact_lineAllowed line

/-- What runs lead to from one state differs in the journals alone, if it matches over equal
heaps. -/
theorem exact_state_eq {s t u : Session ω} (hs : u.Later s) (ht : u.Later t)
    (hst : (exact own counts mayStop h).Matched s t) : t = { s with journal := t.journal } := by
  ext1
  · exact hst.heap.symm
  · exact hst.own_right.trans hst.own_left.symm
  · exact hst.registry
  · exact hst.catalog
  · exact hst.console
  · exact hst.host
  · exact hst.world
  · exact ht.config.trans hs.config.symm
  · exact ht.depth.trans hs.depth.symm
  · exact hst.chance
  · rfl

/-! ## Events that do not matter -/

/-- The comparison of two runs, equally deep and under one limit, that takes no notice of these
events. -/
def ignoring (own : StoreId) (ignored : Event → Bool) : Comparison :=
  exact own (fun event => !ignored event) False False.elim

end Comparison

namespace Session

variable {ω α : Type}

/-- Two states that differ in their journals alone, and there in ignored events alone: all other
events, the questions to the host among them, are the same in the same order. -/
structure SameBut (ignored : Event → Bool) (s t : Session ω) : Prop where
  state : t = { s with journal := t.journal }
  journal : t.journal.filter (fun event => !ignored event) =
    s.journal.filter fun event => !ignored event

variable {ignored : Event → Bool}

theorem SameBut.symm {s t : Session ω} (h : s.SameBut ignored t) : t.SameBut ignored s where
  state := by rw [h.state]
  journal := h.journal.symm

theorem SameBut.trans {s t u : Session ω} (hst : s.SameBut ignored t)
    (htu : t.SameBut ignored u) : s.SameBut ignored u where
  state := by rw [htu.state, hst.state]
  journal := htu.journal.trans hst.journal

/-- Runs that agree but for ignored events end alike, in states that differ in these alone. -/
theorem sameBut_of_agrees {u : Session ω} {a b : Ending ω α} (ha : u.Later a.2) (hb : u.Later b.2)
    (h : (Comparison.ignoring u.own ignored).Agrees a b) : b.1 = a.1 ∧ a.2.SameBut ignored b.2 := by
  rcases h with ⟨hstop, -⟩ | ⟨hresult, hafter⟩
  · exact hstop.elim
  · exact ⟨hresult.symm, Comparison.exact_state_eq ha hb hafter, hafter.journal⟩

end Session

end LineScript
