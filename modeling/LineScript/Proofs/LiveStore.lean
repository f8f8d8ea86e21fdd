import LineScript.Proofs.Bundled
import LineScript.Proofs.NumberText
import LineScript.Proofs.Shadowing
import LineScript.Proofs.StoreText

/-!
The store as a value.

MEMORY binds a variable to a handle of the interpreter's own store, and no statement can come by
another handle: values are copied as they are, and the operations that come with the library give no
store (`OnlyOwnStore`, `onlyOwnStore_of_moves`).  So whenever a variable that holds a store is
written, the text is that of all variables as they are then, however long ago the handle was taken
(`mappings_are_the_live_store`).

In that text the store itself is met again and cut short as `{...}` (`render_eq`).  No other value is
written like that (`entryText_eq_elided_iff`).
-/

namespace LineScript

variable {ω : Type}

/-! ## The text of a store that holds no other one -/

/-- The text of a value among the bindings of its store: texts stand in quotes, and a store is not
written out again. -/
def Value.entryText : Value → String
  | text chars => "'" ++ chars ++ "'"
  | number x => formatNumber x
  | mapping _ => "\x7b...\x7d"

theorem Value.entryText_eq_elided_iff (v : Value) :
    v.entryText = "\x7b...\x7d" ↔ ∃ store, v = mapping store := by
  cases v with
  | text chars =>
    have hquote : ("'" ++ chars ++ "'").toList.head? ≠ "\x7b...\x7d".toList.head? := by
      simp
    constructor
    · intro h
      exact absurd (congrArg (·.toList.head?) h) hquote
    · rintro ⟨store, h⟩
      cases h
  | number x =>
    constructor
    · intro h
      exact absurd h (formatNumber_ne_elided x)
    · rintro ⟨store, h⟩
      cases h
  | mapping store => exact ⟨fun _ => ⟨store, rfl⟩, fun _ => rfl⟩

def entriesText (entries : List (String × Value)) : String :=
  "\x7b" ++ ", ".intercalate (entries.map fun entry => "'" ++ entry.1 ++ "': " ++ entry.2.entryText)
    ++ "\x7d"

namespace Heap

theorem render_eq {heap : Heap} {store : StoreId} (hplace : store < heap.stores.length)
    (hhandles : ∀ name inner, heap.get? store name = some (.mapping inner) → inner = store) :
    heap.render store = entriesText (heap.bindings store).toList := by
  rw [render, renderIn, dif_neg (by simp), dif_pos hplace]
  refine congrArg (fun texts => "\x7b" ++ ", ".intercalate texts ++ "\x7d")
    (List.map_congr_left ?_)
  rintro ⟨name, v⟩ hmem
  have hget : heap.get? store name = some v :=
    Std.ExtTreeMap.mem_toList_iff_getElem?_eq_some.mp hmem
  cases v with
  | text chars => rfl
  | number x => rfl
  | mapping inner =>
    obtain rfl := hhandles name inner hget
    dsimp only
    rw [heap.renderIn_of_mem List.mem_cons_self]
    rfl

/-- A token that stands for a store is the name of a variable that holds it. -/
theorem get?_of_resolve {heap : Heap} {own store : StoreId} {token : String}
    (h : heap.resolve own token = .mapping store) : heap.get? own token = some (.mapping store) := by
  unfold resolve lookup at h
  split at h
  · cases h
  · split at h
    · cases h
    · cases hget : heap.get? own token with
      | none =>
        rw [hget] at h
        cases h
      | some v =>
        rw [hget] at h
        exact congrArg some h

end Heap

/-- An expression whose value is a store is an operand, or the store itself. -/
theorem Expression.eq_of_evaluate_mapping {heap : Heap} {own store : StoreId}
    {expression : Expression} (h : expression.evaluate heap own = .ok (.mapping store)) :
    (∃ token, expression = operand token ∧ heap.resolve own token = .mapping store) ∨
      store = own := by
  cases expression with
  | operand token => exact .inl ⟨token, rfl, Except.ok.inj h⟩
  | ownStore => exact .inr (Value.mapping.inj (Except.ok.inj h)).symm
  | join left right => cases h
  | textOf name => cases h
  | binary f left right | unary f token | numberOf name =>
    simp only [evaluate, Except.bind, pure, Except.pure, bind] at h
    repeat' split at h
    all_goals cases h

/-! ## Only the own store -/

namespace Session

/-- The variables hold no store but their own, and no operation can bring in another one. -/
structure OnlyOwnStore (s : Session ω) : Prop where
  place : s.own < s.heap.stores.length
  handles : ∀ name store, s.heap.get? s.own name = some (.mapping store) → store = s.own
  catalog : s.catalog = .bundled
  registry : ∀ name operation, s.registry.lookup name = some operation →
    ∃ key unit, Catalog.bundled.lookup key = some unit ∧ (name, operation) ∈ unit.operations

/-- An interpreter that nothing has been done with: no variables, no operations, and the units that
come with the library. -/
structure IsFresh (s : Session ω) : Prop where
  store : (s.heap, s.own) = Heap.empty.allocate
  registry : s.registry = ∅
  catalog : s.catalog = .bundled

theorem IsFresh.onlyOwnStore {s : Session ω} (h : s.IsFresh) : s.OnlyOwnStore := by
  obtain ⟨hheap, hown⟩ := Prod.mk.inj h.store
  refine ⟨?_, ?_, h.catalog, ?_⟩
  · rw [hheap, hown]
    decide
  · intro name store hget
    rw [hheap, hown] at hget
    simp [Heap.get?, Heap.bindings, Heap.empty] at hget
  · intro name operation hname
    rw [h.registry] at hname
    simp [Registry.lookup] at hname

namespace OnlyOwnStore

variable {s t : Session ω}

theorem of_eq (h : s.OnlyOwnStore) (hheap : t.heap = s.heap) (hown : t.own = s.own)
    (hcatalog : t.catalog = s.catalog) (hregistry : t.registry = s.registry) :
    t.OnlyOwnStore := by
  obtain ⟨hplace, hhandles, hunits, hoperations⟩ := h
  exact ⟨by rwa [hheap, hown], by rwa [hheap, hown], by rwa [hcatalog], by rwa [hregistry]⟩

/-- Built-in commands keep their names. -/
theorem contains_eq_false (h : s.OnlyOwnStore) (command : Keyword) :
    s.registry.contains command.name = false := by
  rw [Registry.contains_eq_isSome]
  cases hname : s.registry.lookup command.name with
  | none => rfl
  | some operation =>
    obtain ⟨key, unit, hunit, hmem⟩ := h.registry command.name operation hname
    have hother := ofName?_of_bundled hunit _ hmem
    rw [Keyword.ofName?_name] at hother
    cases hother

theorem destination_eq (h : s.OnlyOwnStore) {head : Token} {command : Keyword}
    (hhead : head.text = command.name) (rest : List Token) :
    s.destination (head :: rest) = .builtIn command :=
  destination_of_name hhead (h.contains_eq_false command) rest

/-- A token that stands for a store stands for the own one. -/
theorem resolve_handle (h : s.OnlyOwnStore) {token : String} {store : StoreId}
    (hresolve : s.resolve token = .mapping store) : store = s.own :=
  h.handles token store (Heap.get?_of_resolve hresolve)

theorem leavesStores (h : s.OnlyOwnStore) : s.registry.LeavesStores := by
  intro name operation hname
  obtain ⟨key, unit, hunit, hmem⟩ := h.registry name operation hname
  exact Catalog.bundled_leavesStores key unit hunit _ hmem

/-- No operation gives a store. -/
theorem call_ne_mapping (h : s.OnlyOwnStore) (function : String) (arguments : List Value)
    (store : StoreId) :
    (s.registry.call s.heap function arguments).result ≠ .ok (some (.mapping store)) := by
  unfold Registry.call
  intro hresult
  split at hresult
  · next operation hname =>
    obtain ⟨key, unit, hunit, hmem⟩ := h.registry function operation hname
    have hgives := givesNoStore_of_bundled hunit _ hmem s.heap arguments (.mapping store)
    unfold Operation.call at hresult
    split at hresult
    · dsimp only at hresult
      split at hresult
      · next value happly =>
        obtain rfl := Except.ok.inj hresult
        exact hgives happly
      · cases hresult
    · cases hresult
  · cases hresult

/-- No statement computes another store than the own one. -/
theorem value?_handle (h : s.OnlyOwnStore) {statement : Statement} {store : StoreId}
    (hvalue : statement.value? s = some (.mapping store)) : store = s.own := by
  cases statement with
  | assign target expression =>
    have hevaluate : expression.evaluate s.heap s.own = .ok (.mapping store) := by
      rw [Statement.value?] at hvalue
      cases hresult : expression.evaluate s.heap s.own with
      | error fault =>
        rw [hresult] at hvalue
        cases hvalue
      | ok v =>
        rw [hresult] at hvalue
        exact congrArg Except.ok (Option.some.inj hvalue)
    rcases Expression.eq_of_evaluate_mapping hevaluate with ⟨token, -, hresolve⟩ | hown
    · exact h.resolve_handle hresolve
    · exact hown
  | call function arguments target =>
    rw [Statement.value?] at hvalue
    cases hresult : (s.registry.call s.heap function (arguments.map s.resolve)).result with
    | error cause =>
      rw [hresult] at hvalue
      cases hvalue
    | ok value =>
      rw [hresult] at hvalue
      obtain rfl : value = some (.mapping store) := hvalue
      exact absurd hresult (h.call_ne_mapping function _ store)
  | random low high target =>
    obtain ⟨bounds, -, hnumber⟩ := Option.map_eq_some_iff.mp hvalue
    cases hnumber
  | input prompt target =>
    obtain ⟨line, -, htext⟩ := Option.map_eq_some_iff.mp hvalue
    cases htext
  | print token | wait token | clear | run file | execCommand line | importUnit token =>
    cases hvalue

theorem variablesAfter_handles (h : s.OnlyOwnStore) (statement : Statement) (name : String)
    (store : StoreId)
    (hget : (statement.variablesAfter s).get? s.own name = some (.mapping store)) :
    store = s.own := by
  unfold Statement.variablesAfter at hget
  rw [Statement.callHeap_eq h.leavesStores] at hget
  split at hget
  · next target value htarget hvalue =>
    rw [Heap.get?_set] at hget
    split at hget
    · obtain rfl := Option.some.inj hget
      exact h.value?_handle hvalue
    · exact h.handles name store hget
  · split at hget
    · rw [Heap.get?_clear] at hget
      cases hget
    · exact h.handles name store hget

theorem executeWith (h : s.OnlyOwnStore) (nested : String → Session ω → Ending ω Unit)
    (hn : ∀ text (s : Session ω), s.Later (nested text s).2) {tokens : List Token}
    (hasks : s.asks? tokens = none) : (Session.executeWith nested tokens s).2.OnlyOwnStore := by
  have hlater := later_executeWith hn tokens s
  have hregistry := executeWith_registry nested hasks
  refine ⟨?_, ?_, hlater.catalog.trans h.catalog, ?_⟩
  · rw [hlater.own]
    rcases executeWith_variables nested hasks with hheap | ⟨_, statement, -, -, hheap⟩
    · rw [hheap, callHeap_eq h.leavesStores]
      exact h.place
    · rw [hheap, Statement.stores_variablesAfter h.leavesStores]
      exact h.place
  · rw [hlater.own]
    rcases executeWith_variables nested hasks with hheap | ⟨_, statement, -, -, hheap⟩
    · rw [hheap, callHeap_eq h.leavesStores]
      exact h.handles
    · rw [hheap]
      exact h.variablesAfter_handles statement
  · intro name operation hname
    rw [hregistry, Registry.lookup_registerAll, Option.or_eq_some_iff] at hname
    rcases hname with himported | ⟨-, hold⟩
    · have hmem : (name, operation) ∈ s.imports tokens := by
        obtain ⟨before, behind, hentries, -⟩ := List.lookup_eq_some_iff.mp himported
        rw [← List.mem_reverse, hentries]
        simp
      obtain ⟨key, unit, hunit, hentry⟩ := exists_unit_of_mem_imports hmem
      rw [h.catalog] at hunit
      exact ⟨key, unit, hunit, hentry⟩
    · exact h.registry name operation hold

theorem asks (h : s.OnlyOwnStore) {tokens : List Token} {asked : Ending ω String}
    (hasks : s.asks? tokens = some asked) : asked.2.OnlyOwnStore := by
  have hlater := later_asks s tokens asked hasks
  refine h.of_eq ?_ hlater.own hlater.catalog (asks_registry hasks)
  obtain ⟨head, file, more, -, -, rfl⟩ := eq_of_asks hasks
  rw [readScript_heap, noteSurplus_eq]
  rfl

end OnlyOwnStore

/-- **The own store.**  No move of a run lets another store in. -/
theorem onlyOwnStore_of_moves :
    Machine.KeptByMoves (ω := ω) Move.InRun fun s t => s.OnlyOwnStore → t.OnlyOwnStore where
  refl _ h := h
  trans hst htu h := htu (hst h)
  scanned _ _ h := h.of_eq rfl rfl rfl rfl
  statement _ _ _ hasks h := h.executeWith _ (fun _ u => .refl u) hasks
  asks _ _ _ _ hasks h := h.asks hasks
  enter _ h := h.of_eq rfl rfl rfl rfl
  leave _ h := h.of_eq rfl rfl rfl rfl
  registration _ _ _ hinside := hinside.elim

/-! ## What is shown of a store -/

/-- The text of a value, any store being written as the variables are now. -/
def shown (s : Session ω) : Value → String
  | .text chars => chars
  | .number x => formatNumber x
  | .mapping _ => s.heap.render s.own

/-- The variables hold no store but their own, which is written out once. -/
structure HoldsLiveStore (s : Session ω) : Prop where
  handles : ∀ name store, s.heap.get? s.own name = some (.mapping store) → store = s.own
  text : s.heap.render s.own = entriesText s.contents
  /-- Those and only those names are shown as `{...}` that hold a store. -/
  elided : ∀ name v, s.heap.get? s.own name = some v →
    (v.entryText = "\x7b...\x7d" ↔ ∃ store, v = .mapping store)

/-- What the statement comes to that finds the state `s`, when it shows values: `t` is the state
then, and `result` its result. -/
structure ShowsLiveStore (s : Session ω) (tokens : List Token) (result : Except Fault Unit)
    (t : Session ω) : Prop where
  print : ∀ head x more, tokens = head :: x :: more → head.text = Keyword.print.name →
    ∃ journal, (result, t) =
      ({ s with journal := journal } : Session ω).write (s.shown (s.resolve x.text) ++ "\n")
  join : ∀ head a b target more, tokens = head :: a :: b :: target :: more →
    head.text = Keyword.join.name → ∃ journal, (result, t) =
      (.ok (), ({ s with journal := journal } : Session ω).bind target.text
        (.text (s.shown (s.resolve a.text) ++ s.shown (s.resolve b.text))))
  /-- The text of a variable without a binding is empty. -/
  textOf : ∀ head source target more, tokens = head :: source :: target :: more →
    head.text = Keyword.textOf.name → ∃ journal, (result, t) =
      (.ok (), ({ s with journal := journal } : Session ω).bind target.text
        (.text (((s.heap.get? s.own source.text).map s.shown).getD "")))

namespace OnlyOwnStore

variable {s : Session ω}

theorem holdsLiveStore (h : s.OnlyOwnStore) : s.HoldsLiveStore where
  handles := h.handles
  text := Heap.render_eq h.place h.handles
  elided _ v _ := v.entryText_eq_elided_iff

/-- A value that is the own store, if it is any, is written as the variables are. -/
theorem display_eq_shown {v : Value} (hv : ∀ store, v = .mapping store → store = s.own) :
    s.heap.display v = s.shown v := by
  cases v with
  | mapping store =>
    obtain rfl := hv store rfl
    rfl
  | _ => rfl

theorem display_resolve (h : s.OnlyOwnStore) (token : String) :
    s.heap.display (s.resolve token) = s.shown (s.resolve token) :=
  display_eq_shown fun _ hresolve => h.resolve_handle hresolve

theorem showsLiveStore (h : s.OnlyOwnStore) {m n : Machine ω} {tokens : List Token}
    (hmove : Machine.Moves m (.statement s tokens) n) :
    s.ShowsLiveStore tokens n.result n.session where
  print := by
    rintro head x more rfl hhead
    have hstatement : Statement.ofOperands .print (x.text :: more.map (·.text)) =
        .ok (.print x.text) := rfl
    obtain ⟨journal, hperform⟩ :=
      Machine.performed_of_moves hmove (h.destination_eq hhead _) (by simp) hstatement
    refine ⟨journal, hperform.trans ?_⟩
    rw [← h.display_resolve]
    rfl
  join := by
    rintro head a b target more rfl hhead
    have hstatement : Statement.ofOperands .join (a.text :: b.text :: target.text :: more.map (·.text)) =
        .ok (.assign target.text (.join a.text b.text)) := rfl
    obtain ⟨journal, hperform⟩ :=
      Machine.performed_of_moves hmove (h.destination_eq hhead _) (by simp) hstatement
    refine ⟨journal, hperform.trans ?_⟩
    rw [← h.display_resolve, ← h.display_resolve]
    rfl
  textOf := by
    rintro head source target more rfl hhead
    have hstatement : Statement.ofOperands .textOf (source.text :: target.text :: more.map (·.text)) =
        .ok (.assign target.text (.textOf source.text)) := rfl
    obtain ⟨journal, hperform⟩ :=
      Machine.performed_of_moves hmove (h.destination_eq hhead _) (by simp) hstatement
    refine ⟨journal, hperform.trans ?_⟩
    have hvalue : (Expression.textOf source.text).evaluate s.heap s.own =
        .ok (.text (((s.heap.get? s.own source.text).map s.shown).getD "")) := by
      cases hget : s.heap.get? s.own source.text with
      | none => simp only [Expression.evaluate, hget, Option.map_none, Option.getD_none]
      | some v =>
        simp only [Expression.evaluate, hget]
        refine congrArg (fun text => Except.ok (Value.text text)) (display_eq_shown ?_)
        rintro store rfl
        exact h.handles source.text store hget
    simp only [perform, assign, hvalue]

end OnlyOwnStore

end Session

namespace Machine

open Session

/-- **Mappings are the live store.**  Whatever lines, programs and nested scripts a fresh interpreter
has run, the variables hold no store but their own.  So wherever PRINT, JOIN and TOSTRING come upon
a variable that holds a store, they use the text of the variables as the statement finds them, in
which those names and no others are shown as `{...}` that hold a store. -/
theorem mappings_are_the_live_store {m n : Machine ω} {moves : List (Move ω)}
    (hfresh : m.session.IsFresh) (hmoves : ∀ move ∈ moves, Move.InRun move)
    (h : Leads m moves n) :
    n.session.HoldsLiveStore ∧
    ∀ found tokens o, Moves n (.statement found tokens) o →
      found.heap = n.session.heap ∧ found.own = n.session.own ∧
      found.ShowsLiveStore tokens o.result o.session := by
  have hown : n.session.OnlyOwnStore :=
    onlyOwnStore_of_moves.leads hmoves h hfresh.onlyOwnStore
  refine ⟨hown.holdsLiveStore, fun found tokens o hmove => ?_⟩
  have hshows := (onlyOwnStore_of_moves.found hmove hown).showsLiveStore hmove
  rcases found_of_moves hmove with rfl | rfl
  · exact ⟨rfl, rfl, hshows⟩
  · exact ⟨rfl, rfl, hshows⟩

/-- The store is taken by one variable and copied to another; then the copy is written. -/
theorem mappings_are_the_live_store_of_copy :
    let m := atRest (start Host.ofTable ⟨[], []⟩)
    let taken := atEndOf (m.session.execute [⟨.keyword, "MEMORY"⟩, ⟨.identifier, "m"⟩])
    let n := atEndOf
      (taken.session.execute [⟨.keyword, "LOAD"⟩, ⟨.identifier, "m"⟩, ⟨.identifier, "k"⟩])
    let written := ofTokens [⟨.keyword, "PRINT"⟩, ⟨.identifier, "k"⟩] n.session
    m.session.IsFresh ∧ (∃ moves, (∀ move ∈ moves, Move.InRun move) ∧ Leads m moves n) ∧
      n.session.HoldsLiveStore ∧
      written.session.console.output.written = "\x7b'k': \x7b...\x7d, 'm': \x7b...\x7d\x7d\n".toUTF8 := by
  intro m taken n written
  have hfresh : m.session.IsFresh := ⟨rfl, rfl, rfl⟩
  obtain ⟨first, hfirst, htaken⟩ :=
    leads_execute (m := m) rfl [⟨.keyword, "MEMORY"⟩, ⟨.identifier, "m"⟩]
  obtain ⟨second, hsecond, hcopied⟩ := leads_execute (m := taken) rfl
    [⟨.keyword, "LOAD"⟩, ⟨.identifier, "m"⟩, ⟨.identifier, "k"⟩]
  have hmoves : ∀ move ∈ first ++ second, Move.InRun move :=
    List.forall_mem_append.mpr ⟨hfirst, hsecond⟩
  have hleads : Leads m (first ++ second) n := htaken.append hcopied
  obtain ⟨hholds, hshows⟩ := mappings_are_the_live_store hfresh hmoves hleads
  refine ⟨hfresh, ⟨_, hmoves, hleads⟩, hholds, ?_⟩
  have hcontents : n.session.contents = [("k", .mapping 0), ("m", .mapping 0)] := by
    rfl
  have hmove : Moves n (.statement n.session [⟨.keyword, "PRINT"⟩, ⟨.identifier, "k"⟩]) written :=
    .execute n _ rfl
  obtain ⟨journal, hwritten⟩ := (hshows _ _ _ hmove).2.2.print _ _ _ rfl rfl
  have hshown : n.session.shown (n.session.resolve "k") =
      "\x7b'k': \x7b...\x7d, 'm': \x7b...\x7d\x7d" := by
    show n.session.heap.render n.session.own = _
    rw [hholds.text, hcontents]
    rfl
  rw [hshown] at hwritten
  rw [(Prod.mk.inj hwritten).2]
  rfl

end Machine

end LineScript
