import LineScript.Proofs.Bundled
import LineScript.Proofs.Comparison
import LineScript.Proofs.Spacing
import LineScript.Proofs.Variables

/-!
A variable that a program does not mention makes no difference to it.

Two states that agree on all but one variable stay such states while a program runs in both that
has no token of that name, and the runs end in the same way
(`unmentioned_variable_does_not_interfere`).  Stores are the one way in which a program could come
upon a variable without naming it: their text shows all variables.  So no statement may be a
MEMORY, no other variable may hold a store, and operations may neither read stores nor give any.
The last holds of the operations that come with the library (`bundled_isPlain`).
-/

namespace LineScript

/-! ## Programs that do not mention a variable -/

/-- No token is the word, and the statement is no MEMORY. -/
def Unmentioned (x : String) (tokens : List Token) : Prop :=
  (∀ token ∈ tokens, token.text ≠ x) ∧
  ∀ head rest, tokens = head :: rest → head.text ≠ Keyword.memory.name

/-! ## Heaps that differ in one variable -/

/-- The heaps have the same stores and agree on all bindings but one. -/
structure Heap.SameButFor (own : StoreId) (x : String) (h k : Heap) : Prop where
  stores : k.stores.length = h.stores.length
  bindings : ∀ store name, (store = own → name ≠ x) → k.get? store name = h.get? store name

/-- No variable but the one holds a store. -/
def Heap.PlainButFor (own : StoreId) (x : String) (h : Heap) : Prop :=
  ∀ name v, name ≠ x → h.get? own name = some v → v.IsPlain

namespace Heap

variable {own : StoreId} {x : String} {h k : Heap}

theorem SameButFor.set (hk : SameButFor own x h k) (name : String) (v : Value) :
    SameButFor own x (h.set own name v) (k.set own name v) := by
  refine ⟨by simp [Heap.set, update, hk.stores], fun store other hne => ?_⟩
  rw [get?_set, get?_set, hk.stores, hk.bindings store other hne]

theorem SameButFor.clear (hk : SameButFor own x h k) :
    SameButFor own x (h.clear own) (k.clear own) := by
  refine ⟨by simp [Heap.clear, update, hk.stores], fun store name hne => ?_⟩
  by_cases hstore : own = store
  · obtain rfl := hstore
    rw [get?_clear, get?_clear]
  · rw [get?_clear_of_ne name hstore, get?_clear_of_ne name hstore]
    exact hk.bindings store name hne

theorem PlainButFor.set (hplain : PlainButFor own x h) (name : String) {v : Value}
    (hv : v.IsPlain) : PlainButFor own x (h.set own name v) := by
  intro other w hne hget
  rw [get?_set] at hget
  split at hget
  · obtain rfl := Option.some.inj hget
    exact hv
  · exact hplain other w hne hget

theorem PlainButFor.clear (own : StoreId) (x : String) (h : Heap) :
    PlainButFor own x (h.clear own) := by
  intro name v _ hget
  rw [get?_clear] at hget
  cases hget

end Heap

/-- The comparison of runs that know nothing of the variable. -/
def Comparison.without (own : StoreId) (x : String) : Comparison where
  own := own
  alike h k := h.SameButFor own x k ∧ h.PlainButFor own x
  word name := name ≠ x
  value := Value.IsPlain
  counts _ := true
  mayStop := False
  text_value _ := trivial
  number_value _ := trivial
  get?_eq hk hname := hk.1.bindings own _ fun _ => hname
  get?_value hk hname hget := hk.2 _ _ hname hget
  display_eq {h k v} _ hv := by
    cases v with
    | mapping store => exact hv.elim
    | _ => rfl
  alike_set hk _ hv := ⟨hk.1.set _ _, hk.2.set _ hv⟩
  alike_clear hk := ⟨hk.1.clear, .clear own x _⟩
  entered_uncounted := False.elim

/-! ## Runs -/

variable {ω : Type}

namespace Session

/-- The states agree on everything but one variable. -/
structure SameButFor (x : String) (s t : Session ω) : Prop where
  state : t = { s with heap := t.heap }
  heap : s.heap.SameButFor s.own x t.heap

structure HasPlainOperations (s : Session ω) : Prop where
  registry : ∀ name operation, s.registry.lookup name = some operation → operation.IsPlain
  catalog : ∀ key unit, s.catalog.lookup key = some unit →
    ∀ entry ∈ unit.operations, entry.2.IsPlain

theorem HasPlainOperations.operationsLeaveStores {s : Session ω} (h : s.HasPlainOperations) :
    s.OperationsLeaveStores where
  registry name operation hname := (h.registry name operation hname).leavesStores
  catalog key unit hkey entry hentry := (h.catalog key unit hkey entry hentry).leavesStores

theorem admitsOperation_of_isPlain {own : StoreId} {x : String} {operation : Operation}
    (h : operation.IsPlain) : (Comparison.without own x).AdmitsOperation operation :=
  fun heap heap' arguments hheap hvalues => by
    rw [h.leavesStores heap arguments, h.leavesStores heap' arguments]
    exact ⟨h.apply_eq heap heap' arguments hvalues, hheap, h.value heap arguments hvalues⟩

theorem admitsTokens_of_unmentioned {own : StoreId} {x : String} {tokens : List Token}
    (h : Unmentioned x tokens) : (Comparison.without own x).AdmitsTokens tokens :=
  ⟨h.1, .inr h.2⟩

theorem matched_of_sameButFor {x : String} {s t : Session ω} (hst : s.SameButFor x t)
    (hplain : s.heap.PlainButFor s.own x) (hoperations : s.HasPlainOperations)
    (hscripts : s.ScriptsAllowed (Unmentioned x)) :
    (Comparison.without s.own x).Matched s t := by
  obtain ⟨hstate, hheap⟩ := hst
  rw [hstate]
  exact {
    heap := ⟨hheap, hplain⟩
    own_left := rfl
    own_right := rfl
    registry := rfl
    catalog := rfl
    console := rfl
    host := rfl
    world := rfl
    chance := rfl
    promptSuffix := rfl
    limit := .inr ⟨rfl, rfl⟩
    journal := rfl
    operations := fun name operation hname =>
      admitsOperation_of_isPlain (hoperations.registry name operation hname)
    units := fun key unit hkey entry hentry =>
      admitsOperation_of_isPlain (hoperations.catalog key unit hkey entry hentry)
    scripts := fun world hworld name text htext =>
      (hscripts world hworld name text htext).mono fun _ => admitsTokens_of_unmentioned }

theorem sameButFor_of_matched {x : String} {s t s' t' : Session ω} (hst : s.SameButFor x t)
    (hs : s.Later s') (ht : t.Later t') (h : (Comparison.without s.own x).Matched s' t') :
    s'.SameButFor x t' := by
  have hconfig : t.config = s.config := by rw [hst.state]
  have hdepth : t.depth = s.depth := by rw [hst.state]
  have hjournal : t'.journal = s'.journal := by
    have hall (events : List Event) : events.filter (Comparison.without s.own x).counts = events :=
      List.filter_eq_self.mpr fun _ _ => rfl
    rw [← hall t'.journal, h.journal, hall]
  refine ⟨?_, ?_⟩
  · ext1
    · rfl
    · exact h.own_right.trans h.own_left.symm
    · exact h.registry
    · exact h.catalog
    · exact h.console
    · exact h.host
    · exact h.world
    · exact ht.config.trans (hconfig.trans hs.config.symm)
    · exact ht.depth.trans (hdepth.trans hs.depth.symm)
    · exact h.chance
    · exact hjournal
  · rw [hs.own]
    exact h.heap.1

/-! ## A fresh interpreter -/

theorem sameButFor_bind (s : Session ω) (x : String) (value : Value) :
    s.SameButFor x (s.bind x value) := by
  refine ⟨rfl, by simp [bind, Heap.set, Heap.update], fun store name hne => ?_⟩
  unfold bind
  rw [Heap.get?_set, if_neg]
  rintro ⟨hstore, hname, -⟩
  exact hne hstore.symm hname.symm

theorem start_plainButFor (host : Host ω) (world : ω) (x : String) :
    (start host world).heap.PlainButFor (start host world).own x := by
  intro name v _ hget
  simp [start, Heap.get?, Heap.bindings, Heap.empty, Heap.allocate] at hget

theorem start_hasPlainOperations (host : Host ω) (world : ω) :
    (start host world).HasPlainOperations where
  registry name operation h := by simp [start, Registry.lookup] at h
  catalog _ _ h := bundled_isPlain h

end Session

theorem unmentioned_quotedLine {x : String} (command : Keyword) (operand : String)
    (hquote : '"' ∉ operand.toList) (hcomment : ¬ ['/', '/'] <:+: operand.toList)
    (hmemory : command ≠ .memory) (hcommand : command.name ≠ x)
    (hoperand : "\"" ++ operand ++ "\"" ≠ x) :
    LineAllowed (Unmentioned x) (command.quotedLine operand) := by
  intro tokens htokens
  rw [tokenize_quotedLine command operand hquote hcomment] at htokens
  obtain rfl := Except.ok.inj htokens
  refine ⟨by simpa [Keyword.quotedTokens] using ⟨hcommand, hoperand⟩, ?_⟩
  intro head rest h hhead
  obtain ⟨rfl, -⟩ := List.cons.inj h
  exact hmemory (Keyword.name_injective hhead)

open Session in
/-- **Unmentioned variables do not interfere.**  Let no token of a program, nor of a script that
the host can come to serve, be the name of the variable, and let stores stay out of the way.  From
two states that agree on all but that variable the program comes to the same result, and again to
two states that agree on all but that variable: the same streams, registry, world, and journal of
what the host and the operations were asked.  The variable itself stays as it was in each run,
unless it was cleared. -/
theorem unmentioned_variable_does_not_interfere (x : String) (program : String) (s t : Session ω)
    (hst : s.SameButFor x t) (hplain : s.heap.PlainButFor s.own x)
    (hoperations : s.HasPlainOperations) (hprogram : TextAllowed (Unmentioned x) program)
    (hscripts : s.ScriptsAllowed (Unmentioned x)) :
    (s.runSource program).1 = (t.runSource program).1 ∧
    (s.runSource program).2.SameButFor x (t.runSource program).2 ∧
    KeepsUnlessCleared x s (s.runSource program).2 ∧
    KeepsUnlessCleared x t (t.runSource program).2 := by
  have hlines : ∀ line ∈ Text.lines program,
      LineAllowed (fun tokens => ∀ token ∈ tokens, token.text ≠ x) line :=
    hprogram.mono fun _ h => h.1
  have hquiet (u : Session ω) (hu : u.ScriptsAllowed (Unmentioned x)) :
      u.ScriptsAllowed fun tokens => ∀ token ∈ tokens, token.text ≠ x :=
    fun world hworld name text htext => (hu world hworld name text htext).mono fun _ h => h.1
  have hscripts' : t.ScriptsAllowed (Unmentioned x) := by
    rw [hst.state]
    exact hscripts
  have hoperations' : t.HasPlainOperations := by
    rw [hst.state]
    exact ⟨hoperations.registry, hoperations.catalog⟩
  have hroom : t.room = s.room := by rw [hst.state]; rfl
  have hagrees :
      (Comparison.without s.own x).Agrees (s.runSource program) (t.runSource program) := by
    unfold runSource runLines
    rw [hroom]
    exact Comparison.agrees_runLinesWith (Comparison.agrees_nestedRun (Nat.le_refl _) (.inr rfl))
      (Text.lines program) (hprogram.mono fun _ => admitsTokens_of_unmentioned)
      (matched_of_sameButFor hst hplain hoperations hscripts)
  obtain ⟨hresult, hafter⟩ := hagrees.resolve_left fun h => h.1
  refine ⟨hresult, ?_, ?_, ?_⟩
  · exact sameButFor_of_matched hst (later_runLines _ s) (later_runLines _ t) hafter
  · exact ((keepsUnlessCleared x).runLines _ hlines s (hquiet s hscripts)
      hoperations.operationsLeaveStores).1
  · exact ((keepsUnlessCleared x).runLines _ hlines t (hquiet t hscripts')
      hoperations'.operationsLeaveStores).1

/-- A script that greets, run where `x` is bound and where it is not. -/
theorem greeting_does_not_interfere :
    let table : HostTable := ⟨[("greet", "PRINT \"hello\"")], []⟩
    let s := Session.start Host.ofTable table
    let t := s.bind "x" (.text "secret")
    let program := "RUN \"greet\"\nPRINT \"bye\""
    (s.runSource program).1 = (t.runSource program).1 ∧
    (s.runSource program).2.SameButFor "x" (t.runSource program).2 ∧
    Session.KeepsUnlessCleared "x" s (s.runSource program).2 ∧
    Session.KeepsUnlessCleared "x" t (t.runSource program).2 := by
  intro table s t program
  have hrun : LineAllowed (Unmentioned "x") (Keyword.run.quotedLine "greet") := by
    apply unmentioned_quotedLine <;> decide
  have hhello : LineAllowed (Unmentioned "x") (Keyword.print.quotedLine "hello") := by
    apply unmentioned_quotedLine <;> decide
  have hbye : LineAllowed (Unmentioned "x") (Keyword.print.quotedLine "bye") := by
    apply unmentioned_quotedLine <;> decide
  have hprogram : Text.lines program =
      [Keyword.run.quotedLine "greet", Keyword.print.quotedLine "bye"] := by decide
  have hscript : Text.lines "PRINT \"hello\"" = [Keyword.print.quotedLine "hello"] := by decide
  refine unmentioned_variable_does_not_interfere "x" program s t (s.sameButFor_bind "x" _)
    (Session.start_plainButFor _ _ "x") (Session.start_hasPlainOperations _ _) ?_ ?_
  · unfold TextAllowed
    rw [hprogram]
    simpa using ⟨hrun, hbye⟩
  · refine Host.scriptsAllowed_ofTable fun entry hentry => ?_
    obtain rfl := List.mem_singleton.mp hentry
    unfold TextAllowed
    rw [hscript]
    simpa using hhello

end LineScript
