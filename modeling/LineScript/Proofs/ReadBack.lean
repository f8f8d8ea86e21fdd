import LineScript.Proofs.Moves
import LineScript.Proofs.NumberText
import LineScript.Proofs.Spacing

/-!
Reading a variable back.

A word that a line has for an identifier is looked up among the variables, unless it is one of the
words for infinity and NaN: these are read as numbers whatever they were bound to
(`resolve_of_shape`, `resolve_of_numberWord`, `Machine.number_word_is_not_read_back`).

A variable that LOAD or STORE has written is read as the value that was written, by all operands of
all later statements, until a statement binds it again or removes all variables
(`Machine.variables_read_back`).
-/

namespace LineScript

variable {ω : Type}

/-! ## What an identifier stands for -/

/-- An identifier of a line begins like a word. -/
theorem shape_of_identifier {line : String} {tokens : List Token} (h : tokenize line = .ok tokens)
    {token : Token} (htoken : token ∈ tokens) (hkind : token.kind = .identifier) :
    Shape .word token.text.toList := by
  have hform := (wellFormed_of_tokenize h token htoken).form
  unfold Token.HasForm at hform
  rw [hkind] at hform
  exact hform.1

/-- Words and numerals do not begin with a quote. -/
theorem unquoted?_of_shape {kind : SegmentKind} {text : String} (h : Shape kind text.toList)
    (hkind : kind = .word ∨ kind = .numeral) : unquoted? text = none := by
  obtain ⟨first, more, htext, hfirst⟩ := h.begins
  have hquote : first ≠ '"' := by
    rintro rfl
    exact absurd (hfirst.classes.2.1.mpr hkind) (by decide)
  unfold unquoted?
  rw [htext]
  split
  · next hcons => exact absurd (List.cons.inj hcons).1 hquote
  · rfl

/-- A word that is no number is looked up; it stands for zero where it is not bound. -/
theorem resolve_of_shape {word : String} (h : Shape .word word.toList)
    (hword : Decimal.isNumberWord word = false) (heap : Heap) (store : StoreId) :
    heap.resolve store word = (heap.get? store word).getD .zero := by
  unfold Heap.resolve
  rw [unquoted?_of_shape h (.inl rfl), (Decimal.readNumber?_of_shape h).mpr hword]
  rfl

/-- A word that is a number stands for it, whatever the variables are. -/
theorem resolve_of_numberWord {word : String} (h : Shape .word word.toList)
    (hword : Decimal.isNumberWord word = true) :
    ∃ x, ∀ (heap : Heap) (store : StoreId), heap.resolve store word = .number x := by
  cases hnumber : Decimal.readNumber? word with
  | none =>
    rw [(Decimal.readNumber?_of_shape h).mp hnumber] at hword
    cases hword
  | some x =>
    refine ⟨x, fun heap store => ?_⟩
    unfold Heap.resolve
    rw [unquoted?_of_shape h (.inl rfl), hnumber]

/-! ## Moves that leave a variable alone -/

/-- The statement binds the variable or removes all of them: the operation that it calls does so, or it
succeeds, and it is CLEAR or has a value for the variable. -/
def Move.Rebinds (x : String) : Move ω → Prop
  | statement found tokens =>
    (found.callHeap tokens).get? found.own x ≠ found.heap.get? found.own x ∨
    (Session.executeWith (fun _ s => (.ok (), s)) tokens found).1 = .ok .executed ∧
    ∃ command statement, found.destination tokens = .builtIn command ∧
      Statement.ofOperands command (operands tokens) = .ok statement ∧
      (statement = .clear ∨
        statement.target? = some x ∧ ∃ value, statement.value? found = some value)
  | registration _ _ | other => False

namespace Session

/-- A statement that does not rebind the variable leaves it alone. -/
theorem get?_executeWith {x : String} {tokens : List Token} {s : Session ω}
    (hasks : s.asks? tokens = none) (hkeeps : ¬ (Move.statement s tokens).Rebinds x) :
    (executeWith (fun _ s => (.ok (), s)) tokens s).2.heap.get? s.own x =
      s.heap.get? s.own x := by
  rw [Move.Rebinds, not_or] at hkeeps
  obtain ⟨hcalled, hkeeps⟩ := hkeeps
  have hcalled := not_not.mp hcalled
  have hdoes := executeWith_does (fun _ s => (.ok (), s)) tokens s
  generalize executeWith (fun _ s => (.ok (), s)) tokens s = ending at hdoes hkeeps ⊢
  cases hdoes with
  | elsewhere journal _ _ => exact hcalled
  | malformed journal _ _ => rfl
  | @builtIn command statement journal hplace hstatement =>
    rw [callHeap_of_builtIn hplace hstatement] at hcalled
    have hleaves := perform_leaves (fun _ s => (.ok (), s)) statement
      (ne_run_of_asks_eq_none hasks hplace hstatement) { s with journal := journal }
    generalize perform (fun _ s => (.ok (), s)) statement _ = ending at hleaves hkeeps
    obtain ⟨fault | _, t⟩ := ending
    · exact (congrArg (·.get? s.own x) hleaves).trans hcalled
    · have hafter : t.heap = statement.variablesAfter s := hleaves
      have hclear : statement ≠ .clear := fun h =>
        hkeeps ⟨rfl, command, statement, hplace, hstatement, .inl h⟩
      show t.heap.get? s.own x = s.heap.get? s.own x
      rw [hafter]
      by_cases htarget : statement.target? = some x
      · cases hvalue : statement.value? s with
        | none => rw [Statement.variablesAfter_of_no_value hclear hvalue, hcalled]
        | some value =>
          exact absurd ⟨rfl, command, statement, hplace, hstatement, .inr ⟨htarget, value, hvalue⟩⟩
            hkeeps
      · exact (Statement.get?_variablesAfter hclear htarget).trans hcalled

/-- The variable is what it was. -/
structure KeepsBinding (x : String) (s t : Session ω) : Prop where
  own : t.own = s.own
  binding : t.heap.get? s.own x = s.heap.get? s.own x

theorem KeepsBinding.of_eq {x : String} {s t : Session ω} (hown : t.own = s.own)
    (hheap : t.heap = s.heap) : KeepsBinding x s t :=
  ⟨hown, by rw [hheap]⟩

/-- **A variable that is not rebound** is the same after all moves. -/
theorem keepsBinding_of_moves (x : String) :
    Machine.KeptByMoves (ω := ω) (fun move => ¬ move.Rebinds x) (KeepsBinding x) where
  refl _ := .of_eq rfl rfl
  trans hst htu := ⟨htu.own.trans hst.own, by
    rw [← hst.binding, ← hst.own]
    exact htu.binding⟩
  scanned _ _ := .of_eq rfl rfl
  statement s tokens hkeeps hasks :=
    ⟨(later_executeWith (fun _ u => .refl u) tokens s).own, get?_executeWith hasks hkeeps⟩
  asks s tokens asked _ hasks := by
    refine .of_eq (later_asks s tokens asked hasks).own ?_
    obtain ⟨head, file, more, -, -, rfl⟩ := eq_of_asks hasks
    rw [readScript_heap, noteSurplus_eq]
    rfl
  enter _ := .of_eq rfl rfl
  leave _ := .of_eq rfl rfl
  registration _ _ _ _ := .of_eq rfl rfl

/-! ## Writing and reading -/

/-- The statement is LOAD or STORE, and writes what the word stands for to the variable. -/
def Assigns (s : Session ω) (tokens : List Token) (x word : String) : Prop :=
  (s.destination tokens = .builtIn .load ∧ ∃ more, operands tokens = word :: x :: more) ∨
  (s.destination tokens = .builtIn .store ∧ ∃ more, operands tokens = x :: word :: more)

/-- What an operand stands for if the one variable has this value. -/
def reading (s : Session ω) (x : String) (v : Value) (operand : String) : Value :=
  if operand = x then v else s.resolve operand

def bindResult (s : Session ω) (target : String) (result : Except Fault Value) : Ending ω Unit :=
  match result with
  | .ok value => (.ok (), s.bind target value)
  | .error fault => (.error fault, s)

/-- Calls an operation with these values and binds what it gives. -/
def callWith (s : Session ω) (function : String) (arguments : List Value) (target : String) :
    Ending ω Unit :=
  (s.call function arguments).andThen fun value s =>
    match value with
    | some value => (.ok (), s.bind target value)
    | none => (.ok (), s.note (.noResult function target))

/-- What the statement comes to that finds the state `s`: the operand `x` is read as `v` wherever
PRINT, JOIN, an arithmetic command or CALL has it.  `t` is the state then, and `result` the
result. -/
structure ReadsAs (s : Session ω) (tokens : List Token) (x : String) (v : Value)
    (result : Except Fault Unit) (t : Session ω) : Prop where
  print : ∀ a more, s.destination tokens = .builtIn .print → operands tokens = a :: more →
    ∃ journal, (result, t) =
      ({ s with journal := journal } : Session ω).write (s.heap.display (s.reading x v a) ++ "\n")
  join : ∀ a b target more, s.destination tokens = .builtIn .join →
    operands tokens = a :: b :: target :: more → ∃ journal, (result, t) =
      (.ok (), ({ s with journal := journal } : Session ω).bind target
        (.text (s.heap.display (s.reading x v a) ++ s.heap.display (s.reading x v b))))
  binary : ∀ (f : BinaryFunction) a b target more, s.destination tokens = .builtIn f.command →
    operands tokens = a :: b :: target :: more → ∃ journal, (result, t) =
      ({ s with journal := journal } : Session ω).bindResult target (do
        let p ← numberFor f.command (s.reading x v a)
        let q ← numberFor f.command (s.reading x v b)
        return .number (← f.apply p q))
  unary : ∀ (f : UnaryFunction) a target more, s.destination tokens = .builtIn f.command →
    operands tokens = a :: target :: more → ∃ journal, (result, t) =
      ({ s with journal := journal } : Session ω).bindResult target (do
        let p ← numberFor f.command (s.reading x v a)
        return .number (← f.apply p))
  call : ∀ function arguments target, s.destination tokens = .builtIn .call →
    operands tokens = function :: (arguments ++ [target]) → ∃ journal, (result, t) =
      ({ s with journal := journal } : Session ω).callWith function
        (arguments.map (s.reading x v)) target

theorem reading_eq_resolve {s : Session ω} {x : String} {v : Value} (h : s.resolve x = v) :
    s.reading x v = s.resolve := by
  funext operand
  unfold reading
  split
  · next heq => rw [heq, h]
  · rfl

/-- A statement reads its operands off the state that it finds. -/
theorem readsAs_of_resolve {s : Session ω} {x : String} {v : Value} (h : s.resolve x = v)
    {m n : Machine ω} {tokens : List Token} (hmove : Machine.Moves m (.statement s tokens) n) :
    s.ReadsAs tokens x v n.result n.session := by
  have hreading := reading_eq_resolve h
  constructor
  · intro a more hplace hoperands
    have hstatement : Statement.ofOperands .print (operands tokens) = .ok (.print a) := by
      rw [hoperands]; rfl
    rw [hreading]
    exact Machine.performed_of_moves hmove hplace (by simp) hstatement
  · intro a b target more hplace hoperands
    have hstatement : Statement.ofOperands .join (operands tokens) =
        .ok (.assign target (.join a b)) := by rw [hoperands]; rfl
    rw [hreading]
    exact Machine.performed_of_moves hmove hplace (by simp) hstatement
  · intro f a b target more hplace hoperands
    have hstatement : Statement.ofOperands f.command (operands tokens) =
        .ok (.assign target (.binary f a b)) := by rw [hoperands]; cases f <;> rfl
    rw [hreading]
    exact Machine.performed_of_moves hmove hplace (by cases f <;> simp [BinaryFunction.command])
      hstatement
  · intro f a target more hplace hoperands
    have hstatement : Statement.ofOperands f.command (operands tokens) =
        .ok (.assign target (.unary f a)) := by rw [hoperands]; cases f <;> rfl
    rw [hreading]
    exact Machine.performed_of_moves hmove hplace (by cases f <;> simp [UnaryFunction.command])
      hstatement
  · intro function arguments target hplace hoperands
    have hstatement : Statement.ofOperands .call (operands tokens) =
        .ok (.call function arguments target) := by
      rw [hoperands, Statement.ofOperands_call_cons]
      simp
    rw [hreading]
    exact Machine.performed_of_moves hmove hplace (by simp) hstatement

end Session

namespace Machine

open Session

variable {m n o : Machine ω} {found : Session ω} {tokens : List Token} {x word : String}

/-- What LOAD and STORE have written is there. -/
theorem get?_of_assigns (hplace : m.session.own < m.session.heap.stores.length)
    (hmove : Moves m (.statement found tokens) n) (hassigns : found.Assigns tokens x word) :
    n.session.heap.get? n.session.own x = some (found.resolve word) := by
  have hexists : found.own < found.heap.stores.length := by
    rcases found_of_moves hmove with rfl | rfl
    · exact hplace
    · exact hplace
  obtain ⟨journal, hperform⟩ : ∃ journal, (n.result, n.session) =
      (.ok (), ({ found with journal := journal } : Session ω).bind x (found.resolve word)) := by
    rcases hassigns with ⟨hload, more, hoperands⟩ | ⟨hstore, more, hoperands⟩
    · have hstatement : Statement.ofOperands .load (operands tokens) =
          .ok (.assign x (.operand word)) := by rw [hoperands]; rfl
      exact performed_of_moves hmove hload (by simp) hstatement
    · have hstatement : Statement.ofOperands .store (operands tokens) =
          .ok (.assign x (.operand word)) := by rw [hoperands]; rfl
      exact performed_of_moves hmove hstore (by simp) hstatement
  rw [(Prod.mk.inj hperform).2]
  exact Heap.get?_set_same x _ hexists

/-- **Variables read back what was written.**  Let a line have this identifier.  Unless it is a word
for infinity or NaN, it stands for what the variable of its name is bound to, or for zero.  So
after LOAD or STORE has written to the variable, and until it is bound again or removed, all
operands of all statements read the value that was written.  A word for infinity or NaN stands for
that number whatever was written. -/
theorem variables_read_back {line : String} {tokens : List Token}
    (htokens : tokenize line = .ok tokens) {token : Token} (htoken : token ∈ tokens)
    (hkind : token.kind = .identifier) :
    (Decimal.isNumberWord token.text = true →
      ∃ x, ∀ (heap : Heap) (store : StoreId), heap.resolve store token.text = .number x) ∧
    (Decimal.isNumberWord token.text = false →
      (∀ (heap : Heap) (store : StoreId),
        heap.resolve store token.text = (heap.get? store token.text).getD .zero) ∧
      ∀ (m n o : Machine ω) (found : Session ω) (written : List Token) (word : String)
        (moves : List (Move ω)), m.session.own < m.session.heap.stores.length →
        Moves m (.statement found written) n → found.Assigns written token.text word →
        Leads n moves o → (∀ move ∈ moves, ¬ move.Rebinds token.text) →
        o.session.resolve token.text = found.resolve word ∧
        ∀ p later reading, Moves o (.statement later reading) p →
          later.ReadsAs reading token.text (found.resolve word) p.result p.session) := by
  have hshape := shape_of_identifier htokens htoken hkind
  refine ⟨resolve_of_numberWord hshape, fun hword => ⟨resolve_of_shape hshape hword, ?_⟩⟩
  intro m n o found written word moves hplace hwrite hassigns hleads hmoves
  have hwritten := get?_of_assigns hplace hwrite hassigns
  have hkept := (keepsBinding_of_moves token.text).leads hmoves hleads
  have hresolve (s : Session ω) (hs : KeepsBinding token.text n.session s) :
      s.resolve token.text = found.resolve word := by
    refine (resolve_of_shape hshape hword s.heap s.own).trans ?_
    rw [hs.own, hs.binding, hwritten]
    rfl
  refine ⟨hresolve o.session hkept, fun p later reading hmove => ?_⟩
  have hlater := (keepsBinding_of_moves token.text).found hmove
  exact readsAs_of_resolve
    (hresolve later ((keepsBinding_of_moves token.text).trans hkept hlater)) hmove

set_option maxRecDepth 20000 in
/-- A text is written to one variable and a number to another; then the first is printed. -/
theorem variables_read_back_of_text :
    let m := atRest (start Host.ofTable ⟨[], []⟩)
    let load : List Token := [⟨.keyword, "LOAD"⟩, ⟨.string, "\"a\""⟩, ⟨.identifier, "x"⟩]
    let store : List Token := [⟨.keyword, "STORE"⟩, ⟨.identifier, "y"⟩, ⟨.number, "2"⟩]
    let n := ofTokens load m.session
    let o := (ofTokens store n.step.session).step
    let p := ofTokens [⟨.keyword, "PRINT"⟩, ⟨.identifier, "x"⟩] o.session
    tokenize "LOAD \"a\" x" = .ok load ∧
      Leads n [.other, .statement n.step.session store, .other] o ∧
      o.session.resolve "x" = .text "a" ∧ p.session.console.output.written = "a\n".toUTF8 := by
  intro m load store n o p
  have htokens : tokenize "LOAD \"a\" x" = .ok load := by cbv
  have htoken : (⟨.identifier, "x"⟩ : Token) ∈ load := .tail _ (.tail _ (.head _))
  have hword : Decimal.isNumberWord "x" = false := by decide
  have hplace : m.session.own < m.session.heap.stores.length := by decide
  have hload : Moves m (.statement m.session load) n := .execute m load rfl
  have hassigns : m.session.Assigns load "x" "\"a\"" := .inl ⟨rfl, [], rfl⟩
  have hleads : Leads n [.other, .statement n.step.session store, .other] o :=
    .snoc (.snoc (.single (.step n)) (.execute n.step store rfl)) (.step _)
  have hkeeps : ¬ (Move.statement n.step.session store).Rebinds "x" := by
    rintro (hcalled | ⟨-, command, statement, hplace, hstatement, hrebinds⟩)
    · exact hcalled rfl
    have hstore : n.step.session.destination store = .builtIn .store := rfl
    obtain rfl := Destination.builtIn.inj (hstore.symm.trans hplace)
    cases Statement.reads_of_ofOperands hstatement
    simp [Statement.target?] at hrebinds
  have hmoves : ∀ move ∈ [.other, .statement n.step.session store, .other],
      ¬ Move.Rebinds "x" move :=
    List.forall_mem_cons.mpr ⟨id, List.forall_mem_cons.mpr ⟨hkeeps, List.forall_mem_singleton.mpr id⟩⟩
  obtain ⟨hresolve, hreads⟩ := ((variables_read_back htokens htoken rfl).2 hword).2 m n o m.session
    load "\"a\"" _ hplace hload hassigns hleads hmoves
  have hprint : Moves o (.statement o.session [⟨.keyword, "PRINT"⟩, ⟨.identifier, "x"⟩]) p :=
    .execute o _ rfl
  obtain ⟨journal, hwritten⟩ := (hreads p _ _ hprint).print "x" [] rfl rfl
  refine ⟨htokens, hleads, hresolve, ?_⟩
  rw [(Prod.mk.inj hwritten).2]
  rfl

set_option maxRecDepth 20000 in
/-- A variable with the name `inf` is written and not read back. -/
theorem number_word_is_not_read_back :
    let s := ((start Host.ofTable ⟨[], []⟩).runLine "LOAD \"a\" inf").2
    tokenize "LOAD \"a\" inf" =
        .ok [⟨.keyword, "LOAD"⟩, ⟨.string, "\"a\""⟩, ⟨.identifier, "inf"⟩] ∧
      s.heap.get? s.own "inf" = some (.text "a") ∧ s.resolve "inf" ≠ .text "a" := by
  intro s
  let tokens : List Token := [⟨.keyword, "LOAD"⟩, ⟨.string, "\"a\""⟩, ⟨.identifier, "inf"⟩]
  have htokens : tokenize "LOAD \"a\" inf" = .ok tokens := by cbv
  have htoken : (⟨.identifier, "inf"⟩ : Token) ∈ tokens := .tail _ (.tail _ (.head _))
  obtain ⟨x, hx⟩ := resolve_of_numberWord (shape_of_identifier htokens htoken rfl) (by decide)
  have hline : s = (((start Host.ofTable ⟨[], []⟩).note (.scanned tokens)).execute tokens).2 := by
    unfold s runLine
    rw [runLineWith_of_tokens _ _ _ _ htokens]
    rfl
  refine ⟨htokens, ?_, ?_⟩
  · rw [hline]
    rfl
  · show s.heap.resolve s.own "inf" ≠ .text "a"
    rw [hx]
    simp

end Machine

end LineScript
