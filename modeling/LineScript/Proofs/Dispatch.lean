import LineScript.Run

/-!
Where a statement leads.

* A statement that goes to the built-in command RUN first asks the host for a script (`asks?`) and
  then runs it (`executeWith_of_asks`).
* Every other statement is done without a script, so how scripts are run does not matter to it
  (`executeWith_of_not_asks`).
* A line that is cut into tokens is their statement, behind a note (`runLineWith_of_tokens`).
-/

namespace LineScript

/-! ## From statements back to operands -/

namespace Statement

theorem ofOperands_eq_run {command : Keyword} {given : List String} {file : String}
    (h : ofOperands command given = .ok (.run file)) :
    command = .run ∧ ∃ more, given = file :: more := by
  cases reads_of_ofOperands h
  exact ⟨rfl, _, rfl⟩

theorem ofOperands_eq_execCommand {command : Keyword} {given : List String} {line : String}
    (h : ofOperands command given = .ok (.execCommand line)) :
    command = .execCommand ∧ ∃ more, given = line :: more := by
  cases reads_of_ofOperands h
  exact ⟨rfl, _, rfl⟩

theorem ofOperands_importUnit {given : List String} {statement : Statement}
    (h : ofOperands .importUnit given = .ok statement) :
    ∃ unit more, given = unit :: more ∧ statement = .importUnit unit := by
  cases reads_of_ofOperands h with
  | importUnit unit more => exact ⟨unit, more, rfl, rfl⟩

theorem ofOperands_input {given : List String} {statement : Statement}
    (h : ofOperands .input given = .ok statement) :
    ∃ prompt target more, given = prompt :: target :: more ∧ statement = .input prompt target := by
  cases reads_of_ofOperands h with
  | input prompt target more => exact ⟨prompt, target, more, rfl, rfl⟩

/-- The built-in commands whose statements have this form. -/
def commands : Statement → List Keyword
  | assign _ (.operand _) => [.load, .store]
  | assign _ (.binary f _ _) => [f.command]
  | assign _ (.unary f _) => [f.command]
  | assign _ (.join _ _) => [.join]
  | assign _ (.textOf _) => [.textOf]
  | assign _ (.numberOf _) => [.numberOf]
  | assign _ .ownStore => [.memory]
  | call _ _ _ => [.call]
  | random _ _ _ => [.random]
  | print _ => [.print]
  | input _ _ => [.input]
  | wait _ => [.wait]
  | clear => [.clear]
  | run _ => [.run]
  | execCommand _ => [.execCommand]
  | importUnit _ => [.importUnit]

theorem mem_commands {command : Keyword} {given : List String} {statement : Statement}
    (h : ofOperands command given = .ok statement) : command ∈ statement.commands := by
  cases reads_of_ofOperands h
  all_goals simp [commands, BinaryFunction.command, UnaryFunction.command]

end Statement

def Expression.words : Expression → List String
  | operand token => [token]
  | binary _ left right => [left, right]
  | unary _ token => [token]
  | join left right => [left, right]
  | textOf name => [name]
  | numberOf name => [name]
  | ownStore => []

namespace Statement

/-- The words of a statement: all that it knows of its operands. -/
def words : Statement → List String
  | assign target expression => target :: expression.words
  | call function arguments target => function :: target :: arguments
  | random low high target => [low, high, target]
  | print value => [value]
  | input prompt target => [prompt, target]
  | wait duration => [duration]
  | clear => []
  | run file => [file]
  | execCommand command => [command]
  | importUnit unit => [unit]

theorem words_subset {command : Keyword} {given : List String} {statement : Statement}
    (h : ofOperands command given = .ok statement) : statement.words ⊆ given := by
  cases reads_of_ofOperands h
  all_goals simp [words, Expression.words]

end Statement

namespace Session

variable {ω : Type}

/-! ## Asking for a script -/

/-- What asking the host for a script comes to, if the statement begins with that. -/
def asks? (tokens : List Token) (s : Session ω) : Option (Ending ω String) :=
  match tokens with
  | head :: file :: more =>
    if head.text = Keyword.run.name ∧ s.registry.contains head.text = false then
      some (((s.note (.performed .run)).noteSurplus .run
        ((file :: more).map (·.text))).readScript (unquote file.text))
    else none
  | _ => none

theorem readScript_eq_ok (s : Session ω) (name text : String) :
    (s.readScript name).1 = .ok text ↔ (s.host.readScript name s.world).result = .ok text := by
  unfold readScript
  dsimp only
  split
  · next found hfound => rw [hfound]; exact Iff.of_eq (by simp)
  · next reason hreason => rw [hreason]; simp

/-- Noting surplus operands changes the journal only. -/
theorem noteSurplus_eq (s : Session ω) (command : Keyword) (given : List String) :
    s.noteSurplus command given = { s with journal := (s.noteSurplus command given).journal } := by
  unfold noteSurplus
  dsimp only
  split <;> rfl

theorem eq_of_asks {tokens : List Token} {s : Session ω} {asked : Ending ω String}
    (h : s.asks? tokens = some asked) :
    ∃ head file more, tokens = head :: file :: more ∧ head.text = Keyword.run.name ∧
      asked = ((s.note (.performed .run)).noteSurplus .run
        ((file :: more).map (·.text))).readScript (unquote file.text) := by
  unfold asks? at h
  split at h
  · next head file more =>
    split at h
    · next hrun => exact ⟨head, file, more, rfl, hrun.1, (Option.some.inj h).symm⟩
    · cases h
  · cases h

/-- What asking comes to is the host's answer. -/
theorem result_of_asks {tokens : List Token} {s t : Session ω} {text : String}
    (h : s.asks? tokens = some (.ok text, t)) :
    ∃ name, (s.host.readScript name s.world).result = .ok text := by
  obtain ⟨head, file, more, -, -, hasked⟩ := eq_of_asks h
  have hresult := (readScript_eq_ok _ _ text).mp (congrArg Prod.fst hasked).symm
  rw [noteSurplus_eq] at hresult
  exact ⟨unquote file.text, hresult⟩

/-- A statement that has nothing more to do. -/
def executed (_ : Unit) (s : Session ω) : Ending ω Outcome :=
  (.ok .executed, s)

theorem snd_andThen_executed (ending : Ending ω Unit) :
    (ending.andThen executed).2 = ending.2 :=
  Ending.snd_andThen_ok ending Outcome.executed

theorem perform_of_ne_run (nested nested' : String → Session ω → Ending ω Unit)
    (statement : Statement) (h : ∀ file, statement ≠ .run file) (s : Session ω) :
    perform nested statement s = perform nested' statement s := by
  cases statement with
  | run file => exact absurd rfl (h file)
  | _ => rfl

theorem executeWith_of_asks (nested : String → Session ω → Ending ω Unit) (tokens : List Token)
    (s : Session ω) (asked : Ending ω String) (h : s.asks? tokens = some asked) :
    executeWith nested tokens s = (asked.andThen nested).andThen executed := by
  unfold asks? at h
  split at h
  · next head file more =>
    split at h
    · next hrun =>
      obtain ⟨hname, hfree⟩ := hrun
      have hcommand : Keyword.ofName? head.text = some .run := by
        rw [hname]; exact Keyword.ofName?_name .run
      obtain rfl := Option.some.inj h
      simp only [executeWith, hfree, hcommand]
      rfl
    · cases h
  · cases h

/-- A RUN statement with an operand asks for a script. -/
theorem ne_run_of_not_asks (s : Session ω) (head : Token) (rest : List Token) (command : Keyword)
    (h : s.asks? (head :: rest) = none) (hfree : ¬ s.registry.contains head.text = true)
    (hcommand : Keyword.ofName? head.text = some command) (file : String) :
    Statement.ofOperands command (rest.map (·.text)) ≠ .ok (.run file) := by
  intro hrun
  obtain ⟨rfl, more, hmore⟩ := Statement.ofOperands_eq_run hrun
  have hname := Keyword.ofName?_eq_some_iff.mp hcommand
  cases rest with
  | nil => cases hmore
  | cons token more => simp [asks?, hname, hfree] at h

theorem executeWith_of_not_asks (nested nested' : String → Session ω → Ending ω Unit)
    (tokens : List Token) (s : Session ω) (h : s.asks? tokens = none) :
    executeWith nested tokens s = executeWith nested' tokens s := by
  cases tokens with
  | nil => rfl
  | cons head rest =>
    unfold executeWith
    dsimp only
    split
    · rfl
    · next hfree =>
      split
      · next command hcommand =>
        congr 1
        unfold runBuiltIn
        dsimp only
        split
        · next statement hstatement =>
          apply perform_of_ne_run
          rintro file rfl
          exact ne_run_of_not_asks s head rest command h hfree hcommand file hstatement
        · rfl
      · rfl

theorem runLineWith_of_tokens (nested : String → Session ω → Ending ω Unit) (line : String)
    (tokens : List Token) (s : Session ω) (h : tokenize line = .ok tokens) :
    runLineWith nested line s = executeWith nested tokens (s.note (.scanned tokens)) := by
  simp only [runLineWith, h]

end Session

end LineScript
