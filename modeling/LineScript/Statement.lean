import LineScript.Fault

/-!
Statements of the built-in commands.  Most of them compute a value and bind it to a name; the
others act on the console, the host or the session.

A command drops the operands that it does not read (`Keyword.kept`), puts the others into its
fields (`Keyword.fill`) and reads these by their names (`Statement.ofFilled`).  Main statements: each
field gets the operand in its place (`Statement.ofOperands_eq_ok_iff`), and the operands behind those
of all fields do not matter (`Statement.ofOperands_take`).
-/

namespace LineScript

inductive BinaryFunction
  | add | subtract | multiply | divide
deriving DecidableEq, Repr

inductive UnaryFunction
  | sqrt | abs | floor | ceiling
deriving DecidableEq, Repr

/-- A value that is computed from variables alone. -/
inductive Expression
  /-- What the token stands for. -/
  | operand (token : String)
  | binary (function : BinaryFunction) (left right : String)
  | unary (function : UnaryFunction) (operand : String)
  /-- The texts of two values, one behind the other. -/
  | join (left right : String)
  /-- The text of a variable. -/
  | textOf (name : String)
  /-- The number that a variable is or writes. -/
  | numberOf (name : String)
  /-- The store of the variables itself. -/
  | ownStore
deriving DecidableEq, Repr

inductive Statement
  | assign (target : String) (value : Expression)
  | call (function : String) (arguments : List String) (target : String)
  | random (low high target : String)
  | print (value : String)
  | input (prompt target : String)
  | wait (duration : String)
  | clear
  | run (file : String)
  | execCommand (command : String)
  | importUnit (unit : String)
deriving DecidableEq, Repr

namespace Keyword

/-- How many operands the command reads; further ones are dropped.  A call gets all of them. -/
def operandCount? : Keyword → Option Nat
  | clear => some 0
  | print | wait | memory | run | execCommand | importUnit => some 1
  | load | store | sqrt | abs | floor | ceiling | textOf | numberOf | input => some 2
  | add | subtract | multiply | divide | join | random => some 3
  | call => none

/-- The fields that operands are put into, in order.  Behind its field a call has a list for all
further ones. -/
def operands : Keyword → List String
  | load => ["value", "target"]
  | store => ["target", "value"]
  | add | subtract | multiply | divide | join => ["a", "b", "target"]
  | sqrt | abs | floor | ceiling => ["a", "target"]
  | textOf | numberOf => ["source", "target"]
  | random => ["min", "max", "target"]
  | print => ["value"]
  | input => ["prompt", "target"]
  | wait => ["duration"]
  | clear => []
  | memory => ["target"]
  | run => ["file"]
  | execCommand => ["command"]
  | importUnit => ["module"]
  | call => ["function"]

theorem operandCount?_eq {command : Keyword} (h : command ≠ call) :
    command.operandCount? = some command.operands.length := by
  cases command <;> first | rfl | exact absurd rfl h

/-- The given operands that the command reads. -/
def kept (command : Keyword) (given : List String) : List String :=
  match command.operandCount? with
  | some count => given.take count
  | none => given

/-- The given operands that the command does not read. -/
def surplus (command : Keyword) (given : List String) : List String :=
  match command.operandCount? with
  | some count => given.drop count
  | none => []

end Keyword

/-- Operands in the fields of a command. -/
structure Filled where
  fields : List (String × String)
  /-- The operands behind those in the fields. -/
  more : List String

/-- What stands in a field. -/
def Filled.field (filled : Filled) (name : String) : String :=
  (filled.fields.lookup name).getD ""

/-- Puts operands into the fields of a command.  If there are too few, the fault names the fields
that stay empty. -/
def Keyword.fill (command : Keyword) (given : List String) : Except Fault Filled :=
  match command.operands.drop given.length with
  | [] => .ok ⟨command.operands.zip given, given.drop command.operands.length⟩
  | missing => .error (.missingOperands command missing)

namespace Statement

/-- The statement of a command with these fields.  The last one of the further operands of a call
names the result, those in front of it are the arguments. -/
def ofFilled (command : Keyword) (filled : Filled) : Except Fault Statement :=
  let field := filled.field
  match command with
  | .load | .store => .ok (.assign (field "target") (.operand (field "value")))
  | .add => .ok (.assign (field "target") (.binary .add (field "a") (field "b")))
  | .subtract => .ok (.assign (field "target") (.binary .subtract (field "a") (field "b")))
  | .multiply => .ok (.assign (field "target") (.binary .multiply (field "a") (field "b")))
  | .divide => .ok (.assign (field "target") (.binary .divide (field "a") (field "b")))
  | .join => .ok (.assign (field "target") (.join (field "a") (field "b")))
  | .sqrt => .ok (.assign (field "target") (.unary .sqrt (field "a")))
  | .abs => .ok (.assign (field "target") (.unary .abs (field "a")))
  | .floor => .ok (.assign (field "target") (.unary .floor (field "a")))
  | .ceiling => .ok (.assign (field "target") (.unary .ceiling (field "a")))
  | .textOf => .ok (.assign (field "target") (.textOf (field "source")))
  | .numberOf => .ok (.assign (field "target") (.numberOf (field "source")))
  | .memory => .ok (.assign (field "target") .ownStore)
  | .random => .ok (.random (field "min") (field "max") (field "target"))
  | .print => .ok (.print (field "value"))
  | .input => .ok (.input (field "prompt") (field "target"))
  | .wait => .ok (.wait (field "duration"))
  | .clear => .ok .clear
  | .run => .ok (.run (field "file"))
  | .execCommand => .ok (.execCommand (field "command"))
  | .importUnit => .ok (.importUnit (field "module"))
  | .call =>
    match filled.more.getLast? with
    | none => .error .missingResult
    | some target => .ok (.call (field "function") filled.more.dropLast target)

/-- The statement of a command with these operands: those that the command reads are put into its
fields. -/
def ofOperands (command : Keyword) (given : List String) : Except Fault Statement :=
  match command.fill (command.kept given) with
  | .ok filled => ofFilled command filled
  | .error fault => .error fault

/-! ## Operands in their places -/

/-- The statements that commands are with operands in these places. -/
inductive Reads : Keyword → List String → Statement → Prop
  | load (value target : String) (more : List String) :
      Reads .load (value :: target :: more) (.assign target (.operand value))
  | store (target value : String) (more : List String) :
      Reads .store (target :: value :: more) (.assign target (.operand value))
  | add (a b target : String) (more : List String) :
      Reads .add (a :: b :: target :: more) (.assign target (.binary .add a b))
  | subtract (a b target : String) (more : List String) :
      Reads .subtract (a :: b :: target :: more) (.assign target (.binary .subtract a b))
  | multiply (a b target : String) (more : List String) :
      Reads .multiply (a :: b :: target :: more) (.assign target (.binary .multiply a b))
  | divide (a b target : String) (more : List String) :
      Reads .divide (a :: b :: target :: more) (.assign target (.binary .divide a b))
  | join (a b target : String) (more : List String) :
      Reads .join (a :: b :: target :: more) (.assign target (.join a b))
  | sqrt (a target : String) (more : List String) :
      Reads .sqrt (a :: target :: more) (.assign target (.unary .sqrt a))
  | abs (a target : String) (more : List String) :
      Reads .abs (a :: target :: more) (.assign target (.unary .abs a))
  | floor (a target : String) (more : List String) :
      Reads .floor (a :: target :: more) (.assign target (.unary .floor a))
  | ceiling (a target : String) (more : List String) :
      Reads .ceiling (a :: target :: more) (.assign target (.unary .ceiling a))
  | textOf (source target : String) (more : List String) :
      Reads .textOf (source :: target :: more) (.assign target (.textOf source))
  | numberOf (source target : String) (more : List String) :
      Reads .numberOf (source :: target :: more) (.assign target (.numberOf source))
  | memory (target : String) (more : List String) :
      Reads .memory (target :: more) (.assign target .ownStore)
  | random (low high target : String) (more : List String) :
      Reads .random (low :: high :: target :: more) (.random low high target)
  | print (value : String) (more : List String) : Reads .print (value :: more) (.print value)
  | input (prompt target : String) (more : List String) :
      Reads .input (prompt :: target :: more) (.input prompt target)
  | wait (duration : String) (more : List String) :
      Reads .wait (duration :: more) (.wait duration)
  | clear (more : List String) : Reads .clear more .clear
  | run (file : String) (more : List String) : Reads .run (file :: more) (.run file)
  | execCommand (line : String) (more : List String) :
      Reads .execCommand (line :: more) (.execCommand line)
  | importUnit (unit : String) (more : List String) :
      Reads .importUnit (unit :: more) (.importUnit unit)
  | call (function : String) (arguments : List String) (target : String) :
      Reads .call (function :: (arguments ++ [target])) (.call function arguments target)

/-- All operands of a call but the first one are further operands. -/
theorem ofOperands_call_cons (function : String) (given : List String) :
    ofOperands .call (function :: given) =
      match given.getLast? with
      | none => .error .missingResult
      | some target => .ok (.call function given.dropLast target) := by
  simp [ofOperands, Keyword.kept, Keyword.operandCount?, Keyword.fill, Keyword.operands, ofFilled,
    Filled.field]

theorem ofOperands_of_reads {command : Keyword} {given : List String} {statement : Statement}
    (h : Reads command given statement) : ofOperands command given = .ok statement := by
  cases h with
  | call function arguments target =>
    rw [ofOperands_call_cons, List.getLast?_concat, List.dropLast_concat]
  | _ => rfl

theorem reads_of_ofOperands {command : Keyword} {given : List String} {statement : Statement}
    (h : ofOperands command given = .ok statement) : Reads command given statement := by
  rcases given with _ | ⟨a, rest⟩
  · cases command <;> cases h
    exact .clear []
  by_cases hcall : command = .call
  · subst hcall
    rw [ofOperands_call_cons] at h
    split at h
    · cases h
    · next target hlast =>
      cases h
      obtain ⟨arguments, rfl⟩ := List.getLast?_eq_some_iff.mp hlast
      rw [List.dropLast_concat]
      exact .call a arguments target
  · rcases rest with _ | ⟨b, _ | ⟨c, rest⟩⟩ <;> cases command <;>
      first
        | exact absurd rfl hcall
        | (cases h; constructor)
        | cases h

/-- **Operands.**  Cutting off the surplus and putting the others into fields gives each field the
operand in its place. -/
theorem ofOperands_eq_ok_iff {command : Keyword} {given : List String} {statement : Statement} :
    ofOperands command given = .ok statement ↔ Reads command given statement :=
  ⟨reads_of_ofOperands, ofOperands_of_reads⟩

/-- The faults of a statement that has too few operands. -/
theorem fault_of_ofOperands {command : Keyword} {given : List String} {fault : Fault}
    (h : ofOperands command given = .error fault) :
    (∃ fields, fault = .missingOperands command fields) ∨
      (command = .call ∧ fault = .missingResult) := by
  unfold ofOperands at h
  split at h
  · next filled hfilled =>
    cases command with
    | call =>
      unfold ofFilled at h
      dsimp only at h
      split at h
      · exact .inr ⟨rfl, (Except.error.inj h).symm⟩
      · cases h
    | _ => cases h
  · next other hother =>
    obtain rfl := Except.error.inj h
    unfold Keyword.fill at hother
    split at hother
    · cases hother
    · next missing hmissing => exact .inl ⟨_, (Except.error.inj hother).symm⟩

/-- Only the operands that a command reads decide what it does. -/
theorem ofOperands_kept (command : Keyword) (given : List String) :
    ofOperands command (command.kept given) = ofOperands command given := by
  have hkept : command.kept (command.kept given) = command.kept given := by
    unfold Keyword.kept
    cases command.operandCount? with
    | some count => exact List.take_of_length_le (List.length_take_le count given)
    | none => rfl
  rw [ofOperands, hkept]
  rfl

/-- Only the operands that a command has decide what it does. -/
theorem ofOperands_take {command : Keyword} (given : List String) (h : command ≠ .call) :
    ofOperands command (given.take command.operands.length) = ofOperands command given := by
  have hkept : command.kept given = given.take command.operands.length := by
    unfold Keyword.kept
    rw [Keyword.operandCount?_eq h]
  rw [← hkept, ofOperands_kept]

end Statement

end LineScript
