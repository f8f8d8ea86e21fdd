import LineScript.Session
import LineScript.Statement

/-!
The values of expressions.  An expression reads the variables and changes nothing.
-/

namespace LineScript

def BinaryFunction.command : BinaryFunction → Keyword
  | add => .add
  | subtract => .subtract
  | multiply => .multiply
  | divide => .divide

/-- The function at two numbers.  Only division has arguments that it refuses. -/
def BinaryFunction.apply (f : BinaryFunction) (a b : Float) : Except Fault Float :=
  match f with
  | add => .ok (a + b)
  | subtract => .ok (a - b)
  | multiply => .ok (a * b)
  | divide => if b == 0.0 then .error .divisionByZero else .ok (a / b)

def UnaryFunction.command : UnaryFunction → Keyword
  | sqrt => .sqrt
  | abs => .abs
  | floor => .floor
  | ceiling => .ceiling

/-- The function at a number.  There is no root of a negative number; minus zero is its own. -/
def UnaryFunction.apply (f : UnaryFunction) (x : Float) : Except Fault Float :=
  match f with
  | sqrt => if x < 0.0 then .error (.mathDomain .sqrt x) else .ok x.sqrt
  | abs => .ok x.abs
  | floor => .ok x.floor
  | ceiling => .ok x.ceil

/-- The value as a number for the command. -/
def numberFor (command : Keyword) (value : Value) : Except Fault Float :=
  match value.asNumber? with
  | some x => .ok x
  | none => .error (.notANumber command value.typeName)

/-- The number that a value is or writes; white space around a written number is ignored. -/
def numberOf (value : Value) : Except Fault Float :=
  match value with
  | .number x => .ok x
  | .text s =>
    match Decimal.readNumber? (Text.trim s) with
    | some x => .ok x
    | none => .error (.notNumeric s)
  | .mapping _ => .error .mappingNotNumeric

/-- The value of an expression over the variables of a store.  Of two operands that are no
numbers the left one is reported. -/
def Expression.evaluate (heap : Heap) (own : StoreId) : Expression → Except Fault Value
  | operand token => .ok (heap.resolve own token)
  | binary f left right => do
    let a ← numberFor f.command (heap.resolve own left)
    let b ← numberFor f.command (heap.resolve own right)
    return .number (← f.apply a b)
  | unary f token => do
    let x ← numberFor f.command (heap.resolve own token)
    return .number (← f.apply x)
  | join left right =>
    .ok (.text (heap.display (heap.resolve own left) ++ heap.display (heap.resolve own right)))
  | textOf name =>
    .ok (.text (match heap.get? own name with
      | some value => heap.display value
      | none => ""))
  | numberOf name => do
    return .number (← LineScript.numberOf (heap.lookup own name))
  | ownStore => .ok (.mapping own)

end LineScript
