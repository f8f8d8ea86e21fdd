import LineScript.Store.Render

/-!
Operations: functions on values that run under a name, each with the number of arguments that it
takes.  Main statement: an operation is applied only to as many arguments as it accepts
(`Operation.accepts_of_mem_call`).
-/

namespace LineScript

/-! ## Arities -/

inductive Arity
  | exact (count : Nat)
  | atLeast (count : Nat)
  | any
deriving DecidableEq, Repr

namespace Arity

def accepts : Arity → Nat → Bool
  | exact n, count => count == n
  | atLeast n, count => n ≤ count
  | any, _ => true

/-- The number in words, as messages have it. -/
def text : Arity → String
  | exact n => toString n
  | atLeast n => "at least " ++ toString n
  | any => "any number of"

/-- The arity as descriptions of operations have it. -/
def describe : Arity → String
  | exact n => "Exact(" ++ toString n ++ ")"
  | atLeast n => "AtLeast(" ++ toString n ++ ")"
  | any => "Any"

end Arity

/-! ## Operations -/

inductive Origin
  /-- It comes with the library. -/
  | bundled
  /-- The program around the interpreter added it. -/
  | embedder
deriving DecidableEq, Repr

/-- A function on values.  It may read and change stores through their handles; it gives a value,
no value, or the reason for which it fails. -/
structure Operation where
  arity : Arity
  origin : Origin
  apply : Heap → List Value → Except String (Option Value)
  /-- The stores after it was applied, whether or not it failed. -/
  effect : Heap → List Value → Heap := fun heap _ => heap

def Operation.LeavesStores (operation : Operation) : Prop :=
  ∀ heap arguments, operation.effect heap arguments = heap

def Operation.describe (operation : Operation) : String :=
  "Operation \x7b arity: " ++ operation.arity.describe ++ ", .. \x7d"

structure Application where
  name : String
  origin : Origin
  arity : Arity
  arguments : List Value

/-- Why a call has no result. -/
inductive CallFailure
  | notRegistered
  | wrongCount (expected : Arity) (got : Nat)
  | failed (reason : String)

def CallFailure.message : CallFailure → String
  | notRegistered => "function is not registered"
  | wrongCount expected got =>
    "expected " ++ expected.text ++ " argument(s), got " ++ toString got
  | failed reason => reason

/-- What a call did: the applications it made, its result, and the stores after it. -/
structure CallReport where
  applications : List Application
  result : Except CallFailure (Option Value)
  heap : Heap

/-- Calls the operation under a name.  The arguments are counted before anything is applied. -/
def Operation.call (operation : Operation) (name : String) (heap : Heap)
    (arguments : List Value) : CallReport :=
  if operation.arity.accepts arguments.length then
    { applications := [⟨name, operation.origin, operation.arity, arguments⟩]
      result := match operation.apply heap arguments with
        | .ok value => .ok value
        | .error reason => .error (.failed reason)
      heap := operation.effect heap arguments }
  else
    { applications := []
      result := .error (.wrongCount operation.arity arguments.length)
      heap := heap }

theorem Operation.accepts_of_mem_call {operation : Operation} {name : String} {heap : Heap}
    {arguments : List Value} {a : Application}
    (h : a ∈ (operation.call name heap arguments).applications) :
    a.arity.accepts a.arguments.length = true := by
  unfold Operation.call at h
  split at h
  · next accepted =>
    obtain rfl := List.mem_singleton.mp h
    exact accepted
  · cases h

theorem Operation.LeavesStores.heap_call {operation : Operation} (h : operation.LeavesStores)
    (name : String) (heap : Heap) (arguments : List Value) :
    (operation.call name heap arguments).heap = heap := by
  unfold Operation.call
  split
  · exact h heap arguments
  · rfl

end LineScript
