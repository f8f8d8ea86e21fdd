import LineScript.Catalog.ExtensionUnit

/-!
The unit `math`: DOUBLE, POW, and the extremes MIN and MAX of any number of numbers.  NaN is no
extreme unless there is nothing else to compare; then the result is the start of the fold.
-/

namespace LineScript

/-- The smaller number; the first one if the second is NaN or equal. -/
def smaller (a b : Float) : Float :=
  if b < a then b else a

/-- The larger number; the first one if the second is NaN or equal. -/
def larger (a b : Float) : Float :=
  if a < b then b else a

/-- Folds numbers from a start value; the first argument that is no number fails. -/
def foldNumbers (name : String) (f : Float → Float → Float) :
    Float → List Value → Except String Float
  | best, [] => .ok best
  | best, value :: rest => do
    let x ← numberArgument name value
    foldNumbers name f (f best x) rest

def infinity : Float := 1.0 / 0.0

def mathUnit : ExtensionUnit where
  operations := [
    ("DOUBLE",
      { arity := .exact 1
        origin := .bundled
        apply := fun _ arguments => do
          let x ← numberArgument "DOUBLE" (← argument arguments 0)
          return some (.number (2.0 * x)) }),
    ("POW",
      { arity := .exact 2
        origin := .bundled
        apply := fun _ arguments => do
          let base ← numberArgument "POW" (← argument arguments 0)
          let power ← numberArgument "POW" (← argument arguments 1)
          return some (.number (Float.pow base power)) }),
    ("MIN",
      { arity := .atLeast 1
        origin := .bundled
        apply := fun _ arguments => do
          return some (.number (← foldNumbers "MIN" smaller infinity arguments)) }),
    ("MAX",
      { arity := .atLeast 1
        origin := .bundled
        apply := fun _ arguments => do
          return some (.number (← foldNumbers "MAX" larger (-infinity) arguments)) })]
  failure := none

theorem mathUnit_leavesStores : mathUnit.LeavesStores := by
  intro entry hentry
  simp only [mathUnit, List.mem_cons, List.not_mem_nil, or_false] at hentry
  rcases hentry with rfl | rfl | rfl | rfl <;> exact fun _ _ => rfl

end LineScript
