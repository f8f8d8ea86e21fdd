import LineScript.Catalog.ExtensionUnit
import LineScript.Text.Case
import LineScript.Text.Blank

/-!
The unit `text`: UPPER, LOWER, TRIM and LENGTH of one text.
-/

namespace LineScript

def textOperation (name : String) (f : String → Value) : String × Operation :=
  (name,
    { arity := .exact 1
      origin := .bundled
      apply := fun _ arguments => do
        let s ← textArgument name (← argument arguments 0)
        return some (f s) })

def textUnit : ExtensionUnit where
  operations := [
    textOperation "UPPER" fun s => .text (Text.upper s),
    textOperation "LOWER" fun s => .text (Text.lower s),
    textOperation "TRIM" fun s => .text (Text.trim s),
    textOperation "LENGTH" fun s => .number (Float.ofNat s.length)]
  failure := none

theorem textUnit_leavesStores : textUnit.LeavesStores := by
  intro entry hentry
  simp only [textUnit, List.mem_cons, List.not_mem_nil, or_false] at hentry
  rcases hentry with rfl | rfl | rfl | rfl <;> exact fun _ _ => rfl

end LineScript
