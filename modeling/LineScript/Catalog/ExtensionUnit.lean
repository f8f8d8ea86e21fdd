import LineScript.Registry

/-!
Extension units: operations that are registered together.
-/

namespace LineScript

/-- A list of operations.  A unit that fails does so after all of them are registered. -/
structure ExtensionUnit where
  operations : List (String × Operation)
  failure : Option String

/-- The registry with the unit's operations, the later of two under one name winning. -/
def ExtensionUnit.registerAll (unit : ExtensionUnit) (registry : Registry) : Registry :=
  unit.operations.foldl (fun r entry => r.register entry.1 entry.2) registry

def ExtensionUnit.LeavesStores (unit : ExtensionUnit) : Prop :=
  ∀ entry ∈ unit.operations, entry.2.LeavesStores

theorem Registry.LeavesStores.registerAll {registry : Registry} (h : registry.LeavesStores)
    {unit : ExtensionUnit} (hunit : unit.LeavesStores) :
    (unit.registerAll registry).LeavesStores := by
  unfold ExtensionUnit.registerAll
  obtain ⟨operations, failure⟩ := unit
  induction operations generalizing registry with
  | nil => exact h
  | cons entry rest ih =>
    obtain ⟨hfirst, hrest⟩ := List.forall_mem_cons.mp hunit
    exact ih (h.register entry.1 hfirst) hrest

/-! ## Reading arguments -/

/-- The argument at a place, counted from zero. -/
def argument (arguments : List Value) (place : Nat) : Except String Value :=
  match arguments[place]? with
  | some value => .ok value
  | none => .error ("argument " ++ toString place ++ " is missing")

def textArgument (name : String) (value : Value) : Except String String :=
  match value with
  | .text s => .ok s
  | _ => .error (name ++ " expects a string, got " ++ value.typeName)

def numberArgument (name : String) (value : Value) : Except String Float :=
  match value with
  | .number x => .ok x
  | _ => .error (name ++ " expects a number, got " ++ value.typeName)

end LineScript
