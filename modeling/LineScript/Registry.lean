import LineScript.Operation

/-!
The operations that programs can call, by name.  A name is never removed; adding an operation
under a registered name replaces the operation.
-/

namespace LineScript

/-- Operations by name, in the order of the names. -/
abbrev Registry := Std.ExtTreeMap String Operation

namespace Registry

def register (registry : Registry) (name : String) (operation : Operation) : Registry :=
  registry.insert name operation

def lookup (registry : Registry) (name : String) : Option Operation :=
  registry[name]?

def call (registry : Registry) (heap : Heap) (name : String) (arguments : List Value) :
    CallReport :=
  match registry.lookup name with
  | some operation => operation.call name heap arguments
  | none => { applications := [], result := .error .notRegistered, heap := heap }

def LeavesStores (registry : Registry) : Prop :=
  ∀ name operation, registry.lookup name = some operation → operation.LeavesStores

theorem lookup_register (registry : Registry) (name other : String) (operation : Operation) :
    (registry.register name operation).lookup other =
      if name = other then some operation else registry.lookup other := by
  simp [register, lookup, Std.ExtTreeMap.getElem?_insert]

theorem accepts_of_mem_call {registry : Registry} {heap : Heap} {name : String}
    {arguments : List Value} {a : Application}
    (h : a ∈ (registry.call heap name arguments).applications) :
    a.arity.accepts a.arguments.length = true := by
  unfold call at h
  split at h
  · exact Operation.accepts_of_mem_call h
  · cases h

theorem LeavesStores.heap_call {registry : Registry} (h : registry.LeavesStores) (heap : Heap)
    (name : String) (arguments : List Value) :
    (registry.call heap name arguments).heap = heap := by
  unfold call
  split
  · next operation hoperation => exact (h name operation hoperation).heap_call name heap arguments
  · rfl

theorem leavesStores_empty : LeavesStores ∅ := by
  intro name operation h
  simp [lookup] at h

theorem LeavesStores.register {registry : Registry} (h : registry.LeavesStores) (name : String)
    {operation : Operation} (hoperation : operation.LeavesStores) :
    (registry.register name operation).LeavesStores := by
  intro other found hfound
  rw [lookup_register] at hfound
  split at hfound
  · obtain rfl := Option.some.inj hfound
    exact hoperation
  · exact h other found hfound

end Registry

end LineScript
