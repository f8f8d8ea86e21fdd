import LineScript.Value
import Std.Data.ExtTreeMap

/-!
Stores of variables.  A store binds names to values; a handle is the number of a store, and all
its holders see the same bindings.

Main statements: reading after writing or clearing through the same handle (`get?_set_self`,
`get?_clear_self`), and that other stores do not notice (`get?_set_of_ne`, `get?_clear_of_ne`).
-/

namespace LineScript

/-- The bindings of one store, in the order of their names. -/
abbrev Bindings := Std.ExtTreeMap String Value

/-- All stores; the handle of a store is its place. -/
structure Heap where
  stores : List Bindings

namespace Heap

def empty : Heap := ⟨[]⟩

/-- Makes a store without bindings. -/
def allocate (heap : Heap) : Heap × StoreId :=
  (⟨heap.stores ++ [∅]⟩, heap.stores.length)

def bindings (heap : Heap) (store : StoreId) : Bindings :=
  heap.stores[store]?.getD ∅

def update (heap : Heap) (store : StoreId) (change : Bindings → Bindings) : Heap :=
  ⟨heap.stores.modify store change⟩

/-- What the name is bound to. -/
def get? (heap : Heap) (store : StoreId) (name : String) : Option Value :=
  (heap.bindings store)[name]?

/-- What the name reads as: an unbound name is zero. -/
def lookup (heap : Heap) (store : StoreId) (name : String) : Value :=
  (heap.get? store name).getD .zero

/-- Binds the name, in place of what it was bound to. -/
def set (heap : Heap) (store : StoreId) (name : String) (value : Value) : Heap :=
  heap.update store (·.insert name value)

def clear (heap : Heap) (store : StoreId) : Heap :=
  heap.update store fun _ => ∅

def contains (heap : Heap) (store : StoreId) (name : String) : Bool :=
  (heap.bindings store).contains name

/-- The bound names in increasing order. -/
def names (heap : Heap) (store : StoreId) : List String :=
  (heap.bindings store).keys

def size (heap : Heap) (store : StoreId) : Nat :=
  (heap.bindings store).size

/-! ## Reading after writing -/

theorem bindings_update_self {heap : Heap} {store : StoreId} (change : Bindings → Bindings)
    (h : store < heap.stores.length) :
    (heap.update store change).bindings store = change (heap.bindings store) := by
  simp [bindings, update, h]

theorem bindings_update_of_ne {heap : Heap} {store other : StoreId}
    (change : Bindings → Bindings) (h : store ≠ other) :
    (heap.update store change).bindings other = heap.bindings other := by
  simp [bindings, update, h]

theorem get?_set_self {heap : Heap} {store : StoreId} (name other : String) (value : Value)
    (h : store < heap.stores.length) :
    (heap.set store name value).get? store other =
      if name = other then some value else heap.get? store other := by
  simp [get?, set, bindings_update_self _ h, Std.ExtTreeMap.getElem?_insert]

theorem get?_clear_self {heap : Heap} {store : StoreId} (name : String)
    (h : store < heap.stores.length) : (heap.clear store).get? store name = none := by
  simp [get?, clear, bindings_update_self _ h]

theorem get?_set_of_ne {heap : Heap} {store other : StoreId} (name name' : String)
    (value : Value) (h : store ≠ other) :
    (heap.set store name value).get? other name' = heap.get? other name' := by
  simp [get?, set, bindings_update_of_ne _ h]

theorem get?_clear_of_ne {heap : Heap} {store other : StoreId} (name : String)
    (h : store ≠ other) : (heap.clear store).get? other name = heap.get? other name := by
  simp [get?, clear, bindings_update_of_ne _ h]

end Heap

end LineScript
