import Mathlib.Logic.Relation
import LineScript.Store.Render

/-!
Stores that hold stores, and the texts of both.

The text of a store is made of the texts of the stores that it holds (`renderIn_of_not_mem`).  So it
depends on the bindings of the stores that can be come to from it, and on nothing else
(`renderIn_congr`).
-/

namespace LineScript

/-! ## The text of bindings -/

/-- What the value is written as among the bindings of its store, `inner` giving the texts of
stores. -/
def Value.textWith (inner : StoreId → String) : Value → String
  | text chars => "'" ++ chars ++ "'"
  | number x => formatNumber x
  | mapping store => inner store

def bindingText (inner : StoreId → String) (entry : String × Value) : String :=
  "'" ++ entry.1 ++ "': " ++ entry.2.textWith inner

def bindingsText (inner : StoreId → String) (bindings : Bindings) : String :=
  "\x7b" ++ ", ".intercalate (bindings.toList.map (bindingText inner)) ++ "\x7d"

/-- Only the texts of the stores that are held matter. -/
theorem bindingsText_congr {inner inner' : StoreId → String} {bindings : Bindings}
    (h : ∀ (name : String) store,
      bindings[name]? = some (.mapping store) → inner' store = inner store) :
    bindingsText inner' bindings = bindingsText inner bindings := by
  refine congrArg (fun texts => "\x7b" ++ ", ".intercalate texts ++ "\x7d")
    (List.map_congr_left ?_)
  rintro ⟨name, value⟩ hmem
  have hbound : bindings[name]? = some value :=
    Std.ExtTreeMap.mem_toList_iff_getElem?_eq_some.mp hmem
  cases value with
  | text chars => rfl
  | number x => rfl
  | mapping store => exact congrArg ("'" ++ name ++ "': " ++ ·) (h name store hbound)

namespace Heap

/-! ## Stores inside of stores -/

/-- A variable of `outer` holds the store `inner`. -/
def Holds (heap : Heap) (outer inner : StoreId) : Prop :=
  ∃ name, heap.get? outer name = some (.mapping inner)

/-- `inner` can be come to from `outer`, from store to store. -/
def Reaches (heap : Heap) : StoreId → StoreId → Prop :=
  Relation.ReflTransGen heap.Holds

theorem bindings_of_le {heap : Heap} {store : StoreId} (h : heap.stores.length ≤ store) :
    heap.bindings store = ∅ := by
  simp [bindings, h]

/-- A store that is being written already is cut short. -/
theorem renderIn_of_mem (heap : Heap) {path : List StoreId} {store : StoreId} (h : store ∈ path) :
    heap.renderIn path store = "\x7b...\x7d" := by
  rw [renderIn, dif_pos h]

/-- Any other store is written with all its bindings, itself being open then. -/
theorem renderIn_of_not_mem (heap : Heap) {path : List StoreId} {store : StoreId}
    (h : store ∉ path) :
    heap.renderIn path store =
      bindingsText (heap.renderIn (store :: path)) (heap.bindings store) := by
  rw [renderIn, dif_neg h]
  by_cases hplace : store < heap.stores.length
  · rw [dif_pos hplace]
    refine congrArg (fun texts => "\x7b" ++ ", ".intercalate texts ++ "\x7d")
      (List.map_congr_left ?_)
    rintro ⟨name, value⟩ -
    cases value <;> rfl
  · rw [dif_neg hplace, bindings_of_le (Nat.le_of_not_lt hplace)]
    rfl

/-- **What a text depends on.**  Only the bindings of the stores that can be come to. -/
theorem renderIn_congr {heap heap' : Heap} (path : List StoreId) (store : StoreId)
    (h : ∀ inner, heap.Reaches store inner → heap'.bindings inner = heap.bindings inner) :
    heap'.renderIn path store = heap.renderIn path store := by
  induction path, store using Heap.renderIn.induct heap with
  | case1 path store hopen => rw [renderIn_of_mem _ hopen, renderIn_of_mem _ hopen]
  | case2 path store hopen _ _ ih =>
    rw [renderIn_of_not_mem _ hopen, renderIn_of_not_mem _ hopen, h store .refl]
    refine bindingsText_congr fun name inner hbound => ?_
    exact ih inner fun next hnext => h next (.head ⟨name, hbound⟩ hnext)
  | case3 path store hopen hplace =>
    have hnothing : heap.bindings store = ∅ := bindings_of_le (Nat.le_of_not_lt hplace)
    rw [renderIn_of_not_mem _ hopen, renderIn_of_not_mem _ hopen, h store .refl]
    refine bindingsText_congr fun name inner hbound => ?_
    rw [hnothing, Std.ExtTreeMap.getElem?_empty] at hbound
    cases hbound

end Heap

end LineScript
