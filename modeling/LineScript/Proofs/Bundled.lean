import LineScript.Catalog
import LineScript.Keyword

/-!
The units that come with the library.

Their operations neither look at stores nor change them (`bundled_isPlain`), give no store whatever
they are applied to (`givesNoStore_of_bundled`), and have names that no built-in command has
(`ofName?_of_bundled`).
-/

namespace LineScript

/-- The value is no store. -/
def Value.IsPlain : Value → Prop
  | text _ | number _ => True
  | mapping _ => False

/-- The operation changes no store, and on arguments that are no stores it depends on nothing else
and gives no store. -/
structure Operation.IsPlain (operation : Operation) : Prop where
  leavesStores : operation.LeavesStores
  apply_eq : ∀ (h k : Heap) (arguments : List Value), (∀ v ∈ arguments, v.IsPlain) →
    operation.apply k arguments = operation.apply h arguments
  value : ∀ (h : Heap) (arguments : List Value), (∀ v ∈ arguments, v.IsPlain) →
    ∀ v, operation.apply h arguments = .ok (some v) → v.IsPlain

def Operation.GivesNoStore (operation : Operation) : Prop :=
  ∀ (heap : Heap) (arguments : List Value) (v : Value),
    operation.apply heap arguments = .ok (some v) → v.IsPlain

theorem textOperation_givesNoStore (name : String) (f : String → Value)
    (hf : ∀ s, (f s).IsPlain) : (textOperation name f).2.GivesNoStore := by
  intro heap arguments v hv
  simp only [textOperation, bind, Except.bind] at hv
  repeat' split at hv
  all_goals cases hv
  exact hf _

theorem textUnit_givesNoStore : ∀ entry ∈ textUnit.operations, entry.2.GivesNoStore := by
  simp only [textUnit, List.forall_mem_cons]
  exact ⟨textOperation_givesNoStore _ _ fun _ => trivial,
    textOperation_givesNoStore _ _ fun _ => trivial,
    textOperation_givesNoStore _ _ fun _ => trivial,
    textOperation_givesNoStore _ _ fun _ => trivial, by simp⟩

theorem mathUnit_givesNoStore : ∀ entry ∈ mathUnit.operations, entry.2.GivesNoStore := by
  simp only [mathUnit, List.forall_mem_cons]
  refine ⟨?_, ?_, ?_, ?_, by simp⟩
  all_goals
    intro heap arguments v hv
    simp only [bind, Except.bind] at hv
    repeat' split at hv
    all_goals cases hv
    trivial

section

variable {key : String} {unit : ExtensionUnit}

theorem givesNoStore_of_bundled (h : Catalog.bundled.lookup key = some unit) :
    ∀ entry ∈ unit.operations, entry.2.GivesNoStore := by
  rcases Catalog.eq_of_lookup_bundled h with rfl | rfl
  · exact textUnit_givesNoStore
  · exact mathUnit_givesNoStore

theorem apply_eq_of_bundled (h : Catalog.bundled.lookup key = some unit) :
    ∀ entry ∈ unit.operations, ∀ (heap heap' : Heap) (arguments : List Value),
      entry.2.apply heap' arguments = entry.2.apply heap arguments := by
  rcases Catalog.eq_of_lookup_bundled h with rfl | rfl
  · simp [textUnit, textOperation]
  · simp [mathUnit]

theorem bundled_isPlain (h : Catalog.bundled.lookup key = some unit) :
    ∀ entry ∈ unit.operations, entry.2.IsPlain :=
  fun entry hentry =>
    { leavesStores := Catalog.bundled_leavesStores key unit h entry hentry
      apply_eq := fun heap heap' arguments _ => apply_eq_of_bundled h entry hentry heap heap' arguments
      value := fun heap arguments _ => givesNoStore_of_bundled h entry hentry heap arguments }

theorem ofName?_of_bundled (h : Catalog.bundled.lookup key = some unit) :
    ∀ entry ∈ unit.operations, Keyword.ofName? entry.1 = none := by
  rcases Catalog.eq_of_lookup_bundled h with rfl | rfl
  · simp only [textUnit, textOperation, List.forall_mem_cons]
    decide
  · simp only [mathUnit, List.forall_mem_cons]
    decide

end

end LineScript
