import LineScript.Store.Heap

/-!
The text of values and stores.  A store is written with all its bindings; a store that is being
written already is cut short, so a store that holds itself has a finite text.
-/

namespace LineScript

namespace Heap

/-- The stores that are not being written. -/
def unopened (heap : Heap) (path : List StoreId) : List StoreId :=
  (List.range heap.stores.length).filter (· ∉ path)

theorem length_unopened_cons_lt {heap : Heap} {path : List StoreId} {store : StoreId}
    (small : store < heap.stores.length) (closed : store ∉ path) :
    (heap.unopened (store :: path)).length < (heap.unopened path).length := by
  have split : heap.unopened (store :: path) = (heap.unopened path).filter (· ≠ store) := by
    simp only [unopened, List.filter_filter]
    congr 1
    funext i
    simp [List.mem_cons, not_or]
  have mem : store ∈ heap.unopened path := by simp [unopened, small, closed]
  rw [split]
  exact List.length_filter_lt_length_iff_exists.mpr ⟨store, mem, by simp⟩

/-- The text of a store inside the stores of `path`. -/
def renderIn (heap : Heap) (path : List StoreId) (store : StoreId) : String :=
  if closed : store ∈ path then "\x7b...\x7d"
  else if small : store < heap.stores.length then
    have := length_unopened_cons_lt small closed
    let entry : String × Value → String := fun (name, value) =>
      "'" ++ name ++ "': " ++
        match value with
        | .text s => "'" ++ s ++ "'"
        | .number x => formatNumber x
        | .mapping inner => heap.renderIn (store :: path) inner
    "\x7b" ++ ", ".intercalate ((heap.bindings store).toList.map entry) ++ "\x7d"
  else "\x7b\x7d"
termination_by (heap.unopened path).length

/-- The text of a store: its names in order, with their values. -/
def render (heap : Heap) (store : StoreId) : String :=
  heap.renderIn [] store

/-- The text of a store, marked as a store. -/
def describe (heap : Heap) (store : StoreId) : String :=
  "Memory(" ++ heap.render store ++ ")"

def display (heap : Heap) : Value → String
  | .text s => s
  | .number x => formatNumber x
  | .mapping store => heap.render store

/-- What the text of a token stands for: a quoted text is that text, a number is that number,
and everything else is the name of a variable. -/
def resolve (heap : Heap) (store : StoreId) (text : String) : Value :=
  match unquoted? text with
  | some inner => .text inner
  | none =>
    match Decimal.readNumber? text with
    | some x => .number x
    | none => heap.lookup store text

end Heap

end LineScript
