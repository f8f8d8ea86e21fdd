import Mathlib.Data.List.Induction
import LineScript.Proofs.ByteOrder
import LineScript.Proofs.Effects
import LineScript.Proofs.StoreText

/-!
Stores seen through their handles.

A program has any number of handles.  It can make a store, let a handle refer to the store of
another handle or to one that a variable holds, bind names and clear, all of it through any handle
(`StoreStep`).  What it has done to a store is a list of deeds, whichever handles it went through
(`Stores.done`).

* A store is the finite map that its own deeds make (`bindings_run`), in which a name is bound to
  what was set last behind the last clearing (`getElem?_bindingsAfter`).
* A step changes the bindings of one store at most (`bindings_step_of_ne`), and the texts of the
  stores from which that one can be come to (`render_step`).
* Two stores with the same bindings have the same names, and without a store among these the same
  text (`Heap.render_eq_of_get?_eq`).

These are put together in `Stores.stores_are_finite_maps`.
-/

namespace LineScript

/-! ## Deeds -/

/-- What is done to a store. -/
inductive Deed
  | set (name : String) (value : Value)
  | clear

namespace Deed

def isClear : Deed → Bool
  | set _ _ => false
  | clear => true

/-- What it binds the name to. -/
def valueFor? (name : String) : Deed → Option Value
  | set other value => if other = name then some value else none
  | clear => none

def onBindings (bindings : Bindings) : Deed → Bindings
  | set name value => bindings.insert name value
  | clear => ∅

/-- The heap after the deed is done to the store. -/
def onHeap (heap : Heap) (store : StoreId) : Deed → Heap
  | set name value => heap.set store name value
  | clear => heap.clear store

end Deed

/-- What a name was set to last, by these deeds in order: from the end back to the last clearing,
the first deed that sets it counts. -/
def lastSet (deeds : List Deed) (name : String) : Option Value :=
  (deeds.reverse.takeWhile fun deed => !deed.isClear).findSome? (·.valueFor? name)

/-- The bindings that the deeds make of none. -/
def bindingsAfter (deeds : List Deed) : Bindings :=
  deeds.foldl Deed.onBindings ∅

/-- The last binding behind the last clearing counts. -/
theorem getElem?_bindingsAfter (deeds : List Deed) (name : String) :
    (bindingsAfter deeds)[name]? = lastSet deeds name := by
  induction deeds using List.reverseRecOn with
  | nil => simp [bindingsAfter, lastSet]
  | append_singleton earlier last ih =>
    have hafter : bindingsAfter (earlier ++ [last]) = last.onBindings (bindingsAfter earlier) := by
      rw [bindingsAfter, List.foldl_append]
      rfl
    rw [hafter, lastSet, List.reverse_append]
    cases last with
    | clear => simp [Deed.onBindings, Deed.isClear]
    | set other value =>
      by_cases hname : other = name
      · simp [Deed.onBindings, Deed.isClear, Deed.valueFor?, hname]
      · simp [Deed.onBindings, Deed.isClear, Deed.valueFor?, hname,
          Std.ExtTreeMap.getElem?_insert, ih, lastSet]

namespace Heap

theorem length_onHeap (heap : Heap) (store : StoreId) (deed : Deed) :
    (deed.onHeap heap store).stores.length = heap.stores.length := by
  cases deed <;> simp [Deed.onHeap, set, clear, update]

theorem bindings_onHeap_self {heap : Heap} {store : StoreId} (deed : Deed)
    (h : store < heap.stores.length) :
    (deed.onHeap heap store).bindings store = deed.onBindings (heap.bindings store) := by
  cases deed with
  | set name value => exact bindings_update_self _ h
  | clear => exact bindings_update_self _ h

theorem bindings_onHeap_of_ne (heap : Heap) {store other : StoreId} (deed : Deed)
    (h : store ≠ other) : (deed.onHeap heap store).bindings other = heap.bindings other := by
  cases deed with
  | set name value => exact bindings_update_of_ne _ h
  | clear => exact bindings_update_of_ne _ h

/-- A new store has no bindings, and the others keep theirs. -/
theorem bindings_allocate (heap : Heap) (store : StoreId) :
    heap.allocate.1.bindings store = heap.bindings store := by
  by_cases hplace : store < heap.stores.length
  · simp [allocate, bindings, List.getElem?_append_left hplace]
  · rw [bindings_of_le (Nat.le_of_not_lt hplace)]
    by_cases hnew : store = heap.stores.length
    · simp [allocate, bindings, hnew]
    · refine bindings_of_le ?_
      simp only [allocate, List.length_append, List.length_singleton]
      exact Nat.lt_of_le_of_ne (Nat.le_of_not_lt hplace) (Ne.symm hnew)

end Heap

/-! ## What is seen of a store -/

namespace Heap

/-- The answers of a store to which the deeds were done.  Its names are in the order of their
bytes. -/
structure Remembers (heap : Heap) (store : StoreId) (deeds : List Deed) : Prop where
  get? : ∀ name, heap.get? store name = lastSet deeds name
  lookup : ∀ name, heap.lookup store name = (lastSet deeds name).getD .zero
  contains : ∀ name, heap.contains store name = true ↔ (heap.get? store name).isSome
  mem_names : ∀ name, name ∈ heap.names store ↔ (heap.get? store name).isSome
  nodup_names : (heap.names store).Nodup
  sorted_names : (heap.names store).Pairwise fun earlier later => utf8 earlier < utf8 later
  size : heap.size store = (heap.names store).length

theorem contains_iff (heap : Heap) (store : StoreId) (name : String) :
    heap.contains store name = true ↔ (heap.get? store name).isSome := by
  rw [contains, get?, Std.ExtTreeMap.contains_eq_isSome_getElem?]

theorem mem_names_iff (heap : Heap) (store : StoreId) (name : String) :
    name ∈ heap.names store ↔ (heap.get? store name).isSome := by
  rw [names, get?, Std.ExtTreeMap.mem_keys, ← Std.ExtTreeMap.contains_iff_mem,
    Std.ExtTreeMap.contains_eq_isSome_getElem?]

theorem sorted_names (heap : Heap) (store : StoreId) :
    (heap.names store).Pairwise fun earlier later => utf8 earlier < utf8 later := by
  refine Std.ExtTreeMap.ordered_keys.imp fun {earlier later} h => ?_
  have hless : compareOfLessAndEq earlier later = .lt := h
  exact utf8_lt_of_lt (compareOfLessAndEq_eq_lt.mp hless)

theorem remembers_of_get? {heap : Heap} {store : StoreId} {deeds : List Deed}
    (h : ∀ name, heap.get? store name = lastSet deeds name) : heap.Remembers store deeds where
  get? := h
  lookup name := by rw [Heap.lookup, h]
  contains := heap.contains_iff store
  mem_names := heap.mem_names_iff store
  nodup_names := Std.ExtTreeMap.nodup_keys
  sorted_names := heap.sorted_names store
  size := Std.ExtTreeMap.length_keys.symm

/-- Asked for anything but its text, the store answers in the second heap as in the first. -/
structure AnswersAlike (heap heap' : Heap) (store : StoreId) : Prop where
  get? : ∀ name, heap'.get? store name = heap.get? store name
  lookup : ∀ name, heap'.lookup store name = heap.lookup store name
  contains : ∀ name, heap'.contains store name = heap.contains store name
  names : heap'.names store = heap.names store
  size : heap'.size store = heap.size store

theorem answersAlike_of_bindings {heap heap' : Heap} {store : StoreId}
    (h : heap'.bindings store = heap.bindings store) : heap.AnswersAlike heap' store where
  get? name := by rw [Heap.get?, h, Heap.get?]
  lookup name := by rw [Heap.lookup, Heap.get?, h, Heap.lookup, Heap.get?]
  contains name := by rw [Heap.contains, h, Heap.contains]
  names := by rw [Heap.names, h, Heap.names]
  size := by rw [Heap.size, h, Heap.size]

theorem bindings_eq_of_get?_eq {heap heap' : Heap} {store store' : StoreId}
    (h : ∀ name, heap'.get? store' name = heap.get? store name) :
    heap'.bindings store' = heap.bindings store :=
  Std.ExtTreeMap.ext_getElem? fun name => h name

theorem names_eq_of_get?_eq {heap heap' : Heap} {store store' : StoreId}
    (h : ∀ name, heap'.get? store' name = heap.get? store name) :
    heap'.names store' = heap.names store := by
  rw [names, bindings_eq_of_get?_eq h, names]

/-- Where no store is held, the bindings make the text. -/
theorem render_eq_of_get?_eq {heap heap' : Heap} {store store' : StoreId}
    (h : ∀ name, heap'.get? store' name = heap.get? store name)
    (hplain : ∀ name inner, heap.get? store name ≠ some (.mapping inner)) :
    heap'.render store' = heap.render store := by
  rw [render, render, renderIn_of_not_mem _ List.not_mem_nil,
    renderIn_of_not_mem _ List.not_mem_nil, bindings_eq_of_get?_eq h]
  exact bindingsText_congr fun name inner hbound => absurd hbound (hplain name inner)

end Heap

/-! ## Steps through handles -/

/-- What a variable can be bound to through handles. -/
inductive Content
  | text (chars : String)
  | number (x : Float)
  /-- The store that the handle refers to. -/
  | store (handle : String)

inductive StoreStep
  /-- The handle is given a new store. -/
  | create (handle : String)
  /-- `target` is given the store of `handle`. -/
  | share (handle target : String)
  /-- `target` is given the store that a variable holds. -/
  | fetch (handle name target : String)
  | set (handle name : String) (content : Content)
  | clear (handle : String)

/-- The handle that the step gives a store to. -/
def StoreStep.target? : StoreStep → Option String
  | create handle => some handle
  | share _ target => some target
  | fetch _ _ target => some target
  | set _ _ _ | clear _ => none

/-- Stores, and what the handles of a program refer to. -/
structure Stores where
  heap : Heap
  refers : String → Option StoreId

namespace Stores

/-- No store and no handle. -/
def start : Stores :=
  ⟨Heap.empty, fun _ => none⟩

/-- The value that the content stands for. -/
def value? (s : Stores) : Content → Option Value
  | .text chars => some (.text chars)
  | .number x => some (.number x)
  | .store handle => (s.refers handle).map .mapping

/-- The store that a variable holds. -/
def held? (s : Stores) (handle name : String) : Option StoreId :=
  match (s.refers handle).bind fun store => s.heap.get? store name with
  | some (.mapping inner) => some inner
  | _ => none

/-- Lets a handle refer to the store. -/
def point (s : Stores) (target : String) (store : StoreId) : Stores :=
  { s with refers := fun handle => if handle = target then some store else s.refers handle }

/-- Does a step.  Through a handle that refers to nothing, nothing is done. -/
def step (s : Stores) : StoreStep → Stores
  | .create handle => { s with heap := s.heap.allocate.1 }.point handle s.heap.allocate.2
  | .share handle target =>
    match s.refers handle with
    | some store => s.point target store
    | none => s
  | .fetch handle name target =>
    match s.held? handle name with
    | some store => s.point target store
    | none => s
  | .set handle name content =>
    match s.refers handle, s.value? content with
    | some store, some value => { s with heap := s.heap.set store name value }
    | _, _ => s
  | .clear handle =>
    match s.refers handle with
    | some store => { s with heap := s.heap.clear store }
    | none => s

def run (s : Stores) (steps : List StoreStep) : Stores :=
  steps.foldl step s

/-- The store that the step changes, and the deed that it does to it. -/
def deed? (s : Stores) : StoreStep → Option (StoreId × Deed)
  | .set handle name content =>
    match s.refers handle, s.value? content with
    | some store, some value => some (store, .set name value)
    | _, _ => none
  | .clear handle =>
    match s.refers handle with
    | some store => some (store, .clear)
    | none => none
  | .create _ | .share _ _ | .fetch _ _ _ => none

/-- What the step does to this store. -/
def deedsOn (s : Stores) (store : StoreId) (next : StoreStep) : List Deed :=
  match s.deed? next with
  | some (changed, deed) => if changed = store then [deed] else []
  | none => []

/-- What the steps do to the store, in order. -/
def done (s : Stores) (store : StoreId) : List StoreStep → List Deed
  | [] => []
  | next :: rest => s.deedsOn store next ++ (s.step next).done store rest

/-! ## What a step does -/

/-- A handle or a variable refers to the store. -/
def Knows (s : Stores) (store : StoreId) : Prop :=
  (∃ handle, s.refers handle = some store) ∨
    ∃ outer name, s.heap.get? outer name = some (.mapping store)

/-- What a step can come to. -/
inductive Does (s : Stores) (next : StoreStep) : Stores → Prop
  | nothing (hdeed : s.deed? next = none) : Does s next s
  | creates {handle : String} (hdeed : s.deed? next = none) (htarget : next.target? = some handle) :
      Does s next ({ s with heap := s.heap.allocate.1 }.point handle s.heap.allocate.2)
  | points {target : String} {store : StoreId} (hdeed : s.deed? next = none)
      (htarget : next.target? = some target) (hstore : s.Knows store) :
      Does s next (s.point target store)
  | changes {store : StoreId} {deed : Deed} (hdeed : s.deed? next = some (store, deed))
      (hstore : s.Knows store)
      (hvalue : ∀ name inner, deed = .set name (.mapping inner) → s.Knows inner) :
      Does s next { s with heap := deed.onHeap s.heap store }

theorem knows_of_value {s : Stores} {content : Content} {inner : StoreId}
    (h : s.value? content = some (.mapping inner)) : s.Knows inner := by
  cases content with
  | text chars => cases h
  | number x => cases h
  | store handle =>
    obtain ⟨store, hstore, heq⟩ := Option.map_eq_some_iff.mp h
    obtain rfl := Value.mapping.inj heq
    exact .inl ⟨handle, hstore⟩

theorem knows_of_held {s : Stores} {handle name : String} {inner : StoreId}
    (h : s.held? handle name = some inner) : s.Knows inner := by
  unfold held? at h
  split at h
  · next found hfound =>
    obtain ⟨outer, -, hget⟩ := Option.bind_eq_some_iff.mp hfound
    obtain rfl := Option.some.inj h
    exact .inr ⟨outer, name, hget⟩
  · cases h

theorem step_does (s : Stores) (next : StoreStep) : s.Does next (s.step next) := by
  cases next with
  | create handle => exact .creates rfl rfl
  | share handle target =>
    cases hstore : s.refers handle with
    | none =>
      simp only [step, hstore]
      exact .nothing rfl
    | some store =>
      simp only [step, hstore]
      exact .points rfl rfl (.inl ⟨handle, hstore⟩)
  | fetch handle name target =>
    cases hstore : s.held? handle name with
    | none =>
      simp only [step, hstore]
      exact .nothing rfl
    | some store =>
      simp only [step, hstore]
      exact .points rfl rfl (knows_of_held hstore)
  | set handle name content =>
    cases hstore : s.refers handle with
    | none =>
      simp only [step, hstore]
      exact .nothing (by simp only [deed?, hstore])
    | some store =>
      cases hvalue : s.value? content with
      | none =>
        simp only [step, hstore, hvalue]
        exact .nothing (by simp only [deed?, hstore, hvalue])
      | some value =>
        have hdeed : s.deed? (.set handle name content) = some (store, .set name value) := by
          simp only [deed?, hstore, hvalue]
        simp only [step, hstore, hvalue]
        refine .changes hdeed (.inl ⟨handle, hstore⟩) fun other inner heq => ?_
        obtain ⟨-, rfl⟩ := Deed.set.inj heq
        exact knows_of_value hvalue
  | clear handle =>
    cases hstore : s.refers handle with
    | none =>
      simp only [step, hstore]
      exact .nothing (by simp only [deed?, hstore])
    | some store =>
      have hdeed : s.deed? (.clear handle) = some (store, .clear) := by simp only [deed?, hstore]
      simp only [step, hstore]
      refine .changes hdeed (.inl ⟨handle, hstore⟩) fun other inner heq => ?_
      cases heq

variable {s : Stores} {next : StoreStep}

theorem step_refers {handle : String} (h : next.target? ≠ some handle) :
    (s.step next).refers handle = s.refers handle := by
  have hdoes := s.step_does next
  generalize s.step next = t at hdoes
  cases hdoes with
  | nothing hdeed => rfl
  | creates hdeed htarget => exact if_neg fun heq => h (by rw [htarget, heq])
  | points hdeed htarget hstore => exact if_neg fun heq => h (by rw [htarget, heq])
  | changes hdeed hstore hvalue => rfl

/-- A store that the step does not change has the bindings that it had. -/
theorem bindings_step_of_ne {store : StoreId}
    (h : ∀ changed deed, s.deed? next = some (changed, deed) → changed ≠ store) :
    (s.step next).heap.bindings store = s.heap.bindings store := by
  have hdoes := s.step_does next
  generalize s.step next = t at hdoes
  cases hdoes with
  | nothing hdeed => rfl
  | creates hdeed htarget => exact s.heap.bindings_allocate store
  | points hdeed htarget hstore => rfl
  | @changes changed deed hdeed hstore hvalue =>
    exact Heap.bindings_onHeap_of_ne s.heap deed (h changed deed hdeed)

/-! ## Stores have places -/

/-- All stores that are referred to exist. -/
def Placed (s : Stores) : Prop :=
  ∀ store, s.Knows store → store < s.heap.stores.length

theorem placed_start : start.Placed := by
  rintro store (⟨handle, h⟩ | ⟨outer, name, h⟩)
  · cases h
  · simp [start, Heap.empty, Heap.get?, Heap.bindings] at h

theorem Placed.point {target : String} {store : StoreId} (h : s.Placed)
    (hstore : store < s.heap.stores.length) : (s.point target store).Placed := by
  rintro known (⟨handle, hknown⟩ | ⟨outer, name, hknown⟩)
  · unfold Stores.point at hknown
    dsimp only at hknown
    split at hknown
    · obtain rfl := Option.some.inj hknown
      exact hstore
    · exact h known (.inl ⟨handle, hknown⟩)
  · exact h known (.inr ⟨outer, name, hknown⟩)

theorem Placed.allocate (h : s.Placed) :
    ({ s with heap := s.heap.allocate.1 } : Stores).Placed := by
  rintro known hknown
  have hold : known < s.heap.stores.length := by
    rcases hknown with ⟨handle, hknown⟩ | ⟨outer, name, hknown⟩
    · exact h known (.inl ⟨handle, hknown⟩)
    · rw [Heap.get?, Heap.bindings_allocate] at hknown
      exact h known (.inr ⟨outer, name, hknown⟩)
  show known < (s.heap.stores ++ [∅]).length
  rw [List.length_append]
  exact Nat.lt_add_right _ hold

/-- What is bound after a deed was bound before, or is bound by the deed. -/
theorem get?_onHeap {heap : Heap} {store outer : StoreId} {deed : Deed} {name : String}
    {value : Value} (h : (deed.onHeap heap store).get? outer name = some value) :
    deed = .set name value ∨ heap.get? outer name = some value := by
  cases deed with
  | set other bound =>
    rw [Deed.onHeap, Heap.get?_set] at h
    split at h
    · next hhere =>
      refine .inl ?_
      rw [hhere.2.1, Option.some.inj h]
    · exact .inr h
  | clear =>
    rw [Deed.onHeap] at h
    by_cases hstore : store = outer
    · rw [hstore, Heap.get?_clear] at h
      cases h
    · rw [Heap.get?_clear_of_ne name hstore] at h
      exact .inr h

theorem Placed.step (h : s.Placed) (next : StoreStep) : (s.step next).Placed := by
  have hdoes := s.step_does next
  generalize s.step next = t at hdoes
  cases hdoes with
  | nothing hdeed => exact h
  | creates hdeed htarget =>
    refine h.allocate.point ?_
    simp [Heap.allocate]
  | points hdeed htarget hstore => exact h.point (h _ hstore)
  | @changes store deed hdeed hstore hvalue =>
    rintro known hknown
    dsimp only
    rw [Heap.length_onHeap]
    rcases hknown with ⟨handle, hknown⟩ | ⟨outer, name, hknown⟩
    · exact h known (.inl ⟨handle, hknown⟩)
    · rcases get?_onHeap hknown with rfl | hheld
      · exact h known (hvalue name known rfl)
      · exact h known (.inr ⟨outer, name, hheld⟩)

theorem Placed.run (h : s.Placed) (steps : List StoreStep) : (s.run steps).Placed := by
  induction steps generalizing s with
  | nil => exact h
  | cons next rest ih => exact ih (h.step next)

/-! ## What steps do -/

/-- A step does to each store what it is said to do. -/
theorem bindings_step (h : s.Placed) (store : StoreId) (next : StoreStep) :
    (s.step next).heap.bindings store =
      (s.deedsOn store next).foldl Deed.onBindings (s.heap.bindings store) := by
  cases hdeed : s.deed? next with
  | none =>
    simp only [deedsOn, hdeed]
    refine bindings_step_of_ne fun changed deed hother => ?_
    rw [hdeed] at hother
    cases hother
  | some found =>
    obtain ⟨changed, deed⟩ := found
    by_cases hchanged : changed = store
    · have hdoes := s.step_does next
      generalize s.step next = t at hdoes
      simp only [deedsOn, hdeed, if_pos hchanged]
      cases hdoes with
      | nothing hnone | creates hnone _ | points hnone _ _ => cases hdeed.symm.trans hnone
      | changes hsame hstore hvalue =>
        cases hdeed.symm.trans hsame
        rw [← hchanged]
        exact Heap.bindings_onHeap_self deed (h changed hstore)
    · simp only [deedsOn, hdeed, if_neg hchanged]
      refine bindings_step_of_ne fun other deed' hother => ?_
      cases hdeed.symm.trans hother
      exact hchanged

/-- **Steps.**  A store is what its own deeds make of it. -/
theorem bindings_run (h : s.Placed) (store : StoreId) (steps : List StoreStep) :
    (s.run steps).heap.bindings store =
      (s.done store steps).foldl Deed.onBindings (s.heap.bindings store) := by
  induction steps generalizing s with
  | nil => rfl
  | cons next rest ih =>
    rw [done, List.foldl_append, ← bindings_step h]
    exact ih (h.step next)

theorem get?_run_start (store : StoreId) (steps : List StoreStep) (name : String) :
    (start.run steps).heap.get? store name = lastSet (start.done store steps) name := by
  have hempty : start.heap.bindings store = ∅ := Heap.bindings_of_le (Nat.zero_le store)
  rw [Heap.get?, bindings_run placed_start, hempty]
  exact getElem?_bindingsAfter _ name

/-- The text of a store changes only if a store is changed that can be come to from it. -/
theorem render_step {store : StoreId}
    (h : ∀ changed deed, s.deed? next = some (changed, deed) → ¬ s.heap.Reaches store changed) :
    (s.step next).heap.render store = s.heap.render store := by
  refine Heap.renderIn_congr [] store fun inner hinner => ?_
  refine bindings_step_of_ne fun changed deed hdeed heq => ?_
  rw [heq] at hdeed
  exact h inner deed hdeed hinner

/-- A new store is the store of no other handle. -/
theorem refers_create_ne (h : s.Placed) {handle other : String} (hother : other ≠ handle) :
    (s.step (.create handle)).refers other ≠ (s.step (.create handle)).refers handle := by
  intro heq
  have hnew : s.refers other = some s.heap.stores.length := by
    simpa [step, point, Heap.allocate, hother] using heq
  exact Nat.lt_irrefl _ (h _ (.inl ⟨other, hnew⟩))

/-- **Stores are finite maps.**  Whatever is done through handles, each store answers through each
of its handles as its own deeds tell.  A new store is none of the old ones.  A step leaves the
stores that it does not change as they were, but for the texts of those from which the changed store
can be come to.  And stores without stores inside that have the same bindings, by whatever steps,
have the same names and the same text. -/
theorem stores_are_finite_maps (steps : List StoreStep) :
    (∀ handle store, (start.run steps).refers handle = some store →
      (start.run steps).heap.Remembers store (start.done store steps)) ∧
    (∀ handle other, other ≠ handle → ((start.run steps).step (.create handle)).refers other ≠
      ((start.run steps).step (.create handle)).refers handle) ∧
    (∀ next handle store, (start.run steps).refers handle = some store →
      next.target? ≠ some handle →
      (∀ changed deed, (start.run steps).deed? next = some (changed, deed) → changed ≠ store) →
      ((start.run steps).step next).refers handle = some store ∧
      (start.run steps).heap.AnswersAlike ((start.run steps).step next).heap store ∧
      ((∀ changed deed, (start.run steps).deed? next = some (changed, deed) →
          ¬ (start.run steps).heap.Reaches store changed) →
        ((start.run steps).step next).heap.render store =
          (start.run steps).heap.render store)) ∧
    (∀ steps' handle handle' store store', (start.run steps).refers handle = some store →
      (start.run steps').refers handle' = some store' →
      (∀ name, (start.run steps').heap.get? store' name =
        (start.run steps).heap.get? store name) →
      (∀ name inner, (start.run steps).heap.get? store name ≠ some (.mapping inner)) →
      (start.run steps').heap.names store' = (start.run steps).heap.names store ∧
      (start.run steps').heap.render store' = (start.run steps).heap.render store) := by
  refine ⟨?_, ?_, ?_, ?_⟩
  · intro handle store hstore
    exact Heap.remembers_of_get? fun name => get?_run_start store steps name
  · intro handle other hother
    exact refers_create_ne (placed_start.run steps) hother
  · intro next handle store hstore htarget hchanged
    refine ⟨?_, Heap.answersAlike_of_bindings (bindings_step_of_ne hchanged), fun hreach => ?_⟩
    · rw [step_refers htarget, hstore]
    · exact render_step hreach
  · intro steps' handle handle' store store' hstore hstore' halike hplain
    exact ⟨Heap.names_eq_of_get?_eq halike, Heap.render_eq_of_get?_eq halike hplain⟩

/-- Two handles of one store: bound through one, cleared through the other, bound again. -/
def sharedSteps : List StoreStep :=
  [.create "a", .share "a" "b", .set "b" "x" (.text "one"), .clear "a", .set "a" "y" (.text "two"),
    .set "b" "x" (.text "three"), .create "c"]

/-- The same bindings of a store with one handle, made in another order. -/
def plainSteps : List StoreStep :=
  [.create "c", .set "c" "x" (.text "three"), .set "c" "y" (.text "two")]

theorem lastSet_sharedSteps (name : String) : lastSet (start.done 0 sharedSteps) name =
    if name = "x" then some (.text "three")
    else if name = "y" then some (.text "two") else none := by
  have hdone : start.done 0 sharedSteps = [.set "x" (.text "one"), .clear, .set "y" (.text "two"),
      .set "x" (.text "three")] := rfl
  by_cases hx : name = "x"
  · simp [hdone, lastSet, Deed.isClear, Deed.valueFor?, hx]
  · by_cases hy : name = "y"
    · simp [hdone, lastSet, Deed.isClear, Deed.valueFor?, hy]
    · simp [hdone, lastSet, Deed.isClear, Deed.valueFor?, hx, hy, Ne.symm]

theorem lastSet_plainSteps (name : String) :
    lastSet (start.done 0 plainSteps) name = lastSet (start.done 0 sharedSteps) name := by
  have hdone : start.done 0 plainSteps = [.set "x" (.text "three"), .set "y" (.text "two")] := rfl
  rw [lastSet_sharedSteps]
  by_cases hx : name = "x"
  · simp [hdone, lastSet, Deed.isClear, Deed.valueFor?, hx]
  · by_cases hy : name = "y"
    · simp [hdone, lastSet, Deed.isClear, Deed.valueFor?, hy]
    · simp [hdone, lastSet, Deed.isClear, Deed.valueFor?, hx, hy, Ne.symm]

theorem stores_are_finite_maps_of_sharedSteps :
    (start.run sharedSteps).heap.get? 0 "x" = some (.text "three") ∧
    (start.run sharedSteps).heap.lookup 0 "z" = .zero ∧
    ((start.run sharedSteps).step (.set "b" "z" (.store "a"))).heap.render 1 =
      (start.run sharedSteps).heap.render 1 ∧
    (start.run plainSteps).heap.render 0 = (start.run sharedSteps).heap.render 0 := by
  obtain ⟨hmaps, -, hframe, halike⟩ := stores_are_finite_maps sharedSteps
  have hshared := hmaps "b" 0 rfl
  have hplain := (stores_are_finite_maps plainSteps).1 "c" 0 rfl
  have hdeed : (start.run sharedSteps).deed? (.set "b" "z" (.store "a")) =
      some (0, .set "z" (.mapping 0)) := rfl
  refine ⟨?_, ?_, ?_, ?_⟩
  · rw [hshared.get?, lastSet_sharedSteps, if_pos rfl]
  · rw [hshared.lookup, lastSet_sharedSteps, if_neg (by simp), if_neg (by simp), Option.getD_none]
  · refine (hframe _ "c" 1 rfl (by simp [StoreStep.target?]) fun changed deed h => ?_).2.2
      fun changed deed h hreach => ?_
    · cases hdeed.symm.trans h
      exact Nat.zero_ne_one
    · cases hdeed.symm.trans h
      -- the store of `c` holds nothing
      rcases Relation.ReflTransGen.cases_head hreach with heq | ⟨inner, ⟨name, hheld⟩, -⟩
      · exact Nat.one_ne_zero heq
      · rw [(hmaps "c" 1 rfl).get?] at hheld
        cases hheld
  · refine (halike plainSteps "b" "c" 0 0 rfl rfl (fun name => ?_) fun name inner h => ?_).2
    · rw [hplain.get?, hshared.get?, lastSet_plainSteps]
    · rw [hshared.get?, lastSet_sharedSteps] at h
      split at h
      · cases h
      · split at h <;> cases h

end Stores

end LineScript
