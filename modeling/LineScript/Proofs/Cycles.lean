import LineScript.Proofs.StoreText

/-!
Writing stores that may hold each other.

A writer keeps a list of the stores that it has begun with and not yet done.  It puts a store on the
list, writes its entries and takes it off again; a store that is on the list already it cuts short.
What it writes, fragment by fragment, is `Heap.Writes`.

* Behind each job the list is what it was before (`Writes.open_eq`), and what is written is
  determined (`Writes.unique`).  On every store the writer comes to an end, and the fragments make
  up the text of the store (`exists_writes`).
* At an entry the list consists of the stores on the way down to it (`Writes.isOnWay`), and every
  entry on such a way is written (`Writes.mem_of_onWay`).  So something is cut short iff a cycle can
  be come to (`cut_iff_cyclic`).
* Plain recursion, without a list, ends iff no cycle can be come to, and then gives the same text
  (`plainText_iff`).

Main statement: `text_cuts_at_cycles`.
-/

namespace LineScript

/-! ## The writer -/

/-- Something that is written at a time.  A store is reached by the names of the entries on the way,
the last one first, and in the stores of `path`. -/
inductive Fragment
  | chars (text : String)
  /-- The store begins. -/
  | opening (names : List String) (path : List StoreId) (store : StoreId)
  /-- The store is cut short. -/
  | cut (names : List String) (path : List StoreId) (store : StoreId)

namespace Fragment

def text : Fragment → String
  | chars text => text
  | opening _ _ _ => "\x7b"
  | cut _ _ _ => "\x7b...\x7d"

/-- The first that is written for a store. -/
def ofStore (names : List String) (path : List StoreId) (store : StoreId) : Fragment :=
  if store ∈ path then cut names path store else opening names path store

end Fragment

def fragmentsText : List Fragment → String
  | [] => ""
  | fragment :: rest => fragment.text ++ fragmentsText rest

@[simp] theorem fragmentsText_append (first second : List Fragment) :
    fragmentsText (first ++ second) = fragmentsText first ++ fragmentsText second := by
  induction first with
  | nil => simp [fragmentsText]
  | cons fragment rest ih => simp [fragmentsText, ih, String.append_assoc]

/-- What a writer is about. -/
inductive Job
  | store (names : List String) (store : StoreId)
  /-- The entries that are left of a store, `first` telling whether none has been written. -/
  | entries (names : List String) (first : Bool) (rest : List (String × Value))

/-- What stands in front of the value of an entry. -/
def entryHead (first : Bool) (name : String) : String :=
  (if first then "" else ", ") ++ "'" ++ name ++ "': "

namespace Heap

variable {heap : Heap}

/-- With this list of stores being written, the job writes the fragments and leaves a list. -/
inductive Writes (heap : Heap) : Job → List StoreId → List Fragment → List StoreId → Prop
  | cut {names : List String} {store : StoreId} {path : List StoreId} (hopen : store ∈ path) :
      Writes heap (.store names store) path [.cut names path store] path
  | whole {names : List String} {store top : StoreId} {path left : List StoreId}
      {written : List Fragment} (hopen : store ∉ path)
      (hentries : Writes heap (.entries names true (heap.bindings store).toList) (store :: path)
        written (top :: left)) :
      Writes heap (.store names store) path
        (.opening names path store :: (written ++ [.chars "\x7d"])) left
  | done {names : List String} {first : Bool} {path : List StoreId} :
      Writes heap (.entries names first []) path [] path
  | plain {names : List String} {first : Bool} {name : String} {value : Value}
      {rest : List (String × Value)} {path left : List StoreId} {written : List Fragment}
      (hvalue : ∀ inner, value ≠ .mapping inner)
      (hrest : Writes heap (.entries names false rest) path written left) :
      Writes heap (.entries names first ((name, value) :: rest)) path
        (.chars (entryHead first name ++ value.textWith fun _ => "") :: written) left
  | inner {names : List String} {first : Bool} {name : String} {inner : StoreId}
      {rest : List (String × Value)} {path between left : List StoreId}
      {written more : List Fragment}
      (hinner : Writes heap (.store (name :: names) inner) path written between)
      (hrest : Writes heap (.entries names false rest) between more left) :
      Writes heap (.entries names first ((name, .mapping inner) :: rest)) path
        (.chars (entryHead first name) :: (written ++ more)) left

namespace Writes

variable {job : Job} {path left : List StoreId} {written : List Fragment}

/-- What is put on the list is taken off again. -/
theorem open_eq (h : Writes heap job path written left) : left = path := by
  induction h with
  | cut => rfl
  | whole _ _ ih => exact (List.cons.inj ih).2
  | done => rfl
  | plain _ _ ih => exact ih
  | inner _ _ ihInner ihRest => exact ihRest.trans ihInner

theorem unique (h : Writes heap job path written left) {written' : List Fragment}
    {left' : List StoreId} (h' : Writes heap job path written' left') :
    written' = written ∧ left' = left := by
  induction h generalizing written' left' with
  | cut hopen =>
    cases h' with
    | cut => exact ⟨rfl, rfl⟩
    | whole hopen' _ => exact absurd hopen hopen'
  | whole hopen _ ih =>
    cases h' with
    | cut hopen' => exact absurd hopen' hopen
    | whole _ hentries' =>
      obtain ⟨rfl, hleft⟩ := ih hentries'
      exact ⟨rfl, (List.cons.inj hleft).2⟩
  | done =>
    cases h' with
    | done => exact ⟨rfl, rfl⟩
  | plain hvalue _ ih =>
    cases h' with
    | plain _ hrest' =>
      obtain ⟨rfl, rfl⟩ := ih hrest'
      exact ⟨rfl, rfl⟩
    | inner _ _ => exact absurd rfl (hvalue _)
  | inner _ _ ihInner ihRest =>
    cases h' with
    | plain hvalue _ => exact absurd rfl (hvalue _)
    | inner hinner' hrest' =>
      obtain ⟨rfl, rfl⟩ := ihInner hinner'
      obtain ⟨rfl, rfl⟩ := ihRest hrest'
      exact ⟨rfl, rfl⟩

end Writes

/-! ## The writer comes to an end -/

/-- The text of entries, one behind the other. -/
def listedText (inner : StoreId → String) : Bool → List (String × Value) → String
  | _, [] => ""
  | first, entry :: rest =>
    entryHead first entry.1 ++ entry.2.textWith inner ++ listedText inner false rest

theorem listedText_eq (inner : StoreId → String) (rest : List (String × Value)) :
    listedText inner true rest = ", ".intercalate (rest.map (bindingText inner)) := by
  have hhead (name : String) : entryHead false name = ", " ++ entryHead true name := by
    simp only [entryHead, Bool.false_eq_true, if_false, if_true, String.empty_append,
      String.append_assoc]
  have htrue (name : String) : entryHead true name = "'" ++ name ++ "': " := by
    simp only [entryHead, if_true, String.empty_append]
  induction rest with
  | nil => rfl
  | cons entry rest ih =>
    cases rest with
    | nil => simp [listedText, htrue, bindingText]
    | cons next rest =>
      -- behind a comma the rest stands as if it were the whole
      have hrest : listedText inner false (next :: rest) =
          ", " ++ listedText inner true (next :: rest) := by
        simp only [listedText, hhead, String.append_assoc]
      rw [listedText, hrest, ih, htrue]
      simp only [List.map_cons, String.intercalate_cons_cons, bindingText, String.append_assoc]

theorem bindingsText_eq (inner : StoreId → String) (bindings : Bindings) :
    bindingsText inner bindings = "\x7b" ++ listedText inner true bindings.toList ++ "\x7d" := by
  rw [listedText_eq]
  rfl

/-- Entries are written if the stores among them are. -/
theorem exists_writes_entries {path : List StoreId} {texts : StoreId → String}
    {names : List String} {rest : List (String × Value)}
    (h : ∀ name inner, (name, Value.mapping inner) ∈ rest → ∃ written,
      Writes heap (.store (name :: names) inner) path written path ∧
        fragmentsText written = texts inner)
    (first : Bool) :
    ∃ written, Writes heap (.entries names first rest) path written path ∧
      fragmentsText written = listedText texts first rest := by
  induction rest generalizing first with
  | nil => exact ⟨[], .done, rfl⟩
  | cons entry rest ih =>
    obtain ⟨name, value⟩ := entry
    obtain ⟨more, hmore, htext⟩ :=
      ih (fun other inner hmem => h other inner (List.mem_cons_of_mem _ hmem)) false
    cases value with
    | mapping inner =>
      obtain ⟨written, hwrites, hinner⟩ := h name inner List.mem_cons_self
      refine ⟨_, .inner hwrites hmore, ?_⟩
      rw [fragmentsText, fragmentsText_append, hinner, htext, listedText, ← String.append_assoc]
      rfl
    | text chars =>
      refine ⟨_, .plain (by simp) hmore, ?_⟩
      rw [fragmentsText, htext, listedText]
      rfl
    | number x =>
      refine ⟨_, .plain (by simp) hmore, ?_⟩
      rw [fragmentsText, htext, listedText]
      rfl

/-- **The writer ends.**  On every store it ends, having written the text of the store, and with the
list that it began with. -/
theorem exists_writes (heap : Heap) (path : List StoreId) (store : StoreId) (names : List String) :
    ∃ written, Writes heap (.store names store) path written path ∧
      fragmentsText written = heap.renderIn path store := by
  induction path, store using Heap.renderIn.induct heap generalizing names with
  | case1 path store hopen =>
    refine ⟨_, .cut hopen, ?_⟩
    rw [renderIn_of_mem heap hopen]
    simp [fragmentsText, Fragment.text]
  | case2 path store hopen _ _ ih =>
    have hinner (name : String) (inner : StoreId)
        (_ : (name, .mapping inner) ∈ (heap.bindings store).toList) := ih inner (name :: names)
    obtain ⟨written, hwrites, htext⟩ := exists_writes_entries hinner true
    refine ⟨_, .whole hopen hwrites, ?_⟩
    rw [renderIn_of_not_mem heap hopen, bindingsText_eq, fragmentsText, fragmentsText_append, htext]
    simp [Fragment.text, fragmentsText, String.append_assoc]
  | case3 path store hopen hplace =>
    have hnothing : heap.bindings store = ∅ := bindings_of_le (Nat.le_of_not_lt hplace)
    have hentries : Writes heap (.entries names true (heap.bindings store).toList) (store :: path)
        [] (store :: path) := by
      rw [hnothing]
      exact .done
    refine ⟨_, .whole hopen hentries, ?_⟩
    rw [renderIn_of_not_mem heap hopen, hnothing]
    rfl

/-! ## Ways down to entries -/

/-- The writer comes from `start` to an entry that holds the store: by these names and through these
stores, the last ones first.  It does not go on through a store that it has come through. -/
inductive OnWay (heap : Heap) (start : StoreId) : List String → List StoreId → StoreId → Prop
  | start : OnWay heap start [] [] start
  | inner {names : List String} {path : List StoreId} {outer inner : StoreId} {name : String}
      (hway : OnWay heap start names path outer) (hopen : outer ∉ path)
      (hheld : heap.get? outer name = some (.mapping inner)) :
      OnWay heap start (name :: names) (outer :: path) inner

/-- A fragment that begins a store, or cuts it short, stands for an entry on a way. -/
def IsOnWay (heap : Heap) (start : StoreId) : Fragment → Prop
  | .chars _ => True
  | .opening names path store => heap.OnWay start names path store ∧ store ∉ path
  | .cut names path store => heap.OnWay start names path store ∧ store ∈ path

/-- The job is come to in writing `start`. -/
def JobOnWay (heap : Heap) (start : StoreId) : Job → List StoreId → Prop
  | .store names store, path => heap.OnWay start names path store
  | .entries names _ rest, path => ∃ outer behind, path = outer :: behind ∧ outer ∉ behind ∧
      heap.OnWay start names behind outer ∧
      ∀ entry ∈ rest, heap.get? outer entry.1 = some entry.2

namespace Writes

variable {start : StoreId} {job : Job} {path left : List StoreId} {written : List Fragment}

/-- The list at an entry consists of the stores on the way down to it. -/
theorem isOnWay (h : Writes heap job path written left) (hjob : heap.JobOnWay start job path) :
    ∀ fragment ∈ written, heap.IsOnWay start fragment := by
  induction h with
  | cut hopen => simpa using ⟨hjob, hopen⟩
  | @whole names store top path left written hopen hentries ih =>
    have hinner : heap.JobOnWay start (.entries names true (heap.bindings store).toList)
        (store :: path) :=
      ⟨store, path, rfl, hopen, hjob,
        fun entry hentry => Std.ExtTreeMap.mem_toList_iff_getElem?_eq_some.mp hentry⟩
    refine List.forall_mem_cons.mpr ⟨⟨hjob, hopen⟩, List.forall_mem_append.mpr ⟨ih hinner, ?_⟩⟩
    exact List.forall_mem_singleton.mpr trivial
  | done => simp
  | plain hvalue hrest ih =>
    obtain ⟨outer, behind, rfl, hopen, hway, hheld⟩ := hjob
    have hmore := (List.forall_mem_cons.mp hheld).2
    exact List.forall_mem_cons.mpr ⟨trivial, ih ⟨outer, behind, rfl, hopen, hway, hmore⟩⟩
  | inner hinner hrest ihInner ihRest =>
    obtain ⟨outer, behind, rfl, hopen, hway, hheld⟩ := hjob
    obtain ⟨hfirst, hmore⟩ := List.forall_mem_cons.mp hheld
    obtain rfl := hinner.open_eq
    refine List.forall_mem_cons.mpr ⟨trivial, List.forall_mem_append.mpr ⟨?_, ?_⟩⟩
    · exact ihInner (.inner hway hopen hfirst)
    · exact ihRest ⟨outer, behind, rfl, hopen, hway, hmore⟩

theorem ofStore_mem {names : List String} {store : StoreId}
    (h : Writes heap (.store names store) path written left) :
    Fragment.ofStore names path store ∈ written := by
  cases h with
  | cut hopen => simp [Fragment.ofStore, hopen]
  | whole hopen _ => simp [Fragment.ofStore, hopen]

/-- Each store among the entries is begun with. -/
theorem ofStore_mem_entries {names : List String} {first : Bool} {rest : List (String × Value)}
    {name : String} {inner : StoreId}
    (h : Writes heap (.entries names first rest) path written left)
    (hmem : (name, .mapping inner) ∈ rest) :
    Fragment.ofStore (name :: names) path inner ∈ written := by
  induction rest generalizing first path written left with
  | nil => cases hmem
  | cons entry rest ih =>
    cases h with
    | plain hvalue hrest =>
      rcases List.mem_cons.mp hmem with heq | hmem
      · exact absurd (Prod.mk.inj heq).2.symm (hvalue inner)
      · exact List.mem_cons_of_mem _ (ih hrest hmem)
    | inner hinner hrest =>
      obtain rfl := hinner.open_eq
      refine List.mem_cons_of_mem _ (List.mem_append.mpr ?_)
      rcases List.mem_cons.mp hmem with heq | hmem
      · obtain ⟨rfl, hvalue⟩ := Prod.mk.inj heq
        obtain rfl := Value.mapping.inj hvalue
        exact .inl hinner.ofStore_mem
      · exact .inr (ih hrest hmem)

/-- Behind the beginning of a store all stores that it holds are begun with. -/
theorem ofStore_mem_of_opening (h : Writes heap job path written left) {names : List String}
    {way : List StoreId} {outer inner : StoreId} {name : String}
    (hmem : .opening names way outer ∈ written)
    (hheld : heap.get? outer name = some (.mapping inner)) :
    Fragment.ofStore (name :: names) (outer :: way) inner ∈ written := by
  induction h with
  | cut hopen => simp at hmem
  | whole hopen hentries ih =>
    refine List.mem_cons_of_mem _ (List.mem_append_left _ ?_)
    rcases List.mem_cons.mp hmem with heq | hmem
    · obtain ⟨rfl, rfl, rfl⟩ := Fragment.opening.inj heq
      exact hentries.ofStore_mem_entries (Std.ExtTreeMap.mem_toList_iff_getElem?_eq_some.mpr hheld)
    · rcases List.mem_append.mp hmem with hmem | hmem
      · exact ih hmem
      · simp at hmem
  | done => cases hmem
  | plain hvalue hrest ih =>
    rcases List.mem_cons.mp hmem with heq | hmem
    · cases heq
    · exact List.mem_cons_of_mem _ (ih hmem)
  | inner hinner hrest ihInner ihRest =>
    refine List.mem_cons_of_mem _ (List.mem_append.mpr ?_)
    rcases List.mem_cons.mp hmem with heq | hmem
    · cases heq
    · exact (List.mem_append.mp hmem).imp ihInner ihRest

/-- Each entry on a way is written. -/
theorem mem_of_onWay (h : Writes heap (.store [] start) [] written left) {names : List String}
    {way : List StoreId} {store : StoreId} (hway : heap.OnWay start names way store) :
    Fragment.ofStore names way store ∈ written := by
  induction hway with
  | start => exact h.ofStore_mem
  | inner _ hopen hheld ih =>
    rw [Fragment.ofStore, if_neg hopen] at ih
    exact h.ofStore_mem_of_opening ih hheld

theorem cut_mem_iff (h : Writes heap (.store [] start) [] written left) {names : List String}
    {way : List StoreId} {store : StoreId} :
    .cut names way store ∈ written ↔ heap.OnWay start names way store ∧ store ∈ way := by
  constructor
  · exact h.isOnWay .start _
  · rintro ⟨hway, hopen⟩
    have hmem := h.mem_of_onWay hway
    rwa [Fragment.ofStore, if_pos hopen] at hmem

theorem opening_mem_iff (h : Writes heap (.store [] start) [] written left) {names : List String}
    {way : List StoreId} {store : StoreId} :
    .opening names way store ∈ written ↔ heap.OnWay start names way store ∧ store ∉ way := by
  constructor
  · exact h.isOnWay .start _
  · rintro ⟨hway, hopen⟩
    have hmem := h.mem_of_onWay hway
    rwa [Fragment.ofStore, if_neg hopen] at hmem

end Writes

/-! ## Cycles -/

/-- A store that holds itself, through other stores perhaps, can be come to. -/
def Cyclic (heap : Heap) (start : StoreId) : Prop :=
  ∃ store, heap.Reaches start store ∧ Relation.TransGen heap.Holds store store

variable {start : StoreId} {names : List String} {path : List StoreId} {store : StoreId}

theorem OnWay.reaches (h : heap.OnWay start names path store) :
    heap.Reaches start store ∧ ∀ outer ∈ path, Relation.TransGen heap.Holds outer store := by
  induction h with
  | start => exact ⟨.refl, by simp⟩
  | @inner names path outer inner name _ _ hheld ih =>
    obtain ⟨hreach, houter⟩ := ih
    have hholds : heap.Holds outer inner := ⟨name, hheld⟩
    exact ⟨hreach.tail hholds, List.forall_mem_cons.mpr
      ⟨.single hholds, fun other hother => (houter other hother).tail hholds⟩⟩

/-- If nothing is cut short, the writer goes on wherever a store is held. -/
theorem exists_onWay_of_transGen
    (hwhole : ∀ names path store, heap.OnWay start names path store → store ∉ path)
    {inner : StoreId} (hway : heap.OnWay start names path store)
    (h : Relation.TransGen heap.Holds store inner) :
    ∃ names' path', heap.OnWay start names' path' inner ∧ store ∈ path' := by
  induction h with
  | single hholds =>
    obtain ⟨name, hheld⟩ := hholds
    exact ⟨_, _, .inner hway (hwhole _ _ _ hway) hheld, List.mem_cons_self⟩
  | tail _ hholds ih =>
    obtain ⟨name, hheld⟩ := hholds
    obtain ⟨names', path', hway', hmem⟩ := ih
    exact ⟨_, _, .inner hway' (hwhole _ _ _ hway') hheld, List.mem_cons_of_mem _ hmem⟩

/-- **Cycles.**  The writer cuts a store short iff it can come to a cycle. -/
theorem cut_iff_cyclic :
    (∃ names path store, heap.OnWay start names path store ∧ store ∈ path) ↔
      heap.Cyclic start := by
  constructor
  · rintro ⟨names, path, store, hway, hmem⟩
    obtain ⟨hreach, houter⟩ := hway.reaches
    exact ⟨store, hreach, houter store hmem⟩
  · rintro ⟨store, hreach, hcycle⟩
    refine Classical.byContradiction fun hnone => ?_
    have hwhole : ∀ names path store, heap.OnWay start names path store → store ∉ path :=
      fun names path store hway hmem => hnone ⟨names, path, store, hway, hmem⟩
    obtain ⟨names, path, hway⟩ : ∃ names path, heap.OnWay start names path store := by
      rcases Relation.reflTransGen_iff_eq_or_transGen.mp hreach with rfl | hreach
      · exact ⟨[], [], .start⟩
      · obtain ⟨names, path, hway, -⟩ := exists_onWay_of_transGen hwhole .start hreach
        exact ⟨names, path, hway⟩
    obtain ⟨names', path', hway', hmem⟩ := exists_onWay_of_transGen hwhole hway hcycle
    exact hwhole names' path' store hway' hmem

/-! ## Writing without a list -/

/-- The text of a store by plain recursion: the texts of all stores that it holds are written out
where they are held. -/
inductive PlainText (heap : Heap) : StoreId → String → Prop
  | whole {store : StoreId} (texts : StoreId → String)
      (hinner : ∀ name inner, heap.get? store name = some (.mapping inner) →
        PlainText heap inner (texts inner)) :
      PlainText heap store (bindingsText texts (heap.bindings store))

theorem PlainText.unique {text text' : String} (h : heap.PlainText store text)
    (h' : heap.PlainText store text') : text' = text := by
  induction h generalizing text' with
  | whole texts _ ih =>
    cases h' with
    | whole texts' hinner' =>
      refine bindingsText_congr fun name inner hheld => ?_
      exact ih name inner hheld (hinner' name inner hheld)

/-- Plain recursion does not end where a cycle can be come to. -/
theorem PlainText.not_cyclic {text : String} (h : heap.PlainText store text) :
    ¬ heap.Cyclic store := by
  induction h with
  | whole texts _ ih =>
    rintro ⟨other, hreach, hcycle⟩
    rcases Relation.ReflTransGen.cases_head hreach with rfl | ⟨inner, ⟨name, hheld⟩, hrest⟩
    · obtain ⟨inner, ⟨name, hheld⟩, hback⟩ := Relation.TransGen.head'_iff.mp hcycle
      exact ih name inner hheld ⟨_, hback, hcycle⟩
    · exact ih name inner hheld ⟨other, hrest, hcycle⟩

/-- Where no cycle can be come to, the list makes no difference. -/
theorem plainText_renderIn (hcyclic : ¬ heap.Cyclic start)
    (hway : heap.OnWay start names path store) :
    heap.PlainText store (heap.renderIn path store) := by
  induction path, store using Heap.renderIn.induct heap generalizing names with
  | case1 path store hopen => exact absurd (cut_iff_cyclic.mp ⟨_, _, _, hway, hopen⟩) hcyclic
  | case2 path store hopen _ _ ih =>
    rw [renderIn_of_not_mem heap hopen]
    exact .whole _ fun name inner hheld => ih inner (.inner hway hopen hheld)
  | case3 path store hopen hplace =>
    rw [renderIn_of_not_mem heap hopen]
    refine .whole _ fun name inner hheld => ?_
    rw [get?, bindings_of_le (Nat.le_of_not_lt hplace), Std.ExtTreeMap.getElem?_empty] at hheld
    cases hheld

theorem plainText_iff {text : String} :
    heap.PlainText store text ↔ ¬ heap.Cyclic store ∧ text = heap.render store := by
  constructor
  · intro h
    exact ⟨h.not_cyclic, (plainText_renderIn h.not_cyclic .start).unique h⟩
  · rintro ⟨hcyclic, rfl⟩
    exact plainText_renderIn hcyclic .start

/-- A store is written in the same way wherever it is held. -/
theorem renderIn_eq_render (hcyclic : ¬ heap.Cyclic start)
    (hway : heap.OnWay start names path store) : heap.renderIn path store = heap.render store := by
  have hstore : ¬ heap.Cyclic store := fun ⟨other, hreach, hcycle⟩ =>
    hcyclic ⟨other, hway.reaches.1.trans hreach, hcycle⟩
  exact (plainText_renderIn hstore .start).unique (plainText_renderIn hcyclic hway)

/-- **Texts of stores.**  However stores hold each other, the writer ends with its list empty, and
what it has written is the text of the store.  It cuts a store short at just the entries that are
come to through that store, and so somewhere iff a cycle can be come to.  Otherwise, and only
otherwise, plain recursion ends, with the same text, in which a store is written in full wherever it
is held. -/
theorem text_cuts_at_cycles (heap : Heap) (start : StoreId) :
    ∃ written, heap.Writes (.store [] start) [] written [] ∧
      (∀ written' left, heap.Writes (.store [] start) [] written' left →
        written' = written ∧ left = []) ∧
      fragmentsText written = heap.render start ∧
      (∀ names path store, .cut names path store ∈ written ↔
        heap.OnWay start names path store ∧ store ∈ path) ∧
      (∀ names path store, .opening names path store ∈ written ↔
        heap.OnWay start names path store ∧ store ∉ path) ∧
      ((∃ names path store, .cut names path store ∈ written) ↔ heap.Cyclic start) ∧
      (∀ text, heap.PlainText start text ↔ ¬ heap.Cyclic start ∧ text = heap.render start) ∧
      (¬ heap.Cyclic start → ∀ names path store, heap.OnWay start names path store →
        heap.renderIn path store = heap.render store) := by
  obtain ⟨written, hwrites, htext⟩ := heap.exists_writes [] start []
  refine ⟨written, hwrites, fun _ _ h => hwrites.unique h, htext, fun _ _ _ => hwrites.cut_mem_iff,
    fun _ _ _ => hwrites.opening_mem_iff, ?_, fun _ => plainText_iff,
    fun hcyclic _ _ _ hway => renderIn_eq_render hcyclic hway⟩
  simp only [hwrites.cut_mem_iff]
  exact cut_iff_cyclic

/-- A store that holds itself. -/
example : (Heap.mk [(∅ : Bindings).insert "m" (.mapping 0)]).render 0 =
    "\x7b'm': \x7b...\x7d\x7d" := by
  cbv

end Heap

end LineScript
