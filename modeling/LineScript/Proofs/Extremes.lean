import Mathlib
import LineScript.Proofs.FloatOrder
import LineScript.Proofs.Spacing

/-!
MIN and MAX of the unit `math`.

Both are one fold, from an infinite start, that goes over to an argument which beats the best one so
far (`Extreme.operation`).

* One step keeps the best argument unbeaten (`Picks.cons`), so the whole fold does (`picks_foldl`).
* Every number but the start itself beats the start (`eq_start`), so the start is left behind as soon
  as an argument is a number.  NaN never beats anything: the start stays if all arguments are NaN.

Main statement: `extremes_are_arguments`.
-/

namespace LineScript

open Decimal

/-! ## The order of an extreme -/

inductive Extreme
  | least
  | greatest
deriving DecidableEq

namespace Extreme

def name : Extreme → String
  | least => "MIN"
  | greatest => "MAX"

def start : Extreme → Float
  | least => infinity
  | greatest => -infinity

/-- The better one of two numbers. -/
def pick : Extreme → Float → Float → Float
  | least => smaller
  | greatest => larger

/-- `x` is smaller, or greater, than `y`. -/
def Beats (e : Extreme) (x y : Float) : Prop :=
  match e with
  | least => x < y
  | greatest => y < x

instance (e : Extreme) (x y : Float) : Decidable (e.Beats x y) :=
  match e with
  | least => inferInstanceAs (Decidable (x < y))
  | greatest => inferInstanceAs (Decidable (y < x))

/-- The place of a number in the order; the better one has the lower place. -/
def place (e : Extreme) (x : Float) : Int :=
  match e with
  | least => signedBits x
  | greatest => -signedBits x

variable {e : Extreme} {x y : Float}

theorem pick_eq (e : Extreme) (best x : Float) :
    e.pick best x = if e.Beats x best then x else best := by
  cases e with
  | least => rfl
  | greatest => rfl

theorem beats_iff (hx : x.isNaN = false) (hy : y.isNaN = false) :
    e.Beats x y ↔ e.place x < e.place y := by
  cases e with
  | least => exact lt_iff hx hy
  | greatest =>
    show y < x ↔ -signedBits x < -signedBits y
    rw [lt_iff hy hx]
    omega

theorem not_beats_of_isNaN (e : Extreme) (hx : x.isNaN = true) (y : Float) : ¬ e.Beats x y := by
  cases e with
  | least => exact (not_lt_of_isNaN hx y).1
  | greatest => exact (not_lt_of_isNaN hx y).2

theorem beq_iff_place (e : Extreme) (hx : x.isNaN = false) (hy : y.isNaN = false) :
    (x == y) = true ↔ e.place x = e.place y := by
  rw [beq_iff hx hy]
  cases e with
  | least => exact Iff.rfl
  | greatest =>
    show signedBits x = signedBits y ↔ -signedBits x = -signedBits y
    omega

theorem eq_of_place_eq (hne : e.place x ≠ 0) (h : e.place x = e.place y) : x = y := by
  cases e with
  | least => exact eq_of_signedBits_eq hne h
  | greatest => exact eq_of_signedBits_eq (Int.neg_ne_zero.mp hne) (Int.neg_inj.mp h)

/-! ## The start -/

theorem start_isNaN (e : Extreme) : e.start.isNaN = false := by
  cases e <;> decide +kernel

theorem place_start (e : Extreme) : e.place e.start = infinityBits := by
  cases e <;> decide +kernel

theorem place_le (e : Extreme) (hx : x.isNaN = false) : e.place x ≤ infinityBits := by
  obtain ⟨hlow, hhigh⟩ := signedBits_le hx
  cases e with
  | least => exact hhigh
  | greatest => exact Int.neg_le_of_neg_le hlow

/-- Every number but the start beats the start. -/
theorem eq_start (hx : x.isNaN = false) (h : ¬ e.Beats x e.start) : x = e.start := by
  rw [beats_iff hx e.start_isNaN] at h
  have hle := e.place_le hx
  have hstart := e.place_start
  have hsame : e.place x = e.place e.start := by omega
  have hpos : (0 : Int) < infinityBits := by decide
  exact eq_of_place_eq (by omega) hsame

/-! ## The fold -/

/-- `best` is what the fold over the numbers comes to from a number `first`. -/
structure Picks (e : Extreme) (first : Float) (numbers : List Float) (best : Float) : Prop where
  notNaN : best.isNaN = false
  mem : best = first ∨ best ∈ numbers
  unbeaten : ∀ x ∈ first :: numbers, ¬ e.Beats x best

/-- One step of the fold. -/
theorem Picks.cons {first best : Float} {numbers : List Float} (hfirst : first.isNaN = false)
    (h : e.Picks (e.pick first x) numbers best) : e.Picks first (x :: numbers) best := by
  obtain ⟨hbest, hmem, hunbeaten⟩ := h
  rw [List.forall_mem_cons] at hunbeaten
  obtain ⟨hpicked, hnumbers⟩ := hunbeaten
  rw [pick_eq] at hmem hpicked
  by_cases hbeats : e.Beats x first
  · -- the fold goes over to `x`
    rw [if_pos hbeats] at hmem hpicked
    have hx : x.isNaN = false := by
      rw [Bool.eq_false_iff]
      exact fun hnan => e.not_beats_of_isNaN hnan first hbeats
    have hfirst' : ¬ e.Beats first best := by
      rw [beats_iff hx hfirst] at hbeats
      rw [beats_iff hx hbest] at hpicked
      rw [beats_iff hfirst hbest]
      omega
    refine ⟨hbest, .inr ?_, ?_⟩
    · rcases hmem with rfl | hmem
      · exact List.mem_cons_self
      · exact List.mem_cons_of_mem _ hmem
    · exact List.forall_mem_cons.mpr ⟨hfirst', List.forall_mem_cons.mpr ⟨hpicked, hnumbers⟩⟩
  · -- the fold stays with `first`
    rw [if_neg hbeats] at hmem hpicked
    have hx' : ¬ e.Beats x best := by
      cases hx : x.isNaN with
      | true => exact e.not_beats_of_isNaN hx best
      | false =>
        rw [beats_iff hx hfirst] at hbeats
        rw [beats_iff hfirst hbest] at hpicked
        rw [beats_iff hx hbest]
        omega
    refine ⟨hbest, ?_, ?_⟩
    · rcases hmem with rfl | hmem
      · exact .inl rfl
      · exact .inr (List.mem_cons_of_mem _ hmem)
    · exact List.forall_mem_cons.mpr ⟨hpicked, List.forall_mem_cons.mpr ⟨hx', hnumbers⟩⟩

theorem pick_isNaN {first : Float} (hfirst : first.isNaN = false) (x : Float) :
    (e.pick first x).isNaN = false := by
  rw [pick_eq]
  by_cases hbeats : e.Beats x first
  · rw [if_pos hbeats, Bool.eq_false_iff]
    exact fun hnan => e.not_beats_of_isNaN hnan first hbeats
  · rw [if_neg hbeats]
    exact hfirst

/-- The whole fold. -/
theorem picks_foldl {first : Float} (hfirst : first.isNaN = false) (numbers : List Float) :
    e.Picks first numbers (numbers.foldl e.pick first) := by
  induction numbers generalizing first with
  | nil =>
    refine ⟨hfirst, .inl rfl, ?_⟩
    intro x hx
    obtain rfl := List.mem_singleton.mp hx
    rw [List.foldl_nil, beats_iff hfirst hfirst]
    omega
  | cons x numbers ih => exact (ih (pick_isNaN hfirst x)).cons hfirst

/-- The extreme of the numbers. -/
def best (e : Extreme) (numbers : List Float) : Float :=
  numbers.foldl e.pick e.start

theorem best_picks (e : Extreme) (numbers : List Float) :
    e.Picks e.start numbers (e.best numbers) :=
  picks_foldl e.start_isNaN numbers

theorem best_mem {numbers : List Float} (h : ∃ x ∈ numbers, x.isNaN = false) :
    e.best numbers ∈ numbers := by
  obtain ⟨x, hx, hnumber⟩ := h
  obtain ⟨-, hmem, hunbeaten⟩ := e.best_picks numbers
  rcases hmem with hstart | hmem
  · have hbeats := hunbeaten x (List.mem_cons_of_mem _ hx)
    rw [hstart] at hbeats ⊢
    rwa [← eq_start hnumber hbeats]
  · exact hmem

/-- NaN leaves the fold where it is. -/
theorem best_of_isNaN {numbers : List Float} (h : ∀ x ∈ numbers, x.isNaN = true) :
    e.best numbers = e.start := by
  induction numbers with
  | nil => rfl
  | cons x numbers ih =>
    obtain ⟨hx, hnumbers⟩ := List.forall_mem_cons.mp h
    show numbers.foldl e.pick (e.pick e.start x) = e.start
    rw [pick_eq, if_neg (e.not_beats_of_isNaN hx _)]
    exact ih hnumbers

/-- The order of the numbers does not matter. -/
theorem best_perm {numbers others : List Float} (h : others.Perm numbers) :
    (e.best numbers == e.best others) = true := by
  obtain ⟨hbest, hmem, hunbeaten⟩ := e.best_picks numbers
  obtain ⟨hbest', hmem', hunbeaten'⟩ := e.best_picks others
  have hle : ¬ e.Beats (e.best others) (e.best numbers) := by
    refine hunbeaten _ ?_
    rcases hmem' with hstart | hmem'
    · rw [hstart]
      exact List.mem_cons_self
    · exact List.mem_cons_of_mem _ (h.mem_iff.mp hmem')
  have hge : ¬ e.Beats (e.best numbers) (e.best others) := by
    refine hunbeaten' _ ?_
    rcases hmem with hstart | hmem
    · rw [hstart]
      exact List.mem_cons_self
    · exact List.mem_cons_of_mem _ (h.mem_iff.mpr hmem)
  rw [beats_iff hbest' hbest] at hle
  rw [beats_iff hbest hbest'] at hge
  rw [e.beq_iff_place hbest hbest']
  omega

/-! ## The operation -/

/-- The operation that the unit registers under the name. -/
def operation (e : Extreme) : Operation where
  arity := .atLeast 1
  origin := .bundled
  apply := fun _ arguments => do
    return some (.number (← foldNumbers e.name e.pick e.start arguments))

theorem lookup_operation (e : Extreme) : mathUnit.operations.lookup e.name = some e.operation := by
  cases e <;> rfl

end Extreme

/-- The fold stops at the first argument that is no number. -/
theorem foldNumbers_eq (name : String) (f : Float → Float → Float) (best : Float)
    (arguments : List Value) :
    foldNumbers name f best arguments =
      match arguments.find? fun v => v.asNumber?.isNone with
      | some v => .error (name ++ " expects a number, got " ++ v.typeName)
      | none => .ok ((arguments.filterMap Value.asNumber?).foldl f best) := by
  induction arguments generalizing best with
  | nil => rfl
  | cons v rest ih =>
    cases v with
    | number x => exact ih (f best x)
    | text _ | mapping _ => rfl

namespace Extreme

variable {e : Extreme}

/-- What a call comes to. -/
theorem call_result (e : Extreme) (heap : Heap) {arguments : List Value} (hne : arguments ≠ []) :
    (e.operation.call e.name heap arguments).result =
      match arguments.find? fun v => v.asNumber?.isNone with
      | some v => .error (.failed (e.name ++ " expects a number, got " ++ v.typeName))
      | none => .ok (some (.number (e.best (arguments.filterMap Value.asNumber?)))) := by
  have haccepts : e.operation.arity.accepts arguments.length = true :=
    decide_eq_true (List.length_pos_iff.mpr hne)
  have happly : e.operation.apply heap arguments =
      (foldNumbers e.name e.pick e.start arguments).map fun x => some (Value.number x) := by
    show (do return some (Value.number (← foldNumbers e.name e.pick e.start arguments))) = _
    cases foldNumbers e.name e.pick e.start arguments <;> rfl
  unfold Operation.call
  rw [if_pos haccepts, happly, foldNumbers_eq]
  cases arguments.find? fun v => v.asNumber?.isNone with
  | some v => rfl
  | none => rfl

theorem result_eq_error_iff (e : Extreme) (heap : Heap) {arguments : List Value}
    (hne : arguments ≠ []) :
    (∃ cause, (e.operation.call e.name heap arguments).result = .error cause) ↔
      ∃ v ∈ arguments, v.asNumber? = none := by
  rw [e.call_result heap hne]
  constructor
  · rintro ⟨cause, hcause⟩
    cases hfind : arguments.find? fun v => v.asNumber?.isNone with
    | some v =>
      have hv := List.find?_some hfind
      exact ⟨v, List.mem_of_find?_eq_some hfind, Option.isNone_iff_eq_none.mp hv⟩
    | none =>
      rw [hfind] at hcause
      cases hcause
  · rintro ⟨v, hv, hnone⟩
    obtain ⟨w, hw⟩ : ∃ w, arguments.find? (fun v => v.asNumber?.isNone) = some w := by
      rw [← Option.isSome_iff_exists, List.find?_isSome]
      exact ⟨v, hv, Option.isNone_iff_eq_none.mpr hnone⟩
    rw [hw]
    exact ⟨_, rfl⟩

/-- The failure names the first argument that is no number. -/
theorem result_of_first (e : Extreme) (heap : Heap) {front behind : List Value} {v : Value}
    (hfront : ∀ w ∈ front, w.asNumber? ≠ none) (hv : v.asNumber? = none) :
    (e.operation.call e.name heap (front ++ v :: behind)).result =
      .error (.failed (e.name ++ " expects a number, got " ++ v.typeName)) := by
  have hfind : (front ++ v :: behind).find? (fun v => v.asNumber?.isNone) = some v := by
    rw [List.find?_eq_some_iff_append]
    refine ⟨Option.isNone_iff_eq_none.mpr hv, front, behind, rfl, ?_⟩
    intro w hw
    simpa [Option.isSome_iff_ne_none] using hfront w hw
  rw [e.call_result heap (by simp), hfind]

theorem call_result_of_numbers (e : Extreme) (heap : Heap) {numbers : List Float}
    (hne : numbers ≠ []) :
    (e.operation.call e.name heap (numbers.map .number)).result =
      .ok (some (.number (e.best numbers))) := by
  have hnone : (numbers.map Value.number).find? (fun v => v.asNumber?.isNone) = none := by
    rw [List.find?_eq_none]
    intro v hv
    obtain ⟨x, -, rfl⟩ := List.mem_map.mp hv
    simp [Value.asNumber?]
  have hnumbers : (numbers.map Value.number).filterMap Value.asNumber? = numbers := by
    rw [List.filterMap_map]
    exact List.filterMap_some
  rw [e.call_result heap (by simpa using hne), hnone, hnumbers]

/-- **MIN and MAX return an extreme argument.**  Let the operation of the unit be given at least one
argument.  It fails iff some argument is no number, and says the type of the first one that is none.
Otherwise no argument beats the result, and the arguments in any other order have an equal result; the
result is one of the arguments if any of them is a number other than NaN.  If all of them are NaN, it
is infinite. -/
theorem extremes_are_arguments (e : Extreme) :
    Catalog.bundled.lookup "math" = some mathUnit ∧
    mathUnit.operations.lookup e.name = some e.operation ∧
    ∀ (heap : Heap) (arguments : List Value), arguments ≠ [] →
      let result (given : List Value) := (e.operation.call e.name heap given).result
      ((∃ cause, result arguments = .error cause) ↔ ∃ v ∈ arguments, v.asNumber? = none) ∧
      (∀ front v behind, arguments = front ++ v :: behind →
        (∀ w ∈ front, w.asNumber? ≠ none) → v.asNumber? = none →
        result arguments =
          .error (.failed (e.name ++ " expects a number, got " ++ v.typeName))) ∧
      ∀ numbers : List Float, arguments = numbers.map .number →
        ∃ x, result arguments = .ok (some (.number x)) ∧
          ((∃ y ∈ numbers, y.isNaN = false) → x ∈ numbers) ∧
          ((∀ y ∈ numbers, y.isNaN = true) → x = e.start) ∧
          (∀ y ∈ numbers, ¬ e.Beats y x) ∧
          ∀ others : List Float, others.Perm numbers →
            ∃ y, result (others.map Value.number) = .ok (some (.number y)) ∧ (x == y) = true := by
  refine ⟨?_, e.lookup_operation, ?_⟩
  · rw [Catalog.bundled, Catalog.lookup_add, if_pos rfl]
  · intro heap arguments hne result
    refine ⟨e.result_eq_error_iff heap hne, ?_, ?_⟩
    · rintro front v behind rfl hfront hv
      exact e.result_of_first heap hfront hv
    · intro numbers harguments
      have hnumbers : numbers ≠ [] := by
        rintro rfl
        exact hne harguments
      have hpicks := e.best_picks numbers
      refine ⟨e.best numbers, ?_, best_mem, best_of_isNaN, ?_, ?_⟩
      · rw [harguments]
        exact e.call_result_of_numbers heap hnumbers
      · intro y hy
        exact hpicks.unbeaten y (List.mem_cons_of_mem _ hy)
      · intro others hperm
        have hothers : others ≠ [] := by
          rintro rfl
          exact hnumbers hperm.symm.eq_nil
        exact ⟨e.best others, e.call_result_of_numbers heap hothers, best_perm hperm⟩

/-- A number, a NaN and a smaller number; and two arguments that are no numbers. -/
theorem extremes_are_arguments_of_three :
    let nan := Float.ofBits 0x7FF8000000000000
    let numbers : List Float := [3.0, nan, -1.0]
    let others : List Float := [-1.0, 3.0, nan]
    let given : List Value := [.number 3.0, .text "a", .mapping 0]
    let result (given : List Value) :=
      (Extreme.least.operation.call Extreme.least.name Heap.empty given).result
    nan.isNaN = true ∧ (∃ cause, result given = .error cause) ∧
    result given = .error (.failed "MIN expects a number, got string") ∧
    ∃ x y, result (numbers.map .number) = .ok (some (.number x)) ∧ x ∈ numbers ∧
      (∀ z ∈ numbers, ¬ z < x) ∧
      result (others.map .number) = .ok (some (.number y)) ∧ (x == y) = true := by
  intro nan numbers others given result
  have hnan : nan.isNaN = true := by decide +kernel
  have hthree : ∃ z ∈ numbers, z.isNaN = false := ⟨3.0, List.mem_cons_self, by decide +kernel⟩
  obtain ⟨-, -, hcalls⟩ := extremes_are_arguments .least
  obtain ⟨hfails, hnames, -⟩ := hcalls Heap.empty given (by simp [given])
  obtain ⟨-, -, hnumbers⟩ := hcalls Heap.empty (numbers.map .number) (by simp [numbers])
  have hfirst := hnames [.number 3.0] (.text "a") [.mapping 0] rfl (by simp [Value.asNumber?]) rfl
  obtain ⟨x, hx, hmem, -, hunbeaten, hperm⟩ := hnumbers numbers rfl
  obtain ⟨y, hy, hequal⟩ := hperm others
    (List.perm_append_comm : ([-1.0] ++ [3.0, nan]).Perm ([3.0, nan] ++ [-1.0]))
  refine ⟨hnan, hfails.mpr ⟨.text "a", by simp [given], rfl⟩, hfirst, x, y, hx, hmem hthree, ?_, hy,
    hequal⟩
  intro z hz
  exact hunbeaten z hz

/-- The tokens of a call of MIN with one argument, the number word `nan`. -/
def leastOfNaN : List Token :=
  [⟨.keyword, "CALL"⟩, ⟨.identifier, "MIN"⟩, ⟨.identifier, "nan"⟩, ⟨.identifier, "r"⟩]

set_option maxRecDepth 20000 in
theorem tokenize_leastOfNaN : tokenize "CALL MIN nan r" = .ok leastOfNaN := by cbv

open Session in
/-- MIN of a NaN alone is infinity, which is none of its arguments. -/
theorem least_of_nan_is_no_argument :
    let s := Session.start Host.ofTable ⟨[], []⟩
    let t := (s.runLine "IMPORT \"math\"").2
    let u := (t.runLine "CALL MIN nan r").2
    let nan := Float.ofBits 0x7FF8000000000000
    t.resolve "nan" = .number nan ∧ (t.runLine "CALL MIN nan r").1 = .ok .executed ∧
      u.lookup "r" = .number infinity ∧ infinity ≠ nan := by
  intro s t u nan
  let unitTokens := Keyword.importUnit.quotedTokens "math"
  have hunit : tokenize "IMPORT \"math\"" = .ok unitTokens :=
    tokenize_quotedLine .importUnit "math" (by decide) (by decide)
  have ht : t = (executeWith (nestedRun s.room) unitTokens (s.note (.scanned unitTokens))).2 :=
    congrArg Prod.snd (runLineWith_of_tokens _ _ _ s hunit)
  have hcall : t.runLine "CALL MIN nan r" =
      executeWith (nestedRun t.room) leastOfNaN (t.note (.scanned leastOfNaN)) :=
    runLineWith_of_tokens _ _ _ t tokenize_leastOfNaN
  have hu : u = (executeWith (nestedRun t.room) leastOfNaN (t.note (.scanned leastOfNaN))).2 :=
    congrArg Prod.snd hcall
  rw [hcall, hu, ht]
  refine ⟨?_, ?_, ?_, ?_⟩
  · decide +kernel
  · rfl
  · decide +kernel
  · decide +kernel

end Extreme

end LineScript
