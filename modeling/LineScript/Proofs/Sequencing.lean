import LineScript.Proofs.Comparison
import LineScript.Proofs.Limit

/-!
Programs one behind the other.

A text that is cut at a line feed has the lines of both parts, and perhaps an empty one between
them (`lines_append_lineFeed`).  Empty lines are passed over, so the whole runs as the first part
and then, if that has not failed, the second (`runSource_append`).  Nothing undoes a line: what a
failing program leaves is what the failing line makes of the state behind the lines before it
(`stopsAt_of_runLines`).  And a line that names an unknown command might as well not be there
(`runLines_without_unknown`).

Main statement: `program_is_run_line_by_line`.
-/

namespace LineScript

namespace Text

/-! ## Lines of a text that is cut at a line feed -/

theorem lineLists_cons {c : Char} {rest : List Char} (hfeed : c ≠ '\n')
    (hreturn : c = '\r' → rest.head? ≠ some '\n') :
    lineLists (c :: rest) = consLine c (lineLists rest) := by
  refine lineLists.eq_4 c rest hfeed ?_
  rintro after hc rfl
  exact hreturn hc rfl

theorem consLine_ne_nil (c : Char) (lines : List (List Char)) : consLine c lines ≠ [] := by
  cases lines <;> simp [consLine]

theorem lineLists_ne_nil {cs : List Char} (h : cs ≠ []) : lineLists cs ≠ [] := by
  fun_cases lineLists cs with
  | case1 => exact absurd rfl h
  | case2 => simp
  | case3 => simp
  | case4 => exact consLine_ne_nil _ _

theorem consLine_append (c : Char) {first : List (List Char)} (second : List (List Char))
    (h : first ≠ []) : consLine c (first ++ second) = consLine c first ++ second := by
  cases first with
  | nil => exact absurd rfl h
  | cons line rest => rfl

/-- A line feed ends the line in front of it, or else an empty one. -/
theorem lineLists_append_lineFeed (first second : List Char) (h : first.getLast? ≠ some '\r') :
    ∃ blanks, (∀ line ∈ blanks, line = []) ∧
      lineLists (first ++ '\n' :: second) = lineLists first ++ (blanks ++ lineLists second) := by
  fun_induction lineLists first with
  | case1 => exact ⟨[[]], by simp, rfl⟩
  | case2 rest ih =>
    cases rest with
    | nil => exact ⟨[[]], by simp, rfl⟩
    | cons d more =>
      obtain ⟨blanks, hblanks, hrest⟩ := ih (by simpa using h)
      exact ⟨blanks, hblanks, congrArg ([] :: ·) hrest⟩
  | case3 rest ih =>
    cases rest with
    | nil => exact ⟨[[]], by simp, rfl⟩
    | cons d more =>
      obtain ⟨blanks, hblanks, hrest⟩ := ih (by simpa using h)
      exact ⟨blanks, hblanks, congrArg ([] :: ·) hrest⟩
  | case4 c rest hfeed hreturn ih =>
    cases rest with
    | nil =>
      -- the line feed ends the last line of the first part
      have hlast : c ≠ '\r' := by simpa using h
      refine ⟨[], by simp, ?_⟩
      rw [List.singleton_append, lineLists_cons hfeed fun hc => absurd hc hlast]
      rfl
    | cons d more =>
      obtain ⟨blanks, hblanks, hrest⟩ := ih (by simpa using h)
      refine ⟨blanks, hblanks, ?_⟩
      have hpair : c = '\r' → d ≠ '\n' := by
        rintro hc rfl
        exact hreturn more hc rfl
      rw [List.cons_append, lineLists_cons hfeed (by simpa using hpair), hrest,
        consLine_append c _ (lineLists_ne_nil (List.cons_ne_nil d more))]

theorem lines_append_lineFeed (first second : String) (h : first.toList.getLast? ≠ some '\r') :
    ∃ blanks, (∀ line ∈ blanks, isBlank line = true) ∧
      lines (first ++ "\n" ++ second) = lines first ++ (blanks ++ lines second) := by
  obtain ⟨blanks, hblanks, hlines⟩ := lineLists_append_lineFeed first.toList second.toList h
  refine ⟨blanks.map String.ofList, fun line hline => ?_, ?_⟩
  · obtain ⟨cs, hcs, rfl⟩ := List.mem_map.mp hline
    rw [hblanks cs hcs]
    rfl
  · have htext : (first ++ "\n" ++ second).toList = first.toList ++ '\n' :: second.toList := by
      simp
    rw [lines, htext, hlines, List.map_append, List.map_append]
    rfl

end Text

namespace Session

variable {ω : Type}

/-! ## One program behind the other -/

theorem runLinesWith_of_isBlank (nested : String → Session ω → Ending ω Unit) (lines : List String)
    (h : ∀ line ∈ lines, Text.isBlank line = true) (s : Session ω) :
    runLinesWith nested lines s = (.ok (), s) := by
  induction lines with
  | nil => rfl
  | cons line rest ih =>
    obtain ⟨hline, hrest⟩ := List.forall_mem_cons.mp h
    rw [runLinesWith, hline]
    exact ih hrest

/-- The lines behind are run in the state that the lines before have left. -/
theorem runLines_append (s : Session ω) (before behind : List String) :
    s.runLines (before ++ behind) =
      (s.runLines before).andThen fun _ t => t.runLines behind := by
  unfold runLines
  rw [runLinesWith_append]
  have hlater := later_runLines before s
  unfold runLines at hlater
  generalize runLinesWith (nestedRun s.room) before s = ending at hlater
  obtain ⟨_ | _, t⟩ := ending
  · rfl
  · rw [Ending.andThen_ok, Ending.andThen_ok, hlater.room]

theorem runSource_append (s : Session ω) (first second : String)
    (h : first.toList.getLast? ≠ some '\r') :
    s.runSource (first ++ "\n" ++ second) =
      (s.runSource first).andThen fun _ t => t.runSource second := by
  obtain ⟨blanks, hblanks, hlines⟩ := Text.lines_append_lineFeed first second h
  unfold runSource
  rw [hlines, runLines_append]
  congr 1
  funext _ t
  rw [runLines_append, runLines, runLinesWith_of_isBlank _ blanks hblanks, Ending.andThen_ok]

/-! ## Programs that fail -/

/-- A run fails at a line: `u` is the state behind the lines before it, and `t` is what the line
makes of that. -/
structure StopsAt (s : Session ω) (before : List String) (u : Session ω) (line : String)
    (fault : Fault) (t : Session ω) : Prop where
  reached : s.runLines before = (.ok (), u)
  failed : u.runLine line = (.error fault, t)
  /-- What was written, read and done before the line stays. -/
  precedes : u.Precedes t
  /-- Operations stay registered. -/
  later : u.Later t
  /-- The variables stay as they are, unless the line runs a script or calls an operation that changes
  them. -/
  heap : (∀ tokens, tokenize line = .ok tokens →
    u.destination tokens ≠ .builtIn .run ∧ u.callHeap tokens = u.heap) → t.heap = u.heap

theorem eq_of_runLinesWith_error {nested : String → Session ω → Ending ω Unit}
    {lines : List String} {s t : Session ω} {fault : Fault}
    (h : runLinesWith nested lines s = (.error fault, t)) :
    ∃ before line behind u, lines = before ++ line :: behind ∧ Text.isBlank line = false ∧
      runLinesWith nested before s = (.ok (), u) ∧
      runLineWith nested line u = (.error fault, t) := by
  induction lines generalizing s with
  | nil => cases congrArg Prod.fst h
  | cons line rest ih =>
    rw [runLinesWith] at h
    cases hblank : Text.isBlank line with
    | true =>
      rw [hblank, if_pos rfl] at h
      obtain ⟨before, last, behind, u, rfl, hlast, hbefore, hfault⟩ := ih h
      refine ⟨line :: before, last, behind, u, rfl, hlast, ?_, hfault⟩
      rw [runLinesWith, hblank, if_pos rfl, hbefore]
    | false =>
      rw [hblank, if_neg (by simp)] at h
      cases hline : runLineWith nested line s with
      | mk result v =>
        rw [hline] at h
        cases result with
        | error other =>
          obtain ⟨rfl, rfl⟩ : other = fault ∧ v = t := by simpa using h
          exact ⟨[], line, rest, s, rfl, hblank, rfl, hline⟩
        | ok outcome =>
          obtain ⟨before, last, behind, u, rfl, hlast, hbefore, hfault⟩ := ih h
          refine ⟨line :: before, last, behind, u, rfl, hlast, ?_, hfault⟩
          rw [runLinesWith, hblank, if_neg (by simp), hline, Ending.andThen_ok, hbefore]

theorem runLine_heap_of_error {u t : Session ω} {line : String} {fault : Fault}
    (h : u.runLine line = (.error fault, t))
    (hspared : ∀ tokens, tokenize line = .ok tokens →
      u.destination tokens ≠ .builtIn .run ∧ u.callHeap tokens = u.heap) :
    t.heap = u.heap := by
  cases hline : tokenize line with
  | error e =>
    rw [runLine_of_scan_fault u hline] at h
    rw [(Prod.mk.inj h).2]
  | ok tokens =>
    rw [runLine, runLineWith_of_tokens _ _ _ _ hline] at h
    obtain ⟨hrun, hcalled⟩ := hspared tokens hline
    have hnoted : (u.note (.scanned tokens)).destination tokens ≠ .builtIn .run := hrun
    have hheap := executeWith_heap_of_error hnoted (congrArg Prod.fst h)
    rw [h] at hheap
    exact hheap.trans hcalled

theorem stopsAt_of_runLines {s t : Session ω} {lines : List String} {fault : Fault}
    (h : s.runLines lines = (.error fault, t)) :
    ∃ before line behind u, lines = before ++ line :: behind ∧ Text.isBlank line = false ∧
      s.StopsAt before u line fault t := by
  obtain ⟨before, line, behind, u, hlines, hblank, hbefore, hfault⟩ := eq_of_runLinesWith_error h
  have hlater : s.Later u := by
    have := later_runLines before s
    rwa [runLines, hbefore] at this
  have hroom : nestedRun (ω := ω) s.room = nestedRun u.room := by rw [hlater.room]
  have hline : u.runLine line = (.error fault, t) := by rw [runLine, ← hroom, hfault]
  refine ⟨before, line, behind, u, hlines, hblank, hbefore, hline, ?_, ?_,
    runLine_heap_of_error hline⟩
  · have hprecedes := precedes_of_runs.runLineWith
      (fun text v _ _ => precedes_nestedRun u.room text v) line (fun _ _ => trivial) u
      u.scriptsAllowed_true
    rwa [show runLineWith (nestedRun u.room) line u = (.error fault, t) from hline] at hprecedes
  · have := later_runLine line u
    rwa [hline] at this

end Session

/-! ## Unknown commands -/

/-- What a line that names this unknown command leaves in the journal. -/
def Event.namesUnknown (name : String) : Event → Bool
  | .scanned (head :: _) => head.text == name
  | .unknownCommand other => other == name
  | _ => false

namespace Session

variable {ω : Type}

/-- A statement that goes somewhere is executed or fails. -/
theorem andThen_executed_ne_unknown {α : Type} (ending : Ending ω α) (name : String) :
    (ending.andThen fun _ s => (.ok Outcome.executed, s)).1 ≠ .ok (.unknownCommand name) := by
  obtain ⟨_ | _, t⟩ := ending <;> simp

/-- A line that names an unknown command is scanned and reported, and that is all. -/
theorem eq_of_runLine_unknown {u v : Session ω} {line name : String}
    (h : u.runLine line = (.ok (.unknownCommand name), v)) :
    ∃ head rest, tokenize line = .ok (head :: rest) ∧ head.text = name ∧
      v = (u.note (.scanned (head :: rest))).note (.unknownCommand name) := by
  cases hline : tokenize line with
  | error e =>
    rw [runLine_of_scan_fault u hline] at h
    cases congrArg Prod.fst h
  | ok tokens =>
    rw [runLine, runLineWith_of_tokens _ _ _ _ hline] at h
    cases tokens with
    | nil => cases congrArg Prod.fst h
    | cons head rest =>
      simp only [executeWith] at h
      split at h
      · exact absurd (congrArg Prod.fst h) (andThen_executed_ne_unknown _ name)
      · split at h
        · exact absurd (congrArg Prod.fst h) (andThen_executed_ne_unknown _ name)
        · cases h
          exact ⟨head, rest, rfl, rfl, rfl⟩

/-- A program does without such a line what it does with it. -/
theorem runLines_without_unknown {s u v : Session ω} {before behind : List String}
    {line name : String} (hbefore : s.runLines before = (.ok (), u))
    (hline : u.runLine line = (.ok (.unknownCommand name), v)) :
    (s.runLines (before ++ behind)).1 = (s.runLines (before ++ line :: behind)).1 ∧
      (s.runLines (before ++ line :: behind)).2.SameBut (Event.namesUnknown name)
        (s.runLines (before ++ behind)).2 := by
  obtain ⟨head, rest, -, hname, rfl⟩ := eq_of_runLine_unknown hline
  let v := (u.note (.scanned (head :: rest))).note (.unknownCommand name)
  have hscanned : Event.namesUnknown name (.scanned (head :: rest)) = true := by
    simp [Event.namesUnknown, hname]
  have hreported : Event.namesUnknown name (.unknownCommand name) = true := by
    simp [Event.namesUnknown]
  have hu : (Comparison.ignoring u.own (Event.namesUnknown name)).Matched u u :=
    Comparison.exact_matched u
  have hv : (Comparison.ignoring u.own (Event.namesUnknown name)).Matched v u :=
    (hu.note_left (congrArg not hscanned)).note_left (congrArg not hreported)
  -- if the line is blank it is passed over, otherwise it leads to `v`
  have hbehind (w : Session ω)
      (hw : (Comparison.ignoring u.own (Event.namesUnknown name)).Matched w u) :=
    Comparison.agrees_runLinesWith (Comparison.agrees_nestedRun (Nat.le_refl u.room) (.inr rfl))
      behind (fun line _ => Comparison.exact_lineAllowed line) hw
  have hagrees : (Comparison.ignoring u.own (Event.namesUnknown name)).Agrees
      (u.runLines (line :: behind)) (u.runLines behind) := by
    unfold runLines
    rw [runLinesWith]
    split
    · exact hbehind u hu
    · rw [show runLineWith (nestedRun u.room) line u = _ from hline, Ending.andThen_ok]
      exact hbehind v hv
  rw [runLines_append, runLines_append, hbefore, Ending.andThen_ok, Ending.andThen_ok]
  exact sameBut_of_agrees (later_runLines _ u) (later_runLines _ u) hagrees

/-- **Programs compose line by line.**  Let the first part of a text not end in a carriage return.
The text that is cut into two parts at a line feed runs as the first part and then, if that has not
failed, the second.  If the first part fails, then the whole does, in the same state: what the
failing line makes of the state behind the lines before it.  A line of either part that names an
unknown command is reported, and otherwise the program does what it does without the line. -/
theorem program_is_run_line_by_line (s : Session ω) (first second : String)
    (h : first.toList.getLast? ≠ some '\r') :
    let whole := s.runSource (first ++ "\n" ++ second)
    (whole = (s.runSource first).andThen fun _ t => t.runSource second) ∧
    (∀ fault t, s.runSource first = (.error fault, t) →
      whole = (.error fault, t) ∧
      ∃ before line behind u, Text.lines first = before ++ line :: behind ∧
        Text.isBlank line = false ∧ s.StopsAt before u line fault t) ∧
    ∀ before line behind u v name, Text.lines (first ++ "\n" ++ second) = before ++ line :: behind →
      s.runLines before = (.ok (), u) → u.runLine line = (.ok (.unknownCommand name), v) →
      (∃ tokens, tokenize line = .ok tokens ∧
        v = (u.note (.scanned tokens)).note (.unknownCommand name)) ∧
      (s.runLines (before ++ behind)).1 = whole.1 ∧
      whole.2.SameBut (Event.namesUnknown name) (s.runLines (before ++ behind)).2 := by
  intro whole
  have hwhole : whole = (s.runSource first).andThen fun _ t => t.runSource second :=
    runSource_append s first second h
  refine ⟨hwhole, fun fault t hfault => ⟨?_, stopsAt_of_runLines hfault⟩, ?_⟩
  · rw [hwhole, hfault, Ending.andThen_error]
  · intro before line behind u v name hlines hbefore hline
    obtain ⟨head, rest, htokens, -, hv⟩ := eq_of_runLine_unknown hline
    have hrun : whole = s.runLines (before ++ line :: behind) := by
      rw [← hlines]
      rfl
    rw [hrun]
    exact ⟨⟨_, htokens, hv⟩, runLines_without_unknown hbefore hline⟩

/-- A command that nobody knows, and then a character that begins no token, in front of a line that
is not reached. -/
theorem program_is_run_line_by_line_of_semicolon :
    let s := start Host.ofTable ⟨[], []⟩
    let tokens : List Token := [⟨.identifier, "f"⟩]
    let v := (s.note (.scanned tokens)).note (.unknownCommand "f")
    let whole := s.runSource ("f\n;" ++ "\n" ++ "CLEAR")
    "f\n;".toList.getLast? ≠ some '\r' ∧
    s.runSource "f\n;" = (.error (.lex ⟨';', 0⟩), v) ∧
    whole = (.error (.lex ⟨';', 0⟩), v) ∧
    (∃ before line behind u, Text.lines "f\n;" = before ++ line :: behind ∧
      Text.isBlank line = false ∧ s.StopsAt before u line (.lex ⟨';', 0⟩) v) ∧
    s.runLine "f" = (.ok (.unknownCommand "f"), v) ∧
    whole.2.SameBut (Event.namesUnknown "f") (s.runLines ([] ++ [";", "CLEAR"])).2 := by
  intro s tokens v whole
  have hreturn : "f\n;".toList.getLast? ≠ some '\r' := by decide
  have hfirst : Text.lines "f\n;" = ["f", ";"] := by decide
  have hlines : Text.lines ("f\n;" ++ "\n" ++ "CLEAR") = ["f", ";", "CLEAR"] := by decide
  have hblank : Text.isBlank "f" = false ∧ Text.isBlank ";" = false := by decide
  have hf : s.runLine "f" = (.ok (.unknownCommand "f"), v) := by
    have htokens : tokenize "f" = .ok tokens := by cbv
    have hplace : (s.note (.scanned tokens)).destination tokens = .unknown "f" := by
      have hname : Keyword.ofName? "f" = none := by decide
      simp [tokens, s, start, destination, Session.note, hname]
    rw [runLine, runLineWith_of_tokens _ _ _ _ htokens, executeWith_eq, hplace]
  have hfault : s.runSource "f\n;" = (.error (.lex ⟨';', 0⟩), v) := by
    rw [runSource, hfirst, runLines, runLinesWith, hblank.1,
      show runLineWith (nestedRun s.room) "f" s = _ from hf, if_neg (by simp),
      Ending.andThen_ok, runLinesWith, hblank.2, runLineWith, tokenize_semicolon]
    rfl
  obtain ⟨-, hfails, hunknown⟩ := program_is_run_line_by_line s "f\n;" "CLEAR" hreturn
  obtain ⟨hwhole, hstops⟩ := hfails _ v hfault
  obtain ⟨-, -, hsame⟩ := hunknown [] "f" [";", "CLEAR"] s v "f" hlines rfl hf
  exact ⟨hreturn, hfault, hwhole, hstops, hf, hsame⟩

end Session

end LineScript
