import Mathlib
import LineScript.Proofs.ByteOrder
import LineScript.Proofs.Moves
import LineScript.Proofs.Sequencing
import LineScript.Proofs.Shadowing

/-!
The lines that INPUT hands out.

The bytes to be read are cut behind every line feed (`pieces`), and each INPUT takes one piece.

* Taking a line takes the first piece and leaves the others (`lineBytes_eq`, `unread_readLine`).
* Of a piece that is text, what ends the line is taken off and nothing else
  (`stripsLineEnd_withoutLineEnd`), so the pieces of a text are its lines
  (`map_withoutLineEnd_pieces`, `pieces_utf8`).
* A move takes a piece if it is an INPUT with both operands, and leaves the input alone otherwise
  (`input_of_moves`); so after any moves the pieces are left that were not taken
  (`pieces_of_leads`).

Main statement: `input_hands_out_lines`.
-/

namespace LineScript

/-! ## Pieces -/

section

variable {α : Type} [DecidableEq α] {mark : α}

/-- The list, cut behind every `mark`. -/
def pieces (mark : α) (xs : List α) : List (List α) :=
  xs.splitBy fun x _ => x ≠ mark

theorem flatten_pieces (mark : α) (xs : List α) : (pieces mark xs).flatten = xs :=
  List.flatten_splitBy _ xs

theorem pieces_of_not_mem {xs : List α} (hne : xs ≠ []) (h : mark ∉ xs) :
    pieces mark xs = [xs] := by
  have hmarks : ∀ x ∈ xs, x ≠ mark := fun x hx hmark => h (hmark ▸ hx)
  exact List.splitBy_of_isChain hne
    (List.pairwise_of_forall_mem_list fun x hx _ _ => decide_eq_true (hmarks x hx)).isChain

theorem pieces_append_mark {front : List α} (h : mark ∉ front) (rest : List α) :
    pieces mark (front ++ mark :: rest) = (front ++ [mark]) :: pieces mark rest := by
  have hmarks : ∀ x ∈ front, x ≠ mark := fun x hx hmark => h (hmark ▸ hx)
  have hfirst : pieces mark (front ++ [mark]) = [front ++ [mark]] := by
    refine List.splitBy_of_isChain (by simp) (List.pairwise_append.mpr ⟨?_, ?_, ?_⟩).isChain
    · exact List.pairwise_of_forall_mem_list fun x hx _ _ => decide_eq_true (hmarks x hx)
    · exact List.pairwise_singleton _ _
    · exact fun x hx _ _ => decide_eq_true (hmarks x hx)
  have hcut : pieces mark ((front ++ [mark]) ++ rest) =
      pieces mark (front ++ [mark]) ++ pieces mark rest :=
    List.splitBy_append (by simp)
  rwa [List.append_assoc, List.singleton_append, hfirst] at hcut

/-- The list is empty, one open piece, or a piece with further ones behind it. -/
theorem pieces_induction {motive : List α → Prop} (mark : α) (nil : motive [])
    (last : ∀ xs, xs ≠ [] → mark ∉ xs → motive xs)
    (append : ∀ front rest, mark ∉ front → motive rest → motive (front ++ mark :: rest))
    (xs : List α) : motive xs := by
  induction hlength : xs.length using Nat.strongRecOn generalizing xs with
  | ind length ih =>
    by_cases hmark : mark ∈ xs
    · obtain ⟨front, rest, rfl, hfront⟩ := List.eq_append_cons_of_mem hmark
      refine append front rest hfront (ih rest.length ?_ rest rfl)
      rw [← hlength, List.length_append, List.length_cons]
      omega
    · by_cases hne : xs = []
      · exact hne ▸ nil
      · exact last xs hne hmark

end

/-! ## Taking a line -/

namespace ByteReader

theorem lineBytes_of_not_mem {bytes : List UInt8} (h : 0x0A ∉ bytes) : lineBytes bytes = bytes := by
  induction bytes with
  | nil => rfl
  | cons b rest ih =>
    obtain ⟨hb, hrest⟩ := not_or.mp (mt List.mem_cons.mpr h)
    rw [lineBytes, if_neg (Ne.symm hb), ih hrest]

theorem lineBytes_append_feed {front : List UInt8} (h : 0x0A ∉ front) (rest : List UInt8) :
    lineBytes (front ++ 0x0A :: rest) = front ++ [0x0A] := by
  induction front with
  | nil => rfl
  | cons b more ih =>
    obtain ⟨hb, hmore⟩ := not_or.mp (mt List.mem_cons.mpr h)
    rw [List.cons_append, lineBytes, if_neg (Ne.symm hb), ih hmore]
    rfl

/-- A line that is taken is the first piece. -/
theorem lineBytes_eq (bytes : List UInt8) : lineBytes bytes = (pieces 0x0A bytes).headD [] := by
  induction bytes using pieces_induction (0x0A : UInt8) with
  | nil => rfl
  | last bytes hne h =>
    rw [lineBytes_of_not_mem h, pieces_of_not_mem hne h]
    rfl
  | append front rest hfront _ =>
    rw [lineBytes_append_feed hfront, pieces_append_mark hfront]
    rfl

/-- The other pieces stand behind the line. -/
theorem drop_lineBytes (bytes : List UInt8) :
    bytes.drop (lineBytes bytes).length = (pieces 0x0A bytes).tail.flatten := by
  rw [lineBytes_eq]
  nth_rewrite 2 [← flatten_pieces (0x0A : UInt8) bytes]
  cases pieces (0x0A : UInt8) bytes with
  | nil => rfl
  | cons piece rest => exact List.drop_left

theorem unread_readLine (reader : ByteReader) :
    reader.readLine.2.unread = (pieces 0x0A reader.unread).tail.flatten := by
  rw [readLine, unread_consume, drop_lineBytes]

theorem pieces_flatten_tail (bytes : List UInt8) :
    pieces 0x0A (pieces 0x0A bytes).tail.flatten = (pieces 0x0A bytes).tail := by
  induction bytes using pieces_induction (0x0A : UInt8) with
  | nil => rfl
  | last bytes hne h =>
    rw [pieces_of_not_mem hne h]
    rfl
  | append front rest hfront _ =>
    rw [pieces_append_mark hfront, List.tail_cons, flatten_pieces]

end ByteReader

/-! ## The text of a line -/

/-- `line` is the text without what ends a line: a line feed, and one carriage return in front of
it. -/
inductive StripsLineEnd : List Char → List Char → Prop
  | returnFeed (line : List Char) : StripsLineEnd (line ++ ['\r', '\n']) line
  | feed {line : List Char} (h : line.getLast? ≠ some '\r') : StripsLineEnd (line ++ ['\n']) line
  | unended {line : List Char} (h : line.getLast? ≠ some '\n') : StripsLineEnd line line

theorem withoutLineEnd_of_strips {text line : List Char} (h : StripsLineEnd text line) :
    Console.withoutLineEnd text = line := by
  cases h with
  | returnFeed => simp [Console.withoutLineEnd]
  | feed hreturn =>
    rcases List.eq_nil_or_concat line with rfl | ⟨front, c, rfl⟩
    · rfl
    · have hc : c ≠ '\r' := by simpa using hreturn
      simp [Console.withoutLineEnd, hc]
  | unended hfeed =>
    rcases List.eq_nil_or_concat text with rfl | ⟨front, c, rfl⟩
    · rfl
    · have hc : c ≠ '\n' := by simpa using hfeed
      simp [Console.withoutLineEnd, hc]

theorem stripsLineEnd_withoutLineEnd (text : List Char) :
    StripsLineEnd text (Console.withoutLineEnd text) := by
  obtain ⟨line, hline⟩ : ∃ line, StripsLineEnd text line := by
    by_cases hfeed : text.getLast? = some '\n'
    · obtain ⟨front, rfl⟩ := List.getLast?_eq_some_iff.mp hfeed
      by_cases hreturn : front.getLast? = some '\r'
      · obtain ⟨line, rfl⟩ := List.getLast?_eq_some_iff.mp hreturn
        rw [List.append_assoc]
        exact ⟨line, .returnFeed line⟩
      · exact ⟨front, .feed hreturn⟩
    · exact ⟨text, .unended hfeed⟩
  rwa [withoutLineEnd_of_strips hline]

/-- A character in front of a text stays in front of its line, unless it is the carriage return of
an empty one. -/
theorem StripsLineEnd.cons {text line : List Char} (h : StripsLineEnd text line) {c : Char}
    (hne : text ≠ []) (hreturn : ¬ (c = '\r' ∧ text = ['\n'])) :
    StripsLineEnd (c :: text) (c :: line) := by
  cases h with
  | returnFeed => exact .returnFeed (c :: line)
  | feed hlast =>
    have hlast' : (c :: line).getLast? ≠ some '\r' := by
      cases line with
      | nil => simpa using hreturn
      | cons d more => rwa [List.getLast?_cons_cons]
    exact .feed hlast'
  | unended hlast =>
    obtain ⟨d, more, rfl⟩ := List.exists_cons_of_ne_nil hne
    exact .unended (by rwa [List.getLast?_cons_cons])

namespace Text

theorem lineLists_of_not_mem {cs : List Char} (hne : cs ≠ []) (h : '\n' ∉ cs) :
    lineLists cs = [cs] := by
  induction cs with
  | nil => exact absurd rfl hne
  | cons c rest ih =>
    obtain ⟨hc, hrest⟩ := not_or.mp (mt List.mem_cons.mpr h)
    rw [lineLists_cons (Ne.symm hc) fun _ hhead => hrest (List.mem_of_head? hhead)]
    by_cases hempty : rest = []
    · rw [hempty]
      rfl
    · rw [ih hempty hrest]
      rfl

theorem lineLists_append_feed {front : List Char} (h : '\n' ∉ front) (rest : List Char) :
    lineLists (front ++ '\n' :: rest) =
      Console.withoutLineEnd (front ++ ['\n']) :: lineLists rest := by
  induction front with
  | nil => rfl
  | cons c more ih =>
    obtain ⟨hc, hmore⟩ := not_or.mp (mt List.mem_cons.mpr h)
    by_cases hreturn : c = '\r' ∧ more = []
    · obtain ⟨rfl, rfl⟩ := hreturn
      rfl
    · have hhead : c = '\r' → (more ++ '\n' :: rest).head? ≠ some '\n' := by
        rintro rfl
        cases more with
        | nil => exact absurd ⟨rfl, rfl⟩ hreturn
        | cons d ds => exact fun hd => hmore (List.mem_of_head? hd)
      have hstrips := (stripsLineEnd_withoutLineEnd (more ++ ['\n'])).cons (c := c) (by simp)
        (by simpa using hreturn)
      rw [List.cons_append, lineLists_cons (Ne.symm hc) hhead, ih hmore, List.cons_append,
        withoutLineEnd_of_strips hstrips]
      rfl

/-- The lines of a text are its pieces without what ends them. -/
theorem map_withoutLineEnd_pieces (cs : List Char) :
    (pieces '\n' cs).map Console.withoutLineEnd = lineLists cs := by
  induction cs using pieces_induction '\n' with
  | nil => rfl
  | last cs hne h =>
    have hlast : cs.getLast? ≠ some '\n' := fun hlast => h (List.mem_of_getLast? hlast)
    rw [pieces_of_not_mem hne h, lineLists_of_not_mem hne h, List.map_singleton,
      withoutLineEnd_of_strips (.unended hlast)]
  | append front rest hfront ih =>
    rw [pieces_append_mark hfront, lineLists_append_feed hfront, List.map_cons, ih]

end Text

/-! ## The bytes of a text -/

theorem utf8_ofList_append (xs ys : List Char) :
    utf8 (String.ofList (xs ++ ys)) = utf8 (String.ofList xs) ++ utf8 (String.ofList ys) := by
  simp [utf8_eq]

/-- A line feed is one byte, and no part of another character. -/
theorem feed_mem_utf8EncodeChar {c : Char} (h : 0x0A ∈ String.utf8EncodeChar c) : c = '\n' := by
  have hcode : c.val.toNat = 0x0A := by
    have hfeed (k : Nat) : (0x0A : UInt8) = UInt8.ofNat k ↔ 0x0A = k % 256 :=
      ofNat_eq_ofNat_iff 0x0A k
    unfold String.utf8EncodeChar at h
    dsimp only at h
    -- one, two, three or four bytes
    repeat' split at h
    all_goals
      simp only [List.mem_cons, List.not_mem_nil, or_false, hfeed] at h
      omega
  exact Char.ext (UInt32.toNat_inj.mp hcode)

theorem feed_mem_utf8 {cs : List Char} (h : 0x0A ∈ utf8 (String.ofList cs)) : '\n' ∈ cs := by
  rw [utf8_eq, String.toList_ofList, List.mem_flatMap] at h
  obtain ⟨c, hc, hfeed⟩ := h
  rwa [← feed_mem_utf8EncodeChar hfeed]

theorem utf8_ne_nil {cs : List Char} (h : cs ≠ []) : utf8 (String.ofList cs) ≠ [] := by
  obtain ⟨c, rest, rfl⟩ := List.exists_cons_of_ne_nil h
  simp [utf8_eq]

/-- The pieces of the bytes of a text are the bytes of its pieces. -/
theorem pieces_utf8 (cs : List Char) :
    pieces 0x0A (utf8 (String.ofList cs)) =
      (pieces '\n' cs).map fun piece => utf8 (String.ofList piece) := by
  induction cs using pieces_induction '\n' with
  | nil => rfl
  | last cs hne h =>
    rw [pieces_of_not_mem hne h, pieces_of_not_mem (utf8_ne_nil hne) (mt feed_mem_utf8 h)]
    rfl
  | append front rest hfront ih =>
    have hbytes : utf8 (String.ofList ('\n' :: rest)) = 0x0A :: utf8 (String.ofList rest) :=
      utf8_ofList_append ['\n'] rest
    rw [utf8_ofList_append, hbytes, pieces_append_mark (mt feed_mem_utf8 hfront), ih,
      pieces_append_mark hfront, List.map_cons, utf8_ofList_append]
    rfl

theorem decodeText?_eq_some_iff {bytes : List UInt8} {text : String} :
    decodeText? bytes = some text ↔ utf8 text = bytes := by
  unfold decodeText? String.fromUTF8? utf8
  constructor
  · intro h
    split at h
    · next hvalid =>
      obtain rfl := Option.some.inj h
      rfl
    · cases h
  · rintro rfl
    have hvalid : text.toUTF8.IsValidUTF8 := text.isValidUTF8
    exact dif_pos hvalid

/-! ## Taking a piece -/

variable {ω : Type}

namespace Console

structure Works (console : Console) : Prop where
  write : console.writeFailure = none
  flush : console.flushFailure = none

theorem Works.write_eq {console : Console} (h : console.Works) (text : String) :
    console.write text = .ok { console with output := console.output.write text.toUTF8 } := by
  unfold Console.write
  split
  · next hempty => rw [String.isEmpty_iff.mp hempty, ByteWriter.write_nothing]
  · rw [h.write]

theorem Works.flush_eq {console : Console} (h : console.Works) : console.flush = .ok console := by
  unfold Console.flush
  rw [h.flush]

/-- What a piece of the input is as a line. -/
def lineOf : Option (List UInt8) → Except StreamFault String
  | none => .error .endOfInput
  | some piece =>
    match decodeText? piece with
    | none => .error .invalidEncoding
    | some text => .ok (String.ofList (withoutLineEnd text.toList))

theorem lineOf_text {text line : String} (h : StripsLineEnd text.toList line.toList) :
    lineOf (some (utf8 text)) = .ok line := by
  have hdecode : decodeText? (utf8 text) = some text := decodeText?_eq_some_iff.mpr rfl
  simp only [lineOf, hdecode, withoutLineEnd_of_strips h, String.ofList_toList]

theorem lineOf_noText {bytes : List UInt8} (h : ∀ text, utf8 text ≠ bytes) :
    lineOf (some bytes) = .error .invalidEncoding := by
  have hdecode : decodeText? bytes = none :=
    Option.eq_none_iff_forall_ne_some.mpr fun text htext =>
      h text (decodeText?_eq_some_iff.mp htext)
  simp only [lineOf, hdecode]

/-- Taking a line takes the first piece. -/
theorem readLine_eq (console : Console) :
    console.readLine = (lineOf (pieces 0x0A console.input.unread).head?,
      { console with input := console.input.readLine.2 }) := by
  have hfirst : console.input.readLine.1 = (pieces 0x0A console.input.unread).headD [] :=
    ByteReader.lineBytes_eq console.input.unread
  have hne : [] ∉ pieces 0x0A console.input.unread := List.nil_notMem_splitBy _ _
  unfold readLine
  dsimp only
  rw [hfirst]
  cases hpieces : pieces 0x0A console.input.unread with
  | nil => rfl
  | cons piece rest =>
    rw [hpieces] at hne
    cases piece with
    | nil => exact absurd List.mem_cons_self hne
    | cons b more => rfl

end Console

namespace Session

/-- What an INPUT comes to that takes this piece of the input, if one is left. -/
structure Answers (s : Session ω) (prompt target : String) (piece : Option (List UInt8))
    (result : Except Fault Unit) (t : Session ω) : Prop where
  output : t.console.output =
    s.console.output.write (unquote prompt ++ s.config.promptSuffix).toUTF8
  own : t.own = s.own
  /-- Text is bound without what ends its line. -/
  text : ∀ text line, piece = some (utf8 text) → StripsLineEnd text.toList line.toList →
    result = .ok () ∧ s.heap.Rebinds t.heap s.own target (.text line)
  noText : ∀ bytes, piece = some bytes → (∀ text, utf8 text ≠ bytes) →
    result = .error (.stream .invalidEncoding) ∧ t.heap = s.heap
  noPiece : piece = none → result = .error (.stream .endOfInput) ∧ t.heap = s.heap

theorem ask_of_works {s : Session ω} (h : s.console.Works) (prompt target : String) :
    s.ask prompt target =
      (readLine { s with console := s.prompted prompt }).andThen fun line t =>
        (.ok (), t.bind target (.text line)) := by
  have hwrite : s.console.write (unquote prompt ++ s.config.promptSuffix) =
      .ok (s.prompted prompt) := h.write_eq _
  have hflush : (s.prompted prompt).flush = .ok (s.prompted prompt) :=
    Console.Works.flush_eq ⟨h.write, h.flush⟩
  unfold ask write flush
  simp only [hwrite, hflush, Ending.andThen_ok]

/-- INPUT takes the first piece. -/
theorem answers_ask {s : Session ω} (h : s.console.Works) (prompt target : String) :
    s.Answers prompt target (pieces 0x0A s.console.input.unread).head? (s.ask prompt target).1
        (s.ask prompt target).2 ∧
      (s.ask prompt target).2.console.input.unread =
        (pieces 0x0A s.console.input.unread).tail.flatten := by
  rw [ask_of_works h]
  have hread := Console.readLine_eq (s.prompted prompt)
  unfold readLine
  dsimp only
  rw [hread]
  have hinput : (s.prompted prompt).input = s.console.input := rfl
  rw [hinput, ← ByteReader.unread_readLine]
  generalize (pieces 0x0A s.console.input.unread).head? = piece
  refine ⟨⟨?_, ?_, fun text line hpiece hstrips => ?_, fun bytes hpiece hbytes => ?_, ?_⟩, ?_⟩
  · cases Console.lineOf piece <;> rfl
  · cases Console.lineOf piece <;> rfl
  · rw [hpiece, Console.lineOf_text hstrips]
    exact ⟨rfl, s.heap.rebinds_set s.own target (.text line)⟩
  · rw [hpiece, Console.lineOf_noText hbytes]
    exact ⟨rfl, rfl⟩
  · rintro rfl
    exact ⟨rfl, rfl⟩
  · cases Console.lineOf piece <;> rfl

/-! ## Statements that take a piece -/

/-- The prompt and the target of the INPUT that the tokens make up. -/
def input? (s : Session ω) (tokens : List Token) : Option (String × String) :=
  match s.destination tokens, operands tokens with
  | .builtIn .input, prompt :: target :: _ => some (prompt, target)
  | _, _ => none

theorem eq_of_input? {s : Session ω} {tokens : List Token} {prompt target : String}
    (h : s.input? tokens = some (prompt, target)) :
    s.destination tokens = .builtIn .input ∧
      Statement.ofOperands .input (operands tokens) = .ok (.input prompt target) := by
  unfold input? at h
  split at h
  · next hplace hoperands =>
    cases h
    rw [hoperands]
    exact ⟨hplace, rfl⟩
  · cases h

/-- The settings are the same, and the streams fail alike. -/
structure SameSettings (s t : Session ω) : Prop where
  config : t.config = s.config
  writeFailure : t.console.writeFailure = s.console.writeFailure
  flushFailure : t.console.flushFailure = s.console.flushFailure

theorem SameSettings.works {s t : Session ω} (h : s.SameSettings t) (hs : s.console.Works) :
    t.console.Works :=
  ⟨h.writeFailure.trans hs.write, h.flushFailure.trans hs.flush⟩

theorem receive_settings {α : Type} (s : Session ω) (reply : Reply ω α) :
    s.SameSettings (s.receive reply) := by
  unfold receive
  dsimp only
  split <;> exact ⟨rfl, rfl, rfl⟩

theorem readScript_settings (s : Session ω) (name : String) :
    s.SameSettings (s.readScript name).2 ∧
      (s.readScript name).2.console.input = s.console.input := by
  have hsettings := receive_settings (s.note (.scriptRequested name))
    (s.host.readScript name s.world)
  have hframe := receive_frame .nowhere (s.note (.scriptRequested name))
    (s.host.readScript name s.world)
  rw [readScript_snd]
  exact ⟨⟨hsettings.config, hsettings.writeFailure, hsettings.flushFailure⟩,
    hframe.input (by simp)⟩

theorem perform_settings (nested : String → Session ω → Ending ω Unit) {statement : Statement}
    (hrun : ∀ file, statement ≠ .run file) (s : Session ω) :
    s.SameSettings (perform nested statement s).2 := by
  cases statement with
  | assign target expression =>
    simp only [perform, assign]
    split <;> exact ⟨rfl, rfl, rfl⟩
  | call function arguments target =>
    have h : s.SameSettings (s.call function (arguments.map s.resolve)).2 := by
      rw [call_eq]
      exact ⟨rfl, rfl, rfl⟩
    simp only [perform, callInto]
    generalize s.call function (arguments.map s.resolve) = ending at h ⊢
    obtain ⟨_ | _ | value, t⟩ := ending
    · exact h
    · exact ⟨h.config, h.writeFailure, h.flushFailure⟩
    · exact ⟨h.config, h.writeFailure, h.flushFailure⟩
  | random low high target =>
    simp only [perform, drawInto]
    split
    · exact ⟨rfl, rfl, rfl⟩
    · split <;> exact ⟨rfl, rfl, rfl⟩
  | print token =>
    simp only [perform, print, write]
    split
    · next console hconsole =>
      rw [Console.write_eq_ok hconsole]
      exact ⟨rfl, rfl, rfl⟩
    · exact ⟨rfl, rfl, rfl⟩
  | input prompt target =>
    have hends := s.askEnds prompt target
    simp only [perform]
    generalize s.ask prompt target = ending at hends
    cases hends <;> exact ⟨rfl, rfl, rfl⟩
  | wait token =>
    simp only [perform, wait]
    split <;> exact ⟨rfl, rfl, rfl⟩
  | clear => exact ⟨rfl, rfl, rfl⟩
  | run file => exact absurd rfl (hrun file)
  | execCommand command =>
    have h := receive_settings (s.note (.commandIssued (unquote command)))
      (s.host.execute (unquote command) s.world)
    rw [← issue_snd] at h
    simp only [perform]
    generalize s.issue (unquote command) = ending at h ⊢
    obtain ⟨_ | code, t⟩ := ending
    · exact ⟨h.config, h.writeFailure, h.flushFailure⟩
    · exact ⟨h.config, h.writeFailure, h.flushFailure⟩
  | importUnit token =>
    simp only [perform]
    rw [importUnit_eq]
    exact ⟨rfl, rfl, rfl⟩

theorem asks_settings {s : Session ω} {tokens : List Token} {asked : Ending ω String}
    (hasks : s.asks? tokens = some asked) :
    s.SameSettings asked.2 ∧ asked.2.console.input = s.console.input := by
  obtain ⟨head, file, more, -, -, rfl⟩ := eq_of_asks hasks
  rw [noteSurplus_eq]
  obtain ⟨h, hinput⟩ := readScript_settings { s with
    journal := ((s.note (.performed .run)).noteSurplus .run ((file :: more).map (·.text))).journal }
    (unquote file.text)
  exact ⟨⟨h.config, h.writeFailure, h.flushFailure⟩, hinput⟩

/-- An INPUT that could be parsed takes a piece. -/
theorem input?_ne_none {s : Session ω} {tokens : List Token} {statement : Statement}
    (hplace : s.destination tokens = .builtIn .input)
    (hstatement : Statement.ofOperands .input (operands tokens) = .ok statement) :
    s.input? tokens ≠ none := by
  unfold input?
  rw [hplace]
  cases hoperands : operands tokens with
  | nil =>
    rw [hoperands] at hstatement
    cases hstatement
  | cons prompt rest =>
    cases rest with
    | nil =>
      rw [hoperands] at hstatement
      cases hstatement
    | cons target more => simp

/-- A statement that asks for no script leaves the settings alone, and the input too if it is no
INPUT. -/
theorem executeWith_settings (nested : String → Session ω → Ending ω Unit) {tokens : List Token}
    {s : Session ω} (hasks : s.asks? tokens = none) :
    s.SameSettings (executeWith nested tokens s).2 ∧
      (s.input? tokens = none →
        (executeWith nested tokens s).2.console.input = s.console.input) := by
  have hdoes := executeWith_does nested tokens s
  generalize executeWith nested tokens s = ending at hdoes
  cases hdoes with
  | elsewhere journal hplace hresult => exact ⟨⟨rfl, rfl, rfl⟩, fun _ => rfl⟩
  | malformed journal hplace hstatement => exact ⟨⟨rfl, rfl, rfl⟩, fun _ => rfl⟩
  | @builtIn command statement journal hplace hstatement =>
    have hrun := ne_run_of_asks_eq_none hasks hplace hstatement
    have hsettings := perform_settings nested hrun { s with journal := journal }
    have hframe := perform_frame nested (Statement.mem_commands hstatement) hrun
      { s with journal := journal }
    rw [snd_andThen_executed]
    refine ⟨⟨hsettings.config, hsettings.writeFailure, hsettings.flushFailure⟩, fun hinput => ?_⟩
    refine hframe.input fun hcommand => ?_
    obtain rfl := Destination.builtIn.inj hcommand
    exact input?_ne_none hplace hstatement hinput

end Session

/-! ## Moves that take a piece -/

/-- The prompt and the target of the INPUT that the move is. -/
def Move.input? : Move ω → Option (String × String)
  | statement found tokens => found.input? tokens
  | registration _ _ | other => none

namespace Machine

open Session

variable {m n o : Machine ω} {moves : List (Move ω)}

theorem settings_kept : KeptByMoves (fun _ : Move ω => True) SameSettings where
  refl _ := ⟨rfl, rfl, rfl⟩
  trans hst htu := ⟨htu.config.trans hst.config, htu.writeFailure.trans hst.writeFailure,
    htu.flushFailure.trans hst.flushFailure⟩
  scanned _ _ := ⟨rfl, rfl, rfl⟩
  statement _ _ _ hasks := (executeWith_settings _ hasks).1
  asks _ _ _ _ hasks := (asks_settings hasks).1
  enter _ := ⟨rfl, rfl, rfl⟩
  leave _ := ⟨rfl, rfl, rfl⟩
  registration _ _ _ _ := ⟨rfl, rfl, rfl⟩

/-- A move that is no INPUT leaves the input alone. -/
theorem input_of_moves {move : Move ω} (h : Moves m move n) (hinput : move.input? = none) :
    n.session.console.input = m.session.console.input := by
  cases changes_of_moves h with
  | nothing hsession => rw [hsession]
  | back hsession => rw [hsession]; rfl
  | registration hsession => rw [hsession]; rfl
  | statement k tokens hfound =>
    have hbefore : k.session.console.input = m.session.console.input := by
      rcases hfound with hfound | hfound
      · rw [hfound]
      · rw [hfound]; rfl
    rw [← hbefore]
    rcases dispatch_session k tokens with ⟨hasks, hsession⟩ | ⟨asked, hasks, hsession⟩
    · rw [hsession]
      exact (executeWith_settings _ hasks).2 hinput
    · rw [← (asks_settings hasks).2]
      rcases hsession with hsession | hsession
      · rw [hsession]
      · rw [hsession]; rfl

/-- An INPUT takes the first piece that is left. -/
theorem answers_of_moves {found : Session ω} {tokens : List Token} {prompt target : String}
    (hworks : m.session.console.Works) (h : Moves m (.statement found tokens) n)
    (hinput : found.input? tokens = some (prompt, target)) :
    m.session.Answers prompt target (pieces 0x0A m.session.console.input.unread).head?
        n.result n.session ∧
      n.session.console.input.unread = (pieces 0x0A m.session.console.input.unread).tail.flatten := by
  obtain ⟨hplace, hstatement⟩ := eq_of_input? hinput
  obtain ⟨journal, hperform⟩ := performed_of_moves h hplace (by simp) hstatement
  have hfound : { found with journal := journal } = { m.session with journal := journal } := by
    rcases found_of_moves h with hfound | hfound
    · rw [hfound]
    · rw [hfound]; rfl
  rw [hfound] at hperform
  have hresult := congrArg Prod.fst hperform
  have hsession := congrArg Prod.snd hperform
  dsimp only [perform] at hresult hsession
  obtain ⟨hanswers, hunread⟩ :=
    answers_ask (s := { m.session with journal := journal }) hworks prompt target
  rw [← hresult, ← hsession] at hanswers
  rw [← hsession] at hunread
  exact ⟨⟨hanswers.output, hanswers.own, hanswers.text, hanswers.noText, hanswers.noPiece⟩, hunread⟩

/-- **Pieces of runs.**  After any moves the pieces are left that no INPUT among them took. -/
theorem pieces_of_leads (hworks : m.session.console.Works) (h : Leads m moves n) :
    pieces 0x0A n.session.console.input.unread =
      (pieces 0x0A m.session.console.input.unread).drop (moves.filterMap Move.input?).length := by
  induction h with
  | nil => rfl
  | @snoc n o moves move hleads hmove ih =>
    rw [List.filterMap_append, List.length_append]
    cases hinput : move.input? with
    | none =>
      rw [input_of_moves hmove hinput, ih]
      simp [hinput]
    | some operands =>
      obtain ⟨prompt, target⟩ := operands
      have hkept := (settings_kept.leads (fun _ _ => trivial) hleads).works hworks
      cases move with
      | registration | other => cases hinput
      | statement found tokens =>
        rw [(answers_of_moves hkept hmove hinput).2, ByteReader.pieces_flatten_tail, ih,
          List.tail_drop]
        simp [hinput]

/-- **INPUT hands out the input line by line.**  Let the console work, and let any moves have been
made, statements of nested scripts among them.  The next INPUT with both operands writes its prompt
and takes the piece of the input that comes behind those that the INPUTs before it took, each one.
If it is text, it is bound without what ends its line; if it is not, or if there is none, the
INPUT fails and leaves the variables alone.  So the lines of a text are bound in order. -/
theorem input_hands_out_lines (m n o : Machine ω) (moves : List (Move ω)) (found : Session ω)
    (tokens : List Token) (prompt target : String) (hworks : m.session.console.Works)
    (hleads : Leads m moves n) (hmove : Moves n (.statement found tokens) o)
    (hinput : found.input? tokens = some (prompt, target)) :
    let bytes := m.session.console.input.unread
    let taken := (moves.filterMap Move.input?).length
    n.session.config = m.session.config ∧
    n.session.Answers prompt target (pieces 0x0A bytes)[taken]? o.result o.session ∧
    o.session.console.input.unread = ((pieces 0x0A bytes).drop (taken + 1)).flatten ∧
    ∀ text, utf8 text = bytes →
      match (Text.lines text)[taken]? with
      | some line =>
        o.result = .ok () ∧
          n.session.heap.Rebinds o.session.heap n.session.own target (.text line) ∧
          (n.session.own < n.session.heap.stores.length →
            o.session.heap.get? o.session.own target = some (.text line))
      | none => o.result = .error (.stream .endOfInput) ∧ o.session.heap = n.session.heap := by
  intro bytes taken
  have hsettings := settings_kept.leads (fun _ _ => trivial) hleads
  obtain ⟨hanswers, hunread⟩ := answers_of_moves (hsettings.works hworks) hmove hinput
  have hleft := pieces_of_leads hworks hleads
  rw [hleft, List.head?_drop] at hanswers
  rw [hleft, List.tail_drop] at hunread
  refine ⟨hsettings.config, hanswers, hunread, ?_⟩
  intro text hbytes
  have hpieces : pieces 0x0A bytes =
      (pieces '\n' text.toList).map fun piece => utf8 (String.ofList piece) := by
    rw [← pieces_utf8, String.ofList_toList, hbytes]
  have hlines : Text.lines text = (pieces '\n' text.toList).map fun piece =>
      String.ofList (Console.withoutLineEnd piece) := by
    rw [Text.lines, ← Text.map_withoutLineEnd_pieces, List.map_map]
    rfl
  rw [hpieces, List.getElem?_map] at hanswers
  rw [hlines, List.getElem?_map]
  cases hpiece : (pieces '\n' text.toList)[taken]? with
  | none => exact hanswers.noPiece (by rw [hpiece]; rfl)
  | some piece =>
    have hstrips : StripsLineEnd (String.ofList piece).toList
        (String.ofList (Console.withoutLineEnd piece)).toList := by
      rw [String.toList_ofList, String.toList_ofList]
      exact stripsLineEnd_withoutLineEnd piece
    obtain ⟨hresult, hrebinds⟩ :=
      hanswers.text (String.ofList piece) _ (by rw [hpiece]; rfl) hstrips
    exact ⟨hresult, hrebinds, fun hstore => hanswers.own ▸ hrebinds.reads hstore⟩

/-- A machine with nothing left to do comes to rest in one step. -/
theorem step_of_done (h : m.pending = [[]]) :
    m.step = { m with pending := [] } ∧ m.nextMove = .other := by
  obtain ⟨pending, result, s⟩ := m
  obtain rfl : pending = [[]] := h
  cases result <;> exact ⟨rfl, rfl⟩

/-- Two INPUTs; the first one binds its line, the second one finds a byte that is no text and leaves
an unended line. -/
theorem input_hands_out_lines_of_bytes :
    let bytes : List UInt8 := [0x61, 0x0D, 0x0A, 0xFF, 0x0A, 0x62, 0x0D]
    let s := { start Host.ofTable ⟨[], []⟩ with console := .ofInput bytes }
    let tokens : List Token := [⟨.keyword, "INPUT"⟩, ⟨.string, "\"a? \""⟩, ⟨.identifier, "x"⟩]
    let k := ofTokens tokens s
    let m := k.step
    let n := ofTokens tokens m.session
    k.result = .ok () ∧ k.session.heap.get? k.session.own "x" = some (.text "a") ∧
    s.console.Works ∧ Leads (atRest s) [.statement s tokens, .other] m ∧
    Moves m (.statement m.session tokens) n ∧
    m.session.input? tokens = some ("\"a? \"", "x") ∧
    n.session.console.output =
      m.session.console.output.write ("a? " ++ m.session.config.promptSuffix).toUTF8 ∧
    n.result = .error (.stream .invalidEncoding) ∧ n.session.heap = m.session.heap ∧
    n.session.console.input.unread = [0x62, 0x0D] := by
  intro bytes s tokens k m n
  have hworks : s.console.Works := ⟨rfl, rfl⟩
  have hpending : (ofTokens tokens s).pending = [[]] := rfl
  obtain ⟨hstep, hother⟩ := step_of_done hpending
  have hrest : m.pending = [] := congrArg Machine.pending hstep
  have hfirst : Moves (atRest s) (.statement s tokens) k := .execute (atRest s) tokens rfl
  obtain ⟨-, hbinds, -, -⟩ := input_hands_out_lines (atRest s) (atRest s) k [] s tokens "\"a? \"" "x"
    hworks (.nil _) hfirst rfl
  have hline : StripsLineEnd "a\r\n".toList "a".toList := .returnFeed ['a']
  obtain ⟨hok, hrebinds⟩ := hbinds.text "a\r\n" "a" rfl hline
  have hleads : Leads (atRest s) [.statement s tokens, .other] m := by
    have hsecond := Moves.step (ofTokens tokens s)
    rw [hother] at hsecond
    exact (Leads.single hfirst).snoc hsecond
  have hmove : Moves m (.statement m.session tokens) n := .execute m tokens hrest
  have hregistry : m.session.registry = s.registry := registry_of_leads hleads
  have hinput : m.session.input? tokens = some ("\"a? \"", "x") := by
    simp only [input?, destination, tokens, hregistry]
    rfl
  obtain ⟨-, hanswers, hunread, -⟩ := input_hands_out_lines (atRest s) m n
    [.statement s tokens, .other] m.session tokens "\"a? \"" "x" hworks hleads hmove hinput
  have hbytes : ∀ text, utf8 text ≠ [0xFF, 0x0A] := by
    intro text htext
    have hnone : decodeText? [0xFF, 0x0A] = none := rfl
    rw [decodeText?_eq_some_iff.mpr htext] at hnone
    cases hnone
  obtain ⟨hresult, hheap⟩ := hanswers.noText [0xFF, 0x0A] rfl hbytes
  refine ⟨hok, ?_, hworks, hleads, hmove, hinput, hanswers.output, hresult, hheap, hunread⟩
  rw [hbinds.own]
  exact hrebinds.reads (by decide)

end Machine

end LineScript
