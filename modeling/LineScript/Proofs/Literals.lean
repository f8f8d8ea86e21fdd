import Mathlib
import LineScript.Proofs.InputLines
import LineScript.Proofs.NumberRoundTrip

/-!
Literals: texts in quotes on a line.

A text can be written as a literal iff it has no quote and no comment begins in it (`IsWritable`).

* A line that gives a command an operand in quotes, if it is scanned at all, gives it a literal that
  can be written (`quotedTokens_of_tokenize`): where the operand itself cannot be written, the
  literal is cut short at its first quote, or the quote that is left open stops the scanner.
* A literal stands for its text (`resolve_quoted`), so PRINT writes it (`execute_print`), LOAD binds
  it and TOSTRING copies it (`runLine_of_assign`).

Main statement: `literals_are_reproduced`.
-/

namespace LineScript

open Text

/-! ## Scanning an operand in quotes -/

/-- The text can stand in quotes on a line. -/
structure IsWritable (text : String) : Prop where
  quote : '"' ∉ text.toList
  comment : ¬ ['/', '/'] <:+: text.toList

/-- If a text is scanned, so is what stands behind its first token. -/
theorem scan_token_eq_ok {position : Nat} {first : Char} {after taken rest : List Char}
    {kind : TokenKind} {tokens : List Token} (h : nextPiece first after = ⟨kind, taken, rest⟩)
    (hblank : kind ≠ .blank) (hscan : scan position (first :: after) = .ok tokens) :
    kind ≠ .stray ∧ ∃ more, scan (position + byteLength taken) rest = .ok more ∧
      tokens = ⟨kind, String.ofList taken⟩ :: more := by
  have hstray : kind ≠ .stray := by
    rintro rfl
    rw [scan] at hscan
    simp only [h] at hscan
    cases hscan
  refine ⟨hstray, ?_⟩
  cases hrest : scan (position + byteLength taken) rest with
  | ok more =>
    rw [scan_token position first after taken rest kind more h ⟨hblank, hstray⟩ hrest] at hscan
    exact ⟨more, rfl, (Except.ok.inj hscan).symm⟩
  | error e =>
    rw [scan] at hscan
    simp only [h, hrest] at hscan
    cases kind with
    | blank => exact absurd rfl hblank
    | stray => exact absurd rfl hstray
    | _ => cases hscan

/-- A quoted text that is no stray quote ends at the first quote. -/
theorem quotedPiece_of_ne_stray {after : List Char} (h : (quotedPiece after).kind ≠ .stray) :
    ∃ inner rest, '"' ∉ inner ∧ after = inner ++ '"' :: rest := by
  by_cases hquote : '"' ∈ after
  · obtain ⟨inner, rest, hafter, hinner⟩ := List.eq_append_cons_of_mem hquote
    exact ⟨inner, rest, hinner, hafter⟩
  · have hnone : after.dropWhile (· != '"') = [] := by
      rw [List.dropWhile_eq_nil_iff]
      intro c hc
      have hne : c ≠ '"' := fun hsame => hquote (hsame ▸ hc)
      simpa using hne
    unfold quotedPiece at h
    rw [hnone] at h
    exact absurd rfl h

theorem stripCommentList_quotedLine (command : Keyword) (operand : String) :
    stripCommentList (command.quotedLine operand).toList =
      command.name.toList ++ ' ' :: '"' :: stripCommentList (operand.toList ++ ['"']) := by
  have hline : (command.quotedLine operand).toList =
      command.name.toList ++ ' ' :: '"' :: (operand.toList ++ ['"']) := by
    simp [Keyword.quotedLine]
  rw [hline, stripCommentList_append _ _ command.not_infix_name (by simp),
    stripCommentList_cons ' ' _ (by simp), stripCommentList_cons '"' _ (by simp)]

/-- A line that gives a command an operand in quotes begins, if it is scanned, with the command and
a literal that can be written. -/
theorem quotedTokens_of_tokenize {command : Keyword} {operand : String} {tokens : List Token}
    (h : tokenize (command.quotedLine operand) = .ok tokens) :
    ∃ literal more, IsWritable literal ∧ tokens = command.quotedTokens literal ++ more := by
  obtain ⟨first, word, hname, hupper⟩ := command.name_letters
  obtain ⟨hfirst, hword⟩ := List.forall_mem_cons.mp hupper
  have hcommand : String.ofList (first :: word) = command.name := by
    rw [← hname, String.ofList_toList]
  have hkind : wordKind (first :: word) = .keyword := by
    rw [wordKind, hcommand, if_pos command.name_mem_keywords]
  generalize hbehind : stripCommentList (operand.toList ++ ['"']) = behind
  have hcomment : ¬ ['/', '/'] <:+: behind := hbehind ▸ not_infix_stripCommentList _
  -- the name of the command
  have hpiece : nextPiece first (word ++ ' ' :: '"' :: behind) =
      ⟨.keyword, first :: word, ' ' :: '"' :: behind⟩ := by
    rw [← hkind]
    refine nextPiece_word first word _ (ne_of_isUpper hfirst (by decide)) ?_
      (isNameStart_of_isUpper hfirst) ?_ ?_
    · exact isDecimalDigit_of_isNameStart (isNameStart_of_isUpper hfirst)
    · exact fun c hc => isWordChar_of_isNameStart (isNameStart_of_isUpper (hword c hc))
    · rintro c hc
      obtain rfl := Option.some.inj hc
      decide
  rw [tokenize, stripCommentList_quotedLine, hbehind, hname, List.cons_append] at h
  obtain ⟨-, given, hgiven, rfl⟩ := scan_token_eq_ok hpiece (by decide) h
  -- the space behind it
  have hspace : nextPiece ' ' ('"' :: behind) = ⟨.blank, [' '], '"' :: behind⟩ :=
    nextPiece_blanks ' ' [] _ (by decide) (by simp) (by simp [isSeparator])
  rw [scan_blank _ _ _ _ _ hspace] at hgiven
  -- the literal
  have hquoted : nextPiece '"' behind =
      ⟨(quotedPiece behind).kind, (quotedPiece behind).taken, (quotedPiece behind).rest⟩ := rfl
  have hblank : (quotedPiece behind).kind ≠ .blank := by
    unfold quotedPiece
    split <;> simp
  obtain ⟨hstray, more, -, rfl⟩ := scan_token_eq_ok hquoted hblank hgiven
  obtain ⟨inner, rest, hinner, rfl⟩ := quotedPiece_of_ne_stray hstray
  have htaken : quotedPiece (inner ++ '"' :: rest) = ⟨.string, '"' :: (inner ++ ['"']), rest⟩ :=
    nextPiece_quoted inner rest hinner
  have hwritable : IsWritable (String.ofList inner) := by
    constructor
    · rwa [String.toList_ofList]
    · rw [String.toList_ofList]
      exact fun hinside => hcomment (hinside.trans (List.prefix_append _ _).isInfix)
  refine ⟨String.ofList inner, more, hwritable, ?_⟩
  have htext : String.ofList ('"' :: (inner ++ ['"'])) = "\"" ++ String.ofList inner ++ "\"" := by
    rw [← String.toList_inj]
    simp
  rw [htaken, hcommand, htext]
  rfl

theorem eq_of_quotedTokens_append {command : Keyword} {text literal : String} {more : List Token}
    (h : command.quotedTokens text = command.quotedTokens literal ++ more) : text = literal := by
  have hsecond := (List.cons.inj (List.cons.inj h).2).1
  have hsame : "\"" ++ text ++ "\"" = "\"" ++ literal ++ "\"" := congrArg Token.text hsecond
  rw [← unquote_quoted text, hsame, unquote_quoted]

/-! ## What a literal stands for -/

theorem resolve_quoted (heap : Heap) (store : StoreId) (text : String) :
    heap.resolve store ("\"" ++ text ++ "\"") = .text text := by
  have hquoted : unquoted? ("\"" ++ text ++ "\"") = some text := by
    simp [unquoted?, String.toList_append]
  unfold Heap.resolve
  rw [hquoted]

def IsIdentifier (word : String) : Prop :=
  Token.HasForm ⟨.identifier, word⟩

/-- No comment begins in an identifier. -/
theorem IsIdentifier.wellFormed {word : String} (h : IsIdentifier word) :
    Token.WellFormed ⟨.identifier, word⟩ := by
  refine ⟨h, fun hcomment => ?_⟩
  have hshape : Shape .word word.toList := h.1
  have hslash : '/' ∈ word.toList := hcomment.subset List.mem_cons_self
  generalize word.toList = chars at hshape hslash
  cases hshape with
  | word hfirst hmore =>
    rcases List.mem_cons.mp hslash with rfl | hslash
    · exact absurd hfirst (by decide)
    · exact absurd (hmore '/' hslash) (by decide)

theorem ByteWriter.write_inj {writer : ByteWriter} {bytes bytes' : ByteArray} :
    writer.write bytes = writer.write bytes' ↔ bytes = bytes' := by
  constructor
  · intro h
    have hwritten := congrArg (fun w : ByteWriter => w.written.data) h
    simp only [ByteWriter.write, ByteArray.data_append] at hwritten
    exact ByteArray.ext (Array.append_right_inj _ |>.mp hwritten)
  · rintro rfl
    rfl

/-- Different texts, with a line feed behind them, are different output. -/
theorem write_line_inj {writer : ByteWriter} {text text' : String} :
    writer.write (text ++ "\n").toUTF8 = writer.write (text' ++ "\n").toUTF8 ↔ text = text' := by
  rw [ByteWriter.write_inj]
  constructor
  · intro h
    have hlines : text ++ "\n" = text' ++ "\n" := String.toByteArray_inj.mp h
    exact String.append_left_inj _ |>.mp hlines
  · rintro rfl
    rfl

namespace Session

variable {ω : Type} {s : Session ω}

/-! ## Running a line with a literal -/

/-- A line whose command computes a value binds it. -/
theorem runLine_of_assign {line target : String} {tokens : List Token} {command : Keyword}
    {expression : Expression} {value : Value} (htokens : tokenize line = .ok tokens)
    (hplace : s.destination tokens = .builtIn command)
    (hstatement : Statement.ofOperands command (operands tokens) = .ok (.assign target expression))
    (hvalue : expression.evaluate s.heap s.own = .ok value) :
    ∃ journal, s.runLine line =
      (.ok .executed, ({ s with journal := journal } : Session ω).bind target value) := by
  have hrun := runLineWith_of_tokens (nestedRun s.room) line tokens s htokens
  obtain ⟨journal, hassign⟩ := executeWith_of_assign (s := s.note (.scanned tokens))
    (nestedRun s.room) hplace hstatement hvalue
  exact ⟨journal, hrun.trans hassign⟩

/-- PRINT writes the text of its operand. -/
theorem execute_print (hworks : s.console.Works) {tokens : List Token} {operand : String}
    {more : List String} (hplace : s.destination tokens = .builtIn .print)
    (hoperands : operands tokens = operand :: more) (nested : String → Session ω → Ending ω Unit) :
    (executeWith nested tokens s).1 = .ok .executed ∧
    (executeWith nested tokens s).2.console.output =
      s.console.output.write (s.heap.display (s.resolve operand) ++ "\n").toUTF8 := by
  have hstatement : Statement.ofOperands .print (operands tokens) = .ok (.print operand) := by
    rw [hoperands]
    rfl
  obtain ⟨journal, hperform⟩ := executeWith_of_builtIn nested hplace hstatement
  have hwrite := hworks.write_eq (s.heap.display (s.resolve operand) ++ "\n")
  have hprint : perform nested (.print operand) { s with journal := journal } =
      (.ok (), { s with
        journal := journal
        console := { s.console with
          output := s.console.output.write
            (s.heap.display (s.resolve operand) ++ "\n").toUTF8 } }) := by
    unfold perform print write
    dsimp only
    rw [show ({ s with journal := journal } : Session ω).resolve operand = s.resolve operand from rfl,
      hwrite]
  rw [hperform, hprint]
  exact ⟨rfl, rfl⟩

/-- A statement that begins with PRINT and a literal writes the text of the literal. -/
theorem output_of_literal (hworks : s.console.Works)
    (hprint : s.registry.contains Keyword.print.name = false) (literal : String)
    (more : List Token) (nested : String → Session ω → Ending ω Unit) :
    (executeWith nested (Keyword.print.quotedTokens literal ++ more) s).2.console.output =
      s.console.output.write (literal ++ "\n").toUTF8 := by
  have hplace : s.destination (Keyword.print.quotedTokens literal ++ more) = .builtIn .print :=
    destination_of_name rfl hprint (⟨.string, "\"" ++ literal ++ "\""⟩ :: more)
  rw [(execute_print hworks hplace rfl nested).2, resolve, resolve_quoted]
  rfl

/-- PRINT with an operand in quotes writes it iff it can be written as a literal. -/
theorem print_literal_iff (hworks : s.console.Works)
    (hprint : s.registry.contains Keyword.print.name = false) (text : String) :
    (s.runLine (Keyword.print.quotedLine text)).2.console.output =
      s.console.output.write (text ++ "\n").toUTF8 ↔ IsWritable text := by
  cases htokens : tokenize (Keyword.print.quotedLine text) with
  | error e =>
    -- nothing is written, and the text has at least its line feed
    have hnothing : s.runLine (Keyword.print.quotedLine text) = (.error (.lex e), s) := by
      unfold runLine runLineWith
      rw [htokens]
    rw [hnothing]
    constructor
    · intro h
      have hbytes : "".toUTF8 = (text ++ "\n").toUTF8 :=
        ByteWriter.write_inj.mp ((ByteWriter.write_nothing _).trans h)
      have hline : "" = text ++ "\n" := String.toByteArray_inj.mp hbytes
      exact absurd hline.symm (by simp)
    · rintro ⟨hquote, hcomment⟩
      rw [tokenize_quotedLine .print text hquote hcomment] at htokens
      cases htokens
  | ok tokens =>
    obtain ⟨literal, more, hliteral, rfl⟩ := quotedTokens_of_tokenize htokens
    have hwritten : (s.runLine (Keyword.print.quotedLine text)).2.console.output =
        s.console.output.write (literal ++ "\n").toUTF8 := by
      unfold runLine
      rw [runLineWith_of_tokens _ _ _ _ htokens]
      exact output_of_literal (s := s.note (.scanned _)) hworks hprint literal more _
    rw [hwritten, write_line_inj]
    constructor
    · rintro rfl
      exact hliteral
    · rintro ⟨hquote, hcomment⟩
      rw [tokenize_quotedLine .print text hquote hcomment] at htokens
      exact (eq_of_quotedTokens_append (Except.ok.inj htokens)).symm

/-- LOAD with an operand in quotes and an identifier. -/
theorem runLine_load_literal (hload : s.registry.contains Keyword.load.name = false)
    {text x : String} (htext : IsWritable text) (hx : IsIdentifier x) :
    ∃ journal, s.runLine ("LOAD \"" ++ text ++ "\" " ++ x) =
      (.ok .executed, ({ s with journal := journal } : Session ω).bind x (.text text)) := by
  let tokens := Keyword.load.quotedTokens text ++ [⟨.identifier, x⟩]
  have hline : "LOAD \"" ++ text ++ "\" " ++ x = joinTokens tokens := by
    rw [← String.toList_inj]
    simp [tokens, Keyword.quotedTokens, Keyword.name, joinTokens, String.intercalate_cons_cons]
  have hformed : ∀ token ∈ tokens, token.WellFormed := by
    intro token htoken
    rcases List.mem_append.mp htoken with hquoted | hname
    · exact wellFormed_quotedTokens .load text htext.quote htext.comment token hquoted
    · obtain rfl := List.mem_singleton.mp hname
      exact hx.wellFormed
  rw [hline]
  have hstatement : Statement.ofOperands .load (operands tokens) =
      .ok (.assign x (.operand ("\"" ++ text ++ "\""))) := rfl
  refine runLine_of_assign (tokenize_joinTokens hformed) (destination_of_name rfl hload _)
    hstatement ?_
  rw [Expression.evaluate, resolve_quoted]

/-- TOSTRING copies a text. -/
theorem runLine_textOf (htextOf : s.registry.contains Keyword.textOf.name = false)
    {text x y : String} (hx : IsIdentifier x) (hy : IsIdentifier y)
    (hbound : s.heap.get? s.own x = some (.text text)) :
    ∃ journal, s.runLine ("TOSTRING " ++ x ++ " " ++ y) =
      (.ok .executed, ({ s with journal := journal } : Session ω).bind y (.text text)) := by
  let tokens : List Token := [⟨.keyword, "TOSTRING"⟩, ⟨.identifier, x⟩, ⟨.identifier, y⟩]
  have hline : "TOSTRING " ++ x ++ " " ++ y = joinTokens tokens := by
    rw [← String.toList_inj]
    simp [tokens, joinTokens, String.intercalate_cons_cons]
  have hformed : ∀ token ∈ tokens, token.WellFormed := by
    refine List.forall_mem_cons.mpr ⟨wellFormed_keyword .textOf, ?_⟩
    exact List.forall_mem_cons.mpr ⟨hx.wellFormed, List.forall_mem_singleton.mpr hy.wellFormed⟩
  rw [hline]
  have hstatement : Statement.ofOperands .textOf (operands tokens) = .ok (.assign y (.textOf x)) :=
    rfl
  refine runLine_of_assign (tokenize_joinTokens hformed) (destination_of_name rfl htextOf _)
    hstatement ?_
  rw [Expression.evaluate, hbound]
  rfl

/-- **Literals are reproduced exactly when they can be written.**  Let PRINT, LOAD and TOSTRING be
built in, and let the console work.  PRINT with a text in quotes appends this text and a line feed to
the output iff the text has no quote and no `//`.  Such a text is bound by LOAD as it is, and
TOSTRING binds the same text again. -/
theorem literals_are_reproduced (s : Session ω) (hworks : s.console.Works)
    (hstore : s.own < s.heap.stores.length) (hprint : s.registry.contains "PRINT" = false)
    (hload : s.registry.contains "LOAD" = false)
    (htextOf : s.registry.contains "TOSTRING" = false) (text : String) :
    ((s.runLine ("PRINT \"" ++ text ++ "\"")).2.console.output =
      s.console.output.write (text ++ "\n").toUTF8 ↔ IsWritable text) ∧
    ∀ x y, IsWritable text → IsIdentifier x → IsIdentifier y →
      ∃ t u, s.runLine ("LOAD \"" ++ text ++ "\" " ++ x) = (.ok .executed, t) ∧
        t.heap = s.heap.set s.own x (.text text) ∧
        t.heap.get? t.own x = some (.text text) ∧
        t.runLine ("TOSTRING " ++ x ++ " " ++ y) = (.ok .executed, u) ∧
        u.heap = t.heap.set t.own y (.text text) ∧
        u.heap.get? u.own y = some (.text text) := by
  constructor
  · have hline : "PRINT \"" ++ text ++ "\"" = Keyword.print.quotedLine text := by
      rw [← String.toList_inj]
      simp [Keyword.quotedLine, Keyword.name]
    rw [hline]
    exact print_literal_iff hworks hprint text
  · intro x y htext hx hy
    obtain ⟨journal, hrun⟩ := runLine_load_literal hload htext hx
    generalize hloaded : ({ s with journal := journal } : Session ω).bind x (.text text) = t at hrun
    have hregistry : t.registry = s.registry := by rw [← hloaded]; rfl
    have hheap : t.heap = s.heap.set s.own x (.text text) := by rw [← hloaded]; rfl
    have hown : t.own = s.own := by rw [← hloaded]; rfl
    have hbound : t.heap.get? t.own x = some (.text text) := by
      rw [hheap, hown]
      exact Heap.get?_set_same x _ hstore
    have hstore' : t.own < t.heap.stores.length := by
      rw [hheap, hown]
      simpa [Heap.set, Heap.update] using hstore
    rw [← hregistry] at htextOf
    obtain ⟨journal', hcopy⟩ := runLine_textOf htextOf hx hy hbound
    refine ⟨t, _, hrun, hheap, hbound, hcopy, rfl, ?_⟩
    exact Heap.get?_set_same y _ hstore'

/-- A text with a slash, a line feed and a letter that is not ASCII. -/
theorem literals_are_reproduced_of_two_lines :
    let s := start Host.ofTable ⟨[], []⟩
    let text := "1/2\né"
    s.console.Works ∧ s.own < s.heap.stores.length ∧ s.registry.contains "PRINT" = false ∧
    s.registry.contains "LOAD" = false ∧ s.registry.contains "TOSTRING" = false ∧
    (s.runLine ("PRINT \"" ++ text ++ "\"")).2.console.output =
      s.console.output.write (text ++ "\n").toUTF8 ∧
    ∃ t u, s.runLine ("LOAD \"" ++ text ++ "\" a") = (.ok .executed, t) ∧
      t.runLine "TOSTRING a b" = (.ok .executed, u) ∧
      u.heap.get? u.own "b" = some (.text text) := by
  intro s text
  have hworks : s.console.Works := ⟨rfl, rfl⟩
  have hstore : s.own < s.heap.stores.length := by decide
  have htext : IsWritable text := ⟨by decide, by decide⟩
  have hname (c : Char) (hc : isNameStart c = true)
      (hfree : String.ofList [c] ∉ keywords) :
      IsIdentifier (String.ofList [c]) := by
    refine ⟨?_, hfree⟩
    show Shape .word (String.ofList [c]).toList
    rw [String.toList_ofList]
    exact .word hc (by simp)
  have hwritten := literals_are_reproduced s hworks hstore rfl rfl rfl text
  obtain ⟨t, u, hload, -, -, hcopy, -, hbound⟩ := hwritten.2 "a" "b" htext
    (hname 'a' (by decide) (by decide)) (hname 'b' (by decide) (by decide))
  exact ⟨hworks, hstore, rfl, rfl, rfl, hwritten.1.mpr htext, t, u, hload, hcopy, hbound⟩

end Session

end LineScript
