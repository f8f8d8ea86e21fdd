import Mathlib
import LineScript.Proofs.Shadowing
import LineScript.Proofs.Spacing

/-!
Sequences of imports.

An import registers the operations of the unit that its first operand names, whether or not the unit
fails then, and changes nothing else but the journal (`serve_of_isImport`).  As long as no unit puts
an operation under the name IMPORT itself, the next import does so too; so after any imports the
registry holds the concatenated lists of all units that were found (`serveAll_of_isImport`).

Main statement: `last_import_wins`.
-/

namespace LineScript

variable {ω : Type}

/-! ## Registering lists of operations -/

namespace Registry

/-- Registries with the same operations under all names are equal. -/
theorem ext_lookup {first second : Registry} (h : ∀ name, first.lookup name = second.lookup name) :
    first = second :=
  Std.ExtTreeMap.ext_getElem? fun name => h name

theorem lookup_reverse_eq_none {entries : List (String × Operation)} {name : String}
    (h : name ∉ entries.map Prod.fst) : entries.reverse.lookup name = none := by
  rw [List.lookup_eq_none_iff]
  intro entry hentry
  simp only [bne_iff_ne, ne_eq]
  rintro rfl
  exact h (List.mem_map_of_mem (List.mem_reverse.mp hentry))

/-- Registering a list again changes nothing. -/
theorem registerAll_registerAll (registry : Registry) (entries : List (String × Operation)) :
    (registry.registerAll entries).registerAll entries = registry.registerAll entries := by
  apply ext_lookup
  intro name
  rw [lookup_registerAll, lookup_registerAll, ← Option.or_assoc, Option.or_self]

/-- Lists without a common name may be registered in either order. -/
theorem registerAll_comm (registry : Registry) {first second : List (String × Operation)}
    (h : (first.map Prod.fst).Disjoint (second.map Prod.fst)) :
    (registry.registerAll first).registerAll second =
      (registry.registerAll second).registerAll first := by
  apply ext_lookup
  intro name
  rw [lookup_registerAll, lookup_registerAll, lookup_registerAll, lookup_registerAll]
  by_cases hname : name ∈ first.map Prod.fst
  · rw [lookup_reverse_eq_none (h hname), Option.none_or, Option.none_or]
  · rw [lookup_reverse_eq_none hname, Option.none_or, Option.none_or]

/-- A name that the list has not stays as free as it was. -/
theorem contains_registerAll_of_not_mem (registry : Registry) {entries : List (String × Operation)}
    {name : String} (h : name ∉ entries.map Prod.fst) :
    (registry.registerAll entries).contains name = registry.contains name := by
  rw [contains_eq_isSome, contains_eq_isSome, lookup_registerAll, lookup_reverse_eq_none h,
    Option.none_or]

end Registry

/-! ## Requests -/

/-- What an interpreter is given to do: a statement in tokens, or a line. -/
inductive Request
  | statement (tokens : List Token)
  | line (text : String)

namespace Request

/-- The tokens of the statement, if the line has any. -/
def tokens : Request → List Token
  | statement tokens => tokens
  | line text => (tokenize text).toOption.getD []

/-- The statement is an IMPORT, with whatever operands. -/
def IsImport (request : Request) : Prop :=
  request.tokens.head?.map (·.text) = some Keyword.importUnit.name

/-- The name of the unit that is to be imported. -/
def unit? (request : Request) : Option String :=
  (operands request.tokens).head?.bind unquoted?

end Request

/-- The operations of the unit that the request names; none if there is no such unit. -/
def Catalog.found (catalog : Catalog) (request : Request) : List (String × Operation) :=
  match request.unit?.bind catalog.lookup with
  | some unit => unit.operations
  | none => []

/-- No unit puts an operation under the name IMPORT. -/
def Catalog.SparesImport (catalog : Catalog) : Prop :=
  ∀ name unit, catalog.lookup name = some unit → "IMPORT" ∉ unit.operations.map Prod.fst

theorem Catalog.SparesImport.not_mem_found {catalog : Catalog} (h : catalog.SparesImport)
    (request : Request) : "IMPORT" ∉ (catalog.found request).map Prod.fst := by
  unfold Catalog.found
  split
  · next unit hunit =>
    obtain ⟨name, -, hname⟩ := Option.bind_eq_some_iff.mp hunit
    exact h name unit hname
  · simp

namespace Session

def serve (s : Session ω) : Request → Ending ω Outcome
  | .statement tokens => s.execute tokens
  | .line text => s.runLine text

/-- Does what is requested, one after the other, whatever comes of it. -/
def serveAll (s : Session ω) (requests : List Request) : Session ω :=
  requests.foldl (fun s request => (s.serve request).2) s

variable {s : Session ω}

/-! ## One import -/

theorem destination_of_isImport (hfree : s.registry.contains "IMPORT" = false)
    {tokens : List Token} (h : tokens.head?.map (·.text) = some Keyword.importUnit.name) :
    s.destination tokens = .builtIn .importUnit := by
  cases tokens with
  | nil => cases h
  | cons head rest => exact destination_of_name (Option.some.inj h) hfree rest

theorem imports_of_isImport {tokens : List Token} {request : Request}
    (htokens : request.tokens = tokens)
    (hplace : s.destination tokens = .builtIn .importUnit) :
    s.imports tokens = s.catalog.found request := by
  unfold imports Catalog.found Request.unit?
  rw [hplace, htokens]
  cases operands tokens with
  | nil => rfl
  | cons token more => rfl

/-- Apart from what it registers, an import leaves notes only. -/
theorem executeWith_of_import (nested : String → Session ω → Ending ω Unit) {tokens : List Token}
    (hplace : s.destination tokens = .builtIn .importUnit) :
    ∃ journal, (executeWith nested tokens s).2 =
      { s with registry := s.registry.registerAll (s.imports tokens), journal := journal } := by
  have hasks : s.asks? tokens = none := by
    refine Option.eq_none_iff_forall_ne_some.mpr fun asked hasked => ?_
    cases hplace.symm.trans (destination_of_asks hasked)
  rw [← executeWith_registry nested hasks]
  have hdoes := executeWith_does nested tokens s
  generalize executeWith nested tokens s = ending at hdoes ⊢
  cases hdoes with
  | elsewhere journal hother _ => exact absurd hplace (hother .importUnit)
  | malformed journal _ _ => exact ⟨journal, rfl⟩
  | @builtIn command statement journal hother hstatement =>
    obtain rfl := Destination.builtIn.inj (hother.symm.trans hplace)
    obtain ⟨token, more, -, rfl⟩ := Statement.ofOperands_importUnit hstatement
    rw [snd_andThen_executed]
    exact ⟨_, importUnit_eq { s with journal := journal } token⟩

/-- An import registers the operations of the unit that is found. -/
theorem serve_of_isImport (hfree : s.registry.contains "IMPORT" = false) {request : Request}
    (h : request.IsImport) :
    ∃ journal, (s.serve request).2 =
      { s with
        registry := s.registry.registerAll (s.catalog.found request)
        journal := journal } := by
  cases request with
  | statement tokens =>
    have hplace := destination_of_isImport hfree h
    rw [← imports_of_isImport rfl hplace]
    exact executeWith_of_import (nestedRun s.room) hplace
  | line text =>
    cases htokens : tokenize text with
    | error e =>
      -- a line that is not scanned has no first token
      have hnone : (Request.line text).tokens = [] := by
        simp [Request.tokens, htokens, Except.toOption]
      rw [Request.IsImport, hnone] at h
      cases h
    | ok tokens =>
      have hsame : (Request.line text).tokens = tokens := by
        simp [Request.tokens, htokens, Except.toOption]
      rw [Request.IsImport, hsame] at h
      have hplace : (s.note (.scanned tokens)).destination tokens = .builtIn .importUnit :=
        destination_of_isImport hfree h
      obtain ⟨journal, hstate⟩ := executeWith_of_import (nestedRun s.room) hplace
      rw [imports_of_isImport hsame hplace] at hstate
      refine ⟨journal, ?_⟩
      show (s.runLine text).2 = _
      unfold runLine
      rw [runLineWith_of_tokens _ _ _ _ htokens, hstate]
      rfl

/-! ## Any imports -/

/-- After any imports, the lists of all units that were found are registered in order. -/
theorem serveAll_of_isImport (hfree : s.registry.contains "IMPORT" = false)
    (hspares : s.catalog.SparesImport) {requests : List Request}
    (h : ∀ request ∈ requests, request.IsImport) :
    ∃ journal, s.serveAll requests =
      { s with
        registry := s.registry.registerAll (requests.flatMap s.catalog.found)
        journal := journal } := by
  induction requests generalizing s with
  | nil => exact ⟨s.journal, rfl⟩
  | cons request rest ih =>
    obtain ⟨hrequest, hrest⟩ := List.forall_mem_cons.mp h
    obtain ⟨journal, hfirst⟩ := serve_of_isImport hfree hrequest
    have hfree' : (s.serve request).2.registry.contains "IMPORT" = false := by
      rw [hfirst]
      dsimp only
      rw [Registry.contains_registerAll_of_not_mem _ (hspares.not_mem_found request)]
      exact hfree
    have hcatalog : (s.serve request).2.catalog = s.catalog := by rw [hfirst]
    obtain ⟨journal', hrun⟩ := ih hfree' (by rwa [hcatalog]) hrest
    refine ⟨journal', ?_⟩
    show (s.serve request).2.serveAll rest = _
    rw [hrun, hcatalog, hfirst, List.flatMap_cons, Registry.registerAll_append]

/-- **The last import wins.**  Let IMPORT be built in, and let no unit register an operation under
this name.  Importing a unit twice leaves the registry of one import; units without a common name may
be imported in either order.  After any imports, those of units that fail or are missing among them,
each name has the operation of the last pair for it in the lists of the units that were found, or
what it had before; the variables and the catalog are as they were. -/
theorem last_import_wins (s : Session ω) (hfree : s.registry.contains "IMPORT" = false)
    (hspares : s.catalog.SparesImport) :
    (∀ first again : Request, first.IsImport → again.IsImport → first.unit? = again.unit? →
      (s.serveAll [first, again]).registry = (s.serveAll [first]).registry) ∧
    (∀ first second : Request, first.IsImport → second.IsImport →
      ((s.catalog.found first).map Prod.fst).Disjoint ((s.catalog.found second).map Prod.fst) →
      (s.serveAll [first, second]).registry = (s.serveAll [second, first]).registry) ∧
    ∀ requests : List Request, (∀ request ∈ requests, request.IsImport) →
      let t := s.serveAll requests
      (∀ name, t.registry.lookup name =
        ((requests.flatMap s.catalog.found).reverse.lookup name).or (s.registry.lookup name)) ∧
      t.heap = s.heap ∧ t.own = s.own ∧ t.catalog = s.catalog := by
  have hregistry {requests : List Request} (h : ∀ request ∈ requests, request.IsImport) :
      (s.serveAll requests).registry =
        s.registry.registerAll (requests.flatMap s.catalog.found) := by
    obtain ⟨journal, hrun⟩ := serveAll_of_isImport hfree hspares h
    rw [hrun]
  have hpair (first second : Request) (hfirst : first.IsImport) (hsecond : second.IsImport) :
      (s.serveAll [first, second]).registry =
        (s.registry.registerAll (s.catalog.found first)).registerAll (s.catalog.found second) := by
    rw [hregistry (by simp [hfirst, hsecond]), ← Registry.registerAll_append]
    simp
  refine ⟨?_, ?_, ?_⟩
  · intro first again hfirst hagain hunit
    have hsame : s.catalog.found again = s.catalog.found first := by
      unfold Catalog.found
      rw [hunit]
    rw [hpair first again hfirst hagain, hsame, Registry.registerAll_registerAll,
      hregistry (by simpa using hfirst)]
    simp
  · intro first second hfirst hsecond hdisjoint
    rw [hpair first second hfirst hsecond, hpair second first hsecond hfirst]
    exact s.registry.registerAll_comm hdisjoint
  · intro requests h t
    obtain ⟨journal, hrun⟩ := serveAll_of_isImport hfree hspares h
    have hstate : t = { s with
        registry := s.registry.registerAll (requests.flatMap s.catalog.found)
        journal := journal } := hrun
    rw [hstate]
    exact ⟨fun name => Registry.lookup_registerAll _ _ name, rfl, rfl, rfl⟩

/-- An operation that takes so many arguments and gives no value. -/
def silentOperation (count : Nat) : Operation where
  arity := .exact count
  origin := .embedder
  apply := fun _ _ => .ok none

/-- Two units that overlap, the second one failing, and a missing unit between them. -/
theorem last_import_wins_of_overlap :
    let first : ExtensionUnit :=
      ⟨[("X", silentOperation 0), ("Y", silentOperation 1), ("X", silentOperation 2)], none⟩
    let second : ExtensionUnit := ⟨[("Y", silentOperation 3), ("PRINT", silentOperation 4)], some "e"⟩
    let catalog := (Catalog.add ∅ "first" first).add "second" second
    let s := { start Host.ofTable ⟨[], []⟩ with catalog := catalog }
    let import1 : Request := .line (Keyword.importUnit.quotedLine "first")
    let import2 : Request := .statement [⟨.identifier, "IMPORT"⟩, ⟨.string, "\"second\""⟩]
    let missing : Request := .line (Keyword.importUnit.quotedLine "third")
    let t := s.serveAll [import1, missing, import2]
    s.registry.contains "IMPORT" = false ∧ s.catalog.SparesImport ∧
    (s.serveAll [import1, import1]).registry = (s.serveAll [import1]).registry ∧
    (s.serveAll [missing, import2]).registry = (s.serveAll [import2, missing]).registry ∧
    t.registry.lookup "X" = some (silentOperation 2) ∧
    t.registry.lookup "Y" = some (silentOperation 3) ∧
    t.registry.lookup "PRINT" = some (silentOperation 4) ∧
    t.registry.lookup "Z" = none ∧ t.heap = s.heap := by
  intro first second catalog s import1 import2 missing t
  have hlookup (name : String) : s.catalog.lookup name =
      if "second" = name then some second else if "first" = name then some first else none := by
    show catalog.lookup name = _
    rw [Catalog.lookup_add, Catalog.lookup_add]
    simp [Catalog.lookup]
  have hspares : s.catalog.SparesImport := by
    intro name unit hunit
    rw [hlookup] at hunit
    split at hunit
    · obtain rfl := Option.some.inj hunit
      decide
    · split at hunit
      · obtain rfl := Option.some.inj hunit
        decide
      · cases hunit
  have htokens (name : String) (hquote : '"' ∉ name.toList)
      (hcomment : ¬ ['/', '/'] <:+: name.toList) :
      (Request.line (Keyword.importUnit.quotedLine name)).tokens =
        Keyword.importUnit.quotedTokens name := by
    rw [Request.tokens, tokenize_quotedLine _ name hquote hcomment]
    rfl
  have hfirst : import1.tokens = Keyword.importUnit.quotedTokens "first" :=
    htokens "first" (by decide) (by decide)
  have hmissing : missing.tokens = Keyword.importUnit.quotedTokens "third" :=
    htokens "third" (by decide) (by decide)
  have hfound1 : s.catalog.found import1 = first.operations := by
    rw [Catalog.found, Request.unit?, hfirst]
    rfl
  have hfound2 : s.catalog.found import2 = second.operations := rfl
  have hfound3 : s.catalog.found missing = [] := by
    rw [Catalog.found, Request.unit?, hmissing]
    rfl
  have himport1 : import1.IsImport := by rw [Request.IsImport, hfirst]; rfl
  have hmissing' : missing.IsImport := by rw [Request.IsImport, hmissing]; rfl
  obtain ⟨htwice, hcomm, hruns⟩ := last_import_wins s rfl hspares
  have hdisjoint : ((s.catalog.found missing).map Prod.fst).Disjoint
      ((s.catalog.found import2).map Prod.fst) := by
    rw [hfound3]
    exact List.disjoint_nil_left _
  obtain ⟨hlast, hheap, -, -⟩ := hruns [import1, missing, import2] (by
    intro request hrequest
    simp only [List.mem_cons, List.not_mem_nil, or_false] at hrequest
    rcases hrequest with rfl | rfl | rfl
    · exact himport1
    · exact hmissing'
    · rfl)
  have hlists : [import1, missing, import2].flatMap s.catalog.found =
      first.operations ++ second.operations := by
    simp only [List.flatMap_cons, List.flatMap_nil, hfound1, hfound2, hfound3, List.nil_append,
      List.append_nil]
  rw [hlists] at hlast
  exact ⟨rfl, hspares, htwice import1 import1 himport1 himport1 rfl,
    hcomm missing import2 hmissing' rfl hdisjoint, hlast "X", hlast "Y", hlast "PRINT", hlast "Z",
    hheap⟩

end Session

end LineScript
