import SqlVocabulary.Extraction.Basic
import SqlVocabulary.Proofs.Expansion.Reading

/-!
# The log of an extraction

A diagnostic goes two ways. It is reported when it arises, deep in the walk of a grammar or between
two literals that are cleaned; and it is kept, to be handed out with the literals at the end. The
two ways come to the same list: what is kept at the end of a source was reported once, and in that
order (`Extractor.diagnostics_extractSource`).

1. A run that needs the value of another one has logged what both did (`Run.Logs.exists_of_bind`).
2. A run *logs* what it keeps if the diagnostics among its events are those that go with its value
   (`Run.Logs`). Reading a grammar does, and so do expanding selectors, picking elements and
   cleaning literals; so does everything that is put together from them.
-/

namespace SqlVocabulary

/-! ## Diagnostics among events -/

namespace Event

@[simp] theorem diagnostics_nil : diagnostics [] = [] := rfl

@[simp] theorem diagnostics_append (l₁ l₂ : List Event) :
    diagnostics (l₁ ++ l₂) = diagnostics l₁ ++ diagnostics l₂ := List.filterMap_append

end Event

/-! ## Expansions -/

namespace Expansion

/-- The diagnostics that an expansion has logged are those that it hands out. -/
def Logged (e : Expansion) : Prop := Event.diagnostics e.events = e.diagnostics

theorem logged_empty : empty.Logged := rfl

theorem logged_skipped : (ofEvent .skippedAlternative).Logged := rfl

theorem logged_expanding (n : Nonterminal) (depth : Nat) :
    (ofEvent (.expanding n depth)).Logged := rfl

theorem logged_ofOutcome (o : Outcome) : (ofOutcome o).Logged := by
  cases o <;> rfl

/-- Nothing is logged again where expansions are joined. -/
theorem Logged.append {e f : Expansion} (he : e.Logged) (hf : f.Logged) : (e ++ f).Logged := by
  unfold Logged diagnostics at *
  rw [events_append, Event.diagnostics_append, he, hf, outcomes_append, List.filterMap_append]

end Expansion

theorem logged_walkItems {follow : Nonterminal → Budget → Expansion × Budget}
    (h : ∀ n b, (follow n b).1.Logged) (items : List Item) (b : Budget) :
    (walkItems follow items b).1.Logged :=
  walkItems_induction Expansion.logged_empty Expansion.logged_skipped Expansion.logged_ofOutcome
    (fun _ _ => Expansion.Logged.append) h items b

theorem logged_resolve (g : Grammar) (p : Policy) (room : Nat) (path : List Nonterminal)
    (n : Nonterminal) (b : Budget) : (resolve g p room path n b).1.Logged := by
  refine resolve_induction (motive := fun _ _ _ _ r => r.1.Logged)
    ?spent ?turnsBack ?noRoom ?noBudget ?resolved room path n b
  case spent => exact fun _ _ _ => Expansion.logged_empty
  case turnsBack => exact fun _ _ _ _ o _ => Expansion.logged_ofOutcome o
  case noRoom => exact fun _ n _ _ _ => Expansion.logged_ofOutcome (.tooDeep n)
  case noBudget => exact fun _ _ n _ _ => Expansion.logged_ofOutcome (.stopped n)
  case resolved =>
    intro room path n k body _ ih
    exact (Expansion.logged_expanding n _).append (logged_walkItems ih _ _)

/-- **The log of an expansion.** It tells of the diagnostics that are handed out, in their order. -/
theorem logged_expand (body : Text) (g : Grammar) (p : Policy) (path : List Nonterminal) :
    (expand body g p path).Logged :=
  logged_walkItems (logged_resolve g p _ _) (p.read body) _

/-! ## Cleaning -/

theorem Cleanup.logged_applyAll (c : Cleanup) (ts : List Text) :
    Event.diagnostics (c.applyAll ts).events = (c.applyAll ts).diagnostics := by
  induction ts with
  | nil => rfl
  | cons t ts ih =>
    unfold applyAll
    cases c.apply t with
    | ok u => exact ih
    | error d => exact congrArg (d :: ·) ih

/-! ## Runs that log what they keep -/

namespace Run

variable {α β : Type}

/-- A run logs the diagnostics that go with its value, each once and in their order. -/
def Logs (r : Run α) (kept : α → List Diagnostic) : Prop :=
  ∀ a, r.result = .ok a → Event.diagnostics r.events = kept a

theorem logs_fail (e : Error) (kept : α → List Diagnostic) : (fail e : Run α).Logs kept := by
  rintro _ ⟨⟩

@[simp] theorem diagnostics_pure (a : α) : Event.diagnostics (pure a : Run α).events = [] := rfl

theorem logs_report (events : List Event) :
    (report events).Logs fun _ => Event.diagnostics events := fun _ _ => rfl

/-- **Composition.** A run that needs the value of another one has a value only if that one has, and
it has logged what that one keeps before anything else. -/
theorem Logs.exists_of_bind {r : Run α} {f : α → Run β} {kept : α → List Diagnostic} {b : β}
    (hr : r.Logs kept) (h : (r >>= f).result = .ok b) :
    ∃ a, r.result = .ok a ∧ (f a).result = .ok b ∧
      Event.diagnostics (r >>= f).events = kept a ++ Event.diagnostics (f a).events := by
  obtain ⟨events, fetched, result⟩ := r
  cases result with
  | error e => cases h
  | ok a =>
    refine ⟨a, rfl, h, ?_⟩
    rw [← hr a rfl]
    exact Event.diagnostics_append events (f a).events

end Run

/-! ## Grammar documents -/

namespace Grammar

theorem diagnostics_define (g : Grammar) (n : Nonterminal) (body : Text) :
    (g.define n body).1.diagnostics = g.diagnostics ++ Event.diagnostics (g.define n body).2 := by
  unfold define
  split
  · rfl
  · simp

theorem diagnostics_addBlock (g : Grammar) (block : Text) :
    (g.addBlock block).1.diagnostics = g.diagnostics ++ Event.diagnostics (g.addBlock block).2 := by
  unfold addBlock
  split
  · exact diagnostics_define g _ _
  · exact (List.append_nil _).symm

theorem diagnostics_addBlocks (g : Grammar) (bs : List Text) :
    (g.addBlocks bs).1.diagnostics = g.diagnostics ++ Event.diagnostics (g.addBlocks bs).2 := by
  induction bs generalizing g with
  | nil => exact (List.append_nil _).symm
  | cons b bs ih =>
    have hgrammar : (g.addBlocks (b :: bs)).1 = ((g.addBlock b).1.addBlocks bs).1 := rfl
    have hevents : (g.addBlocks (b :: bs)).2 =
        (g.addBlock b).2 ++ ((g.addBlock b).1.addBlocks bs).2 := rfl
    rw [hgrammar, ih, diagnostics_addBlock, hevents, Event.diagnostics_append, List.append_assoc]

theorem diagnostics_parse (document : Text) :
    Event.diagnostics (parse document).2 = (parse document).1.diagnostics := by
  have hgrammar : (parse document).1 = (empty.addBlocks (blocks document)).1 := rfl
  have hevents : (parse document).2 = (empty.addBlocks (blocks document)).2 ++
      [.parsed (empty.addBlocks (blocks document)).1.rules.length] := rfl
  rw [hgrammar, diagnostics_addBlocks, hevents, Event.diagnostics_append]
  exact List.append_nil _

theorem logs_expandRule (g : Grammar) (selector : Text) (p : Policy) :
    (g.expandRule selector p).Logs Expansion.diagnostics := by
  unfold expandRule expandNonterminal
  split
  · rintro e ⟨⟩
    rw [← logged_expand]
    exact congrArg Event.diagnostics (List.append_nil _)
  · exact Run.logs_fail _ _

theorem logs_expandSelectors (g : Grammar) (p : Policy) (selectors : List Text) :
    (g.expandSelectors p selectors).Logs Expansion.diagnostics := by
  induction selectors with
  | nil =>
    rintro e ⟨⟩
    rfl
  | cons s ss ih =>
    intro e he
    obtain ⟨first, -, he, hfirst⟩ := (logs_expandRule g s p).exists_of_bind he
    obtain ⟨rest, -, ⟨⟩, hrest⟩ := ih.exists_of_bind he
    have hkept : (first ++ rest).diagnostics = first.diagnostics ++ rest.diagnostics :=
      List.filterMap_append
    unfold expandSelectors
    rw [hfirst, hrest, hkept, Run.diagnostics_pure, List.append_nil]

end Grammar

/-! ## Sources -/

theorem logs_selectFromGrammar (s : Source) (document : Text) :
    (selectFromGrammar s document).Logs Yield.diagnostics := by
  have hparse := Grammar.diagnostics_parse document
  unfold selectFromGrammar
  generalize Grammar.parse document = read at hparse ⊢
  intro y hy
  -- after the document was read, the selectors are expanded
  obtain ⟨-, -, hy, hread⟩ := (Run.logs_report read.2).exists_of_bind hy
  obtain ⟨e, -, ⟨⟩, hselect⟩ :=
    (Grammar.logs_expandSelectors read.1 s.policy s.selectors).exists_of_bind hy
  rw [hread, hselect, hparse, Run.diagnostics_pure, List.append_nil]

theorem diagnostics_select (d : Markup.Document) (selectors : List Text) :
    Event.diagnostics (d.events selectors) = [] := by
  unfold Markup.Document.events Event.diagnostics
  rw [List.filterMap_map]
  exact List.filterMap_eq_nil_iff.2 fun _ _ => rfl

theorem logs_selectFromMarkup (reader : Option Markup.Reader) (s : Source) (document : Text) :
    (selectFromMarkup reader s document).Logs Yield.diagnostics := by
  unfold selectFromMarkup
  split
  · exact Run.logs_fail _ _
  · split
    · exact Run.logs_fail _ _
    · rename_i d _
      intro y hy
      obtain ⟨-, -, ⟨⟩, hpick⟩ := (Run.logs_report (d.events s.selectors)).exists_of_bind hy
      rw [hpick, diagnostics_select, Run.diagnostics_pure]
      rfl

theorem Cleanup.logs_run (c : Cleanup) (literals : List Text) :
    (c.run literals).Logs Yield.diagnostics := by
  intro y hy
  obtain ⟨-, -, ⟨⟩, hreport⟩ := (Run.logs_report (c.applyAll literals).events).exists_of_bind hy
  unfold run
  rw [hreport, c.logged_applyAll, Run.diagnostics_pure, List.append_nil]

namespace Extractor

theorem logs_select (x : Extractor) (s : Source) (document : Text) :
    (x.select s document).Logs Yield.diagnostics := by
  unfold select
  split
  · exact logs_selectFromGrammar s document
  · exact logs_selectFromMarkup x.reader s document

/-- What was selected in a document is logged before what was left out by cleaning. -/
theorem logs_extractDocument (x : Extractor) (s : Source) (document : Text) :
    (x.extractDocument s document).Logs Yield.diagnostics := by
  intro y hy
  obtain ⟨selected, -, hy, hselect⟩ := (logs_select x s document).exists_of_bind hy
  obtain ⟨cleaned, -, ⟨⟩, hclean⟩ := (s.cleanup.logs_run selected.literals).exists_of_bind hy
  unfold extractDocument
  rw [hselect, hclean, Run.diagnostics_pure, List.append_nil]

theorem logs_extractDocuments (x : Extractor) (s : Source) (documents : List Text) :
    (x.extractDocuments s documents).Logs Yield.diagnostics := by
  induction documents with
  | nil =>
    rintro y ⟨⟩
    rfl
  | cons d ds ih =>
    intro y hy
    obtain ⟨first, -, hy, hfirst⟩ := (logs_extractDocument x s d).exists_of_bind hy
    obtain ⟨rest, -, ⟨⟩, hrest⟩ := ih.exists_of_bind hy
    unfold extractDocuments
    rw [hfirst, hrest, Run.diagnostics_pure, List.append_nil]
    rfl

end Extractor

theorem Provider.logs_fetchAll (p : Provider) (urls : List Text) :
    (p.fetchAll urls).Logs fun _ => [] := by
  induction urls with
  | nil => exact fun _ _ => rfl
  | cons url urls ih =>
    intro documents h
    have hfetch : (p.fetch url).Logs fun _ => [] := fun _ _ => rfl
    obtain ⟨d, -, h, hfirst⟩ := hfetch.exists_of_bind h
    obtain ⟨ds, -, -, hrest⟩ := ih.exists_of_bind h
    unfold fetchAll
    rw [hfirst, hrest]
    rfl

/-- **The log.** The diagnostics that an extraction reports are those that it hands out: each of
them once, and in the same order, over all its documents, selectors and literals. -/
theorem Extractor.diagnostics_extractSource (x : Extractor) (s : Source) {e : Extracted}
    (h : (x.extractSource s).result = .ok e) :
    Event.diagnostics (x.extractSource s).events = e.diagnostics := by
  obtain ⟨documents, -, h, hfetch⟩ := (x.provider.logs_fetchAll s.urls).exists_of_bind h
  obtain ⟨y, -, ⟨⟩, hextract⟩ := (x.logs_extractDocuments s documents).exists_of_bind h
  unfold extractSource
  rw [hfetch, hextract]
  exact List.append_nil _

/-- A grammar with a rule that is defined twice, a loop, a reference to nothing and a word that is
not in upper case. -/
def flawed : Text := "<s> ::=\n  <t> | <u>\n\n<t> ::=\n  X\n\n<t> ::=\n  <s> | x".toList

/-- A source that takes that grammar twice. -/
def flawedSource : Source :=
  ⟨[['d'], ['d']], .grammar, [['s']], {}, .statements⟩

/-- Each of its diagnostics is logged once for each time that the grammar is read. -/
theorem Extractor.diagnostics_extractSource_flawed :
    let x : Extractor := ⟨(Documents.empty.insert ['d'] flawed).provider, none⟩
    ∃ e, (x.extractSource flawedSource).result = .ok e ∧
      Event.diagnostics (x.extractSource flawedSource).events = e.diagnostics ∧
      e.diagnostics.map (·.code) =
        [.redefinition, .selfReference, .undefinedReference, .lowerCaseLiteral,
          .redefinition, .selfReference, .undefinedReference, .lowerCaseLiteral] := by
  intro x
  have hcodes : (x.extractSource flawedSource).result.toOption.map
      (fun e => e.diagnostics.map (·.code)) =
        some [.redefinition, .selfReference, .undefinedReference, .lowerCaseLiteral,
          .redefinition, .selfReference, .undefinedReference, .lowerCaseLiteral] := by
    decide +kernel
  rcases he : (x.extractSource flawedSource).result with _ | e
  · rw [he] at hcodes
    cases hcodes
  · rw [he] at hcodes
    exact ⟨e, rfl, x.diagnostics_extractSource flawedSource he, Option.some.inj hcodes⟩

end SqlVocabulary
