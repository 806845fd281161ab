import SqlVocabulary.Proofs.Extraction.Cleaning
import SqlVocabulary.Proofs.Extraction.Flattening
import SqlVocabulary.Proofs.Grammar.Joining
import SqlVocabulary.Markup.Listing

/-!
# Nothing disappears silently

Whatever is found in a document ends up in one of two lists: it is a literal of the source, or there
is a diagnostic for it. The number of literals and of diagnostics of each family is that of what was
found.

1. In one document, the diagnostics of the grammar, of the expansions and of cleaning are of
   different families, so they are counted apart (`Balance.document`).
2. Such counts add up (`Balance.append`), so they hold of all documents of a source together
   (`exists_balance`, `exists_pages`).
3. `Extractor.extractSource_balance` puts this together with what cleaning keeps.
-/

namespace SqlVocabulary

/-! ## Diagnostics by family -/

/-- How many diagnostics have an identifier that starts with a given text. -/
def countOf (family : String) (ds : List Diagnostic) : Nat := ds.countP fun d => d.isOf family

theorem countOf_append (family : String) (ds es : List Diagnostic) :
    countOf family (ds ++ es) = countOf family ds + countOf family es := List.countP_append

theorem countOf_eq_length {family : String} {ds : List Diagnostic}
    (h : ∀ d ∈ ds, d.isOf family = true) : countOf family ds = ds.length :=
  List.countP_eq_length.2 h

theorem countOf_eq_zero {family other : String} {ds : List Diagnostic}
    (h : ∀ d ∈ ds, d.isOf family = true)
    (hother : (family.toList.isPrefixOf other.toList || other.toList.isPrefixOf family.toList) =
      false) : countOf other ds = 0 :=
  List.countP_eq_zero.2 fun d hd => Bool.eq_false_iff.1 (Diagnostic.isOf_eq_false (h d hd) hother)

/-- Whether an outcome stands for missing content: it is neither a literal nor suppressed. -/
def Outcome.isMissing : Outcome → Bool
  | .literal _ | .suppressed _ => false
  | _ => true

theorem Outcome.isSome_diagnostic? (o : Outcome) : o.diagnostic?.isSome = o.isMissing := by
  cases o <;> rfl

theorem Outcome.isOf_diagnostic? {o : Outcome} {d : Diagnostic} (h : o.diagnostic? = some d) :
    d.isOf "G02" = true := by
  cases o <;> cases h <;> rfl

theorem Expansion.isOf_of_mem {e : Expansion} {d : Diagnostic} (h : d ∈ e.diagnostics) :
    d.isOf "G02" = true := by
  obtain ⟨o, -, ho⟩ := List.mem_filterMap.1 h
  exact Outcome.isOf_diagnostic? ho

theorem Expansion.length_diagnostics (e : Expansion) :
    e.diagnostics.length = e.outcomes.countP Outcome.isMissing := by
  unfold diagnostics
  rw [List.length_filterMap_eq_countP]
  exact List.countP_congr fun o _ => by rw [o.isSome_diagnostic?]

theorem Expansion.length_literals (e : Expansion) :
    e.literals.length = e.outcomes.countP fun o => o.literal?.isSome :=
  List.length_filterMap_eq_countP

/-! ## One grammar document -/

/-- The blocks of a document that define a rule. -/
def definingBlocks (document : Text) : List Text :=
  (blocks document).filter fun b => (headerName? (blockHeader b)).isSome

/-- Each block that defines a rule is the first one of its rule, or it is reported. -/
theorem length_diagnostics_add (document : Text) :
    (Grammar.ofText document).diagnostics.length + (Grammar.ofText document).rules.length =
      (definingBlocks document).length := by
  have hblocks : (definingBlocks document).length = (definitions document).length := by
    rw [← filterMap_blocks, List.length_filterMap_eq_countP, definingBlocks,
      ← List.countP_eq_length_filter]
    exact List.countP_congr fun b _ => by rw [Rule.ofBlock?, Option.isSome_map]
  have hrules : (Grammar.ofText document).rules.length =
      ((definitions document).map (·.name)).eraseDups.length := by
    rw [← names_ofText, Grammar.names, List.length_map]
  rw [hblocks, hrules, length_diagnostics_ofText, length_redefined]

theorem Grammar.isOf_of_mem {document : Text} {d : Diagnostic}
    (h : d ∈ (Grammar.ofText document).diagnostics) : d.isOf "G0101" = true := by
  rw [Grammar.ofText_eq_defineAll, Grammar.defineAll_empty] at h
  obtain ⟨n, -, rfl⟩ := List.mem_map.1 h
  rfl

theorem isOf_of_mem_dropped {c : Cleanup} {ts : List Text} {d : Diagnostic}
    (h : d ∈ (c.applyAll ts).diagnostics) : d.isOf "G03" = true := by
  obtain ⟨t, -, ht⟩ := Cleanup.exists_of_mem_dropped h
  exact Cleanup.isOf_of_apply_eq_error ht

/-- What grammar documents and the outcomes found in them leave behind: each literal among the
outcomes is kept or rejected, there is a diagnostic for each outcome that stands for missing
content, and one for each block that defines a rule again. -/
structure Balance (documents : List Text) (outcomes : List Outcome) (y : Yield) : Prop where
  kept_or_rejected :
    y.literals.length + countOf "G03" y.diagnostics = outcomes.countP fun o => o.literal?.isSome
  missing : countOf "G02" y.diagnostics = outcomes.countP Outcome.isMissing
  redefined :
    countOf "G0101" y.diagnostics +
        (documents.flatMap fun d => (Grammar.ofText d).rules).length =
      (documents.flatMap definingBlocks).length

namespace Balance

theorem nil : Balance [] [] .empty := ⟨rfl, rfl, rfl⟩

theorem append {ds es : List Text} {os ps : List Outcome} {y z : Yield} (hy : Balance ds os y)
    (hz : Balance es ps z) : Balance (ds ++ es) (os ++ ps) (y.append z) := by
  obtain ⟨hkept, hmissing, hredefined⟩ := hy
  obtain ⟨hkept', hmissing', hredefined'⟩ := hz
  constructor
  · simp only [Yield.append, countOf_append, List.length_append, List.countP_append]
    omega
  · simp only [Yield.append, countOf_append, List.countP_append]
    omega
  · simp only [Yield.append, countOf_append, List.flatMap_append, List.length_append]
    omega

theorem document (s : Source) (d : Text) (e : Expansion) :
    Balance [d] e.outcomes (s.cleaned (.ofExpansion d e)) := by
  -- the three sorts of diagnostics are of three families, so each count sees only one of them
  have hcount : ∀ family, countOf family (s.cleaned (.ofExpansion d e)).diagnostics =
      countOf family (Grammar.ofText d).diagnostics + countOf family e.diagnostics +
        countOf family (s.cleanup.applyAll e.literals).diagnostics := by
    intro family
    simp only [Source.cleaned, Yield.ofExpansion, countOf_append]
  have hgrammar : ∀ f ∈ (Grammar.ofText d).diagnostics, f.isOf "G0101" = true :=
    fun f hf => Grammar.isOf_of_mem hf
  have hexpansion : ∀ f ∈ e.diagnostics, f.isOf "G02" = true :=
    fun f hf => Expansion.isOf_of_mem hf
  have hdropped : ∀ f ∈ (s.cleanup.applyAll e.literals).diagnostics, f.isOf "G03" = true :=
    fun f hf => isOf_of_mem_dropped hf
  constructor
  · have hkept : (s.cleaned (.ofExpansion d e)).literals.length =
        (s.cleanup.applyAll e.literals).literals.length := rfl
    have hcleaned := s.cleanup.length_applyAll e.literals
    rw [hcount, countOf_eq_zero hgrammar rfl, countOf_eq_zero hexpansion rfl,
      countOf_eq_length hdropped, hkept, ← e.length_literals]
    omega
  · rw [hcount, countOf_eq_zero hgrammar rfl, countOf_eq_length hexpansion,
      countOf_eq_zero hdropped rfl, e.length_diagnostics]
    omega
  · have hblocks := length_diagnostics_add d
    rw [hcount, countOf_eq_length hgrammar, countOf_eq_zero hexpansion rfl,
      countOf_eq_zero hdropped rfl]
    simpa using hblocks

end Balance

/-! ## One markup document -/

namespace Markup

/-- Whether an element has a text child that is not blank. -/
def Element.hasText (e : Element) : Bool := e.texts.any fun t => !Text.isBlank t

/-- The elements that selectors pick, in the order of the selectors. -/
def Document.elements (d : Document) (selectors : List Text) : List Element :=
  selectors.flatMap d.select

theorem Element.isSome_firstText? (e : Element) : e.firstText?.isSome = e.hasText := by
  rw [Bool.eq_iff_iff, firstText?, List.find?_isSome, hasText, List.any_eq_true]

theorem Document.literals_eq (d : Document) (selectors : List Text) :
    d.literals selectors = (d.elements selectors).filterMap Element.firstText? := by
  induction selectors with
  | nil => rfl
  | cons selector selectors ih =>
    show (d.select selector).filterMap Element.firstText? ++ d.literals selectors =
      (d.select selector ++ d.elements selectors).filterMap Element.firstText?
    rw [ih, List.filterMap_append]

theorem Document.length_literals (d : Document) (selectors : List Text) :
    (d.literals selectors).length = (d.elements selectors).countP Element.hasText := by
  rw [literals_eq, List.length_filterMap_eq_countP]
  exact List.countP_congr fun e _ => by rw [e.isSome_firstText?]

end Markup

/-- What a source leaves of what it picks from a markup document. -/
def Source.ofPage (s : Source) (page : Markup.Document) : Yield :=
  s.cleaned ⟨page.literals s.selectors, []⟩

/-- What markup documents with the elements picked from them leave behind: the literal of each
element that has one is kept or rejected, and nothing else is reported. -/
structure ElementBalance (elements : List Markup.Element) (y : Yield) : Prop where
  kept_or_rejected :
    y.literals.length + countOf "G03" y.diagnostics = elements.countP Markup.Element.hasText
  rejected : ∀ d ∈ y.diagnostics, d.isOf "G03" = true

namespace ElementBalance

theorem nil : ElementBalance [] .empty := ⟨rfl, by simp [Yield.empty]⟩

theorem append {es fs : List Markup.Element} {y z : Yield} (hy : ElementBalance es y)
    (hz : ElementBalance fs z) : ElementBalance (es ++ fs) (y.append z) := by
  obtain ⟨hkept, hrejected⟩ := hy
  obtain ⟨hkept', hrejected'⟩ := hz
  constructor
  · simp only [Yield.append, countOf_append, List.length_append, List.countP_append]
    omega
  · exact fun d hd => (List.mem_append.1 hd).elim (hrejected d) (hrejected' d)

theorem document (s : Source) (page : Markup.Document) :
    ElementBalance (page.elements s.selectors) (s.ofPage page) := by
  have hdropped : ∀ f ∈ (s.cleanup.applyAll (page.literals s.selectors)).diagnostics,
      f.isOf "G03" = true := fun f hf => isOf_of_mem_dropped hf
  have hcleaned := s.cleanup.length_applyAll (page.literals s.selectors)
  refine ⟨?_, hdropped⟩
  rw [← countOf_eq_length hdropped, page.length_literals] at hcleaned
  exact hcleaned

theorem pages (s : Source) (pages : List Markup.Document) :
    ElementBalance (pages.flatMap (·.elements s.selectors)) (.concat (pages.map s.ofPage)) := by
  induction pages with
  | nil => exact nil
  | cons page pages ih => exact (document s page).append ih

end ElementBalance

/-! ## Sources -/

namespace Extractor

variable {x : Extractor} {s : Source}

/-- A grammar document that is extracted has expansions for all selectors. -/
theorem exists_expands {d : Text} {y : Yield} (hformat : s.format = .grammar)
    (h : (x.extractDocument s d).result = .ok y) :
    ∃ es, (Grammar.ofText d).Expands s.policy s.selectors es ∧
      y = s.cleaned (.ofExpansion d (.concat es)) := by
  rw [extractDocument_grammar hformat, Grammar.result_expandSelectors] at h
  rcases hes : s.selectors.mapM fun selector =>
    ((Grammar.ofText d).expandRule selector s.policy).result with _ | es <;> rw [hes] at h
  · cases h
  · cases h
    exact ⟨es, mapM_eq_ok_iff.1 hes, rfl⟩

theorem exists_balance {ds : List Text} {ys : List Yield} (hformat : s.format = .grammar)
    (h : List.Forall₂ (fun d y => (x.extractDocument s d).result = .ok y) ds ys) :
    ∃ ess : List (List Expansion),
      List.Forall₂ (fun d es => (Grammar.ofText d).Expands s.policy s.selectors es) ds ess ∧
        Balance ds (ess.flatten.flatMap (·.outcomes)) (.concat ys) := by
  induction h with
  | nil => exact ⟨[], .nil, .nil⟩
  | @cons d y ds ys hd _ ih =>
    obtain ⟨es, hes, rfl⟩ := exists_expands hformat hd
    obtain ⟨ess, hess, hbalance⟩ := ih
    have hfirst := Balance.document s d (.concat es)
    rw [Expansion.outcomes_concat] at hfirst
    refine ⟨es :: ess, .cons hes hess, ?_⟩
    rw [List.flatten_cons, List.flatMap_append]
    exact hfirst.append hbalance

theorem extractDocument_markup {d : Text} {y : Yield} (hformat : s.format = .markup) :
    (x.extractDocument s d).result = .ok y ↔
      ∃ page, (∃ read ∈ x.reader, read d = .ok page) ∧ s.ofPage page = y := by
  have hselect : x.select s d = selectFromMarkup x.reader s d := by
    unfold select
    rw [hformat]
  rw [result_extractDocument, hselect]
  unfold selectFromMarkup
  cases x.reader with
  | none => simp [Run.fail, Except.map]
  | some read =>
    cases hpage : read d with
    | error reason => simp [Run.fail, Except.map, hpage]
    | ok page =>
      simp only [hpage]
      show Except.ok (s.ofPage page) = Except.ok y ↔ _
      simp [hpage]

theorem extractDocuments_markup {ds : List Text} {ys : List Yield} (hformat : s.format = .markup) :
    List.Forall₂ (fun d y => (x.extractDocument s d).result = .ok y) ds ys ↔
      ∃ pages, List.Forall₂ (fun d page => ∃ read ∈ x.reader, read d = .ok page) ds pages ∧
        pages.map s.ofPage = ys := by
  simp only [extractDocument_markup hformat, forall₂_comp_iff]
  simp only [← List.forall₂_map_left_iff, List.forall₂_eq_eq_eq]

theorem exists_pages {ds : List Text} {ys : List Yield} (hformat : s.format = .markup)
    (h : List.Forall₂ (fun d y => (x.extractDocument s d).result = .ok y) ds ys) :
    ∃ pages : List Markup.Document,
      List.Forall₂ (fun d page => ∃ read ∈ x.reader, read d = .ok page) ds pages ∧
        ElementBalance (pages.flatMap (·.elements s.selectors)) (.concat ys) := by
  obtain ⟨pages, hpages, rfl⟩ := (extractDocuments_markup hformat).1 h
  exact ⟨pages, hpages, .pages s pages⟩

theorem of_mem_literals {e : Extracted} (h : (x.extractSource s).result = .ok e) {t : Text}
    (ht : t ∈ e.literals) : Text.isBlank t = false ∧ t.upper = t := by
  obtain ⟨ds, ys, -, hys, rfl⟩ := extractSource_eq_ok_iff.1 h
  obtain ⟨y, hy, ht⟩ := List.mem_flatMap.1 ht
  obtain ⟨d, hd⟩ : ∃ d, (x.extractDocument s d).result = .ok y := by
    obtain ⟨i, hi, rfl⟩ := List.mem_iff_getElem.1 hy
    exact ⟨_, hys.get (by rw [hys.length_eq]; exact hi) hi⟩
  rw [result_extractDocument] at hd
  rcases hselect : (x.select s d).result with _ | selected <;> rw [hselect] at hd
  · cases hd
  · cases hd
    obtain ⟨literal, -, hkept⟩ := Cleanup.exists_of_mem_kept ht
    exact Cleanup.of_apply_eq_ok hkept

/-- **Conservation.** A source that is extracted has its documents. If they are grammars, then each
literal among the outcomes of its selectors, in all documents, is a literal of the source or
rejected, there is a diagnostic for each outcome that stands for missing content, and for each
definition that is not the first of its rule. If they are markup, then each element with text that a
selector picks has given a literal or is rejected, and there are no other diagnostics. Either way,
the literals are not blank and in upper case, whatever the patterns are. -/
theorem extractSource_balance {e : Extracted} (h : (x.extractSource s).result = .ok e) :
    ∃ documents : List Text,
      List.Forall₂ (fun url d => x.provider url = .ok d) s.urls documents ∧
      (s.format = .grammar → ∃ expansions : List (List Expansion),
        List.Forall₂ (fun d es => (Grammar.ofText d).Expands s.policy s.selectors es)
          documents expansions ∧
        Balance documents (expansions.flatten.flatMap (·.outcomes)) ⟨e.literals, e.diagnostics⟩) ∧
      (s.format = .markup → ∃ pages : List Markup.Document,
        List.Forall₂ (fun d page => ∃ read ∈ x.reader, read d = .ok page) documents pages ∧
        ElementBalance (pages.flatMap (·.elements s.selectors)) ⟨e.literals, e.diagnostics⟩) ∧
      ∀ t ∈ e.literals, Text.isBlank t = false ∧ t.upper = t := by
  obtain ⟨ds, ys, hds, hys, rfl⟩ := extractSource_eq_ok_iff.1 h
  exact ⟨ds, hds, fun hgrammar => exists_balance hgrammar hys,
    fun hmarkup => exists_pages hmarkup hys, fun t ht => of_mem_literals h ht⟩

end Extractor

/-- A grammar that defines a rule twice, with no content in the end. -/
def lossyRules : Text :=
  "<s> ::=\n  <t> | A | b | <u> | <implementation-defined x>\n\n<t> ::=\n  C\n\n<t> ::=\n".toList

/-- A listing in which one element has no text. -/
def lossyElements : Text := "li\tALTER\nli\tdrop\nli\t  ".toList

def lossy : Extractor :=
  ⟨((Documents.empty.insert ['g'] lossyRules).insert ['m'] lossyElements).provider,
    some Markup.Listing.read⟩

/-- What the grammar leaves: one literal of three, and a diagnostic for each of the others, for the
missing rule and for the second definition. -/
def leftOfRules : Extracted :=
  ⟨[['A']], true,
    [.about .redefinition (.ofText ['t'])
        "<t> is defined more than once, keeping the last definition".toList,
      .about .undefinedReference (.ofText ['u']) "\"u\" not defined".toList,
      ⟨.emptyLiteral, "Empty literal: \"\"".toList, none⟩,
      ⟨.lowerCaseLiteral, "Upper case error: b".toList, none⟩]⟩

/-- What the listing leaves: one literal of two, and a diagnostic for the other. -/
def leftOfElements : Extracted :=
  ⟨["ALTER".toList], true, [⟨.lowerCaseLiteral, "Upper case error: drop".toList, none⟩]⟩

/-- Three blocks make two rules, and five outcomes one literal; two elements with text make another
one. -/
theorem Extractor.extractSource_balance_lossy :
    (∃ expansions : List (List Expansion),
      List.Forall₂ (fun d es => (Grammar.ofText d).Expands .statements [['s']] es) [lossyRules]
        expansions ∧
      Balance [lossyRules] (expansions.flatten.flatMap (·.outcomes))
        ⟨leftOfRules.literals, leftOfRules.diagnostics⟩) ∧
    (∃ pages : List Markup.Document,
      List.Forall₂ (fun d page => Markup.Listing.read d = .ok page) [lossyElements] pages ∧
      ElementBalance (pages.flatMap (·.elements ["li".toList]))
        ⟨leftOfElements.literals, leftOfElements.diagnostics⟩) ∧
    Text.upper "ALTER".toList = "ALTER".toList := by
  have hrules : (lossy.extractSource ⟨[['g']], .grammar, [['s']], {}, .statements⟩).result =
      .ok leftOfRules := by decide +kernel
  have helements : (lossy.extractSource ⟨[['m']], .markup, ["li".toList], {}, .statements⟩).result =
      .ok leftOfElements := by decide +kernel
  have hfirst : lossy.provider ['g'] = .ok lossyRules := by decide
  have hsecond : lossy.provider ['m'] = .ok lossyElements := by decide
  refine ⟨?_, ?_, ?_⟩
  · obtain ⟨ds, hds, hgrammar, -⟩ := extractSource_balance hrules
    rcases hds with - | ⟨hd, - | -⟩
    cases hfirst.symm.trans hd
    exact hgrammar rfl
  · obtain ⟨ds, hds, -, hmarkup, -⟩ := extractSource_balance helements
    rcases hds with - | ⟨hd, - | -⟩
    cases hsecond.symm.trans hd
    obtain ⟨pages, hpages, hbalance⟩ := hmarkup rfl
    refine ⟨pages, hpages.imp fun d page h => ?_, hbalance⟩
    obtain ⟨read, hread, hpage⟩ := h
    cases hread
    exact hpage
  · obtain ⟨-, -, -, -, hupper⟩ := extractSource_balance helements
    exact (hupper _ (by decide)).2

end SqlVocabulary
