import SqlVocabulary.Proofs.Extraction.Conservation

/-!
# The texts of markup elements

A markup source shows texts: the first one of each element that is not blank. Cleaning has a check
for blank literals too, and the two agree on what is blank, so where there are no patterns, no
literal of a markup source is rejected as empty. It is kept as it stands, or it is not in upper
case.

1. What elements show is said without searching them (`Markup.Shows`), and it is what is picked from
   them (`Markup.shows_iff`).
2. A source is extracted when all of its documents are there and can be read, and only then. Its
   literals and its diagnostics are what cleaning makes of the texts that the documents show
   (`Extractor.extractSource_markup`).
3. `Extractor.extractSource_elements` puts this together with the checks.
-/

namespace SqlVocabulary

namespace Markup

/-- The texts that elements show, in the order of the elements: the first text child of each that is
not blank, if it has one. -/
inductive Shows : List Element → List Text → Prop
  | nil : Shows [] []
  | blank {e : Element} {es : List Element} {ts : List Text} :
      (∀ t ∈ e.texts, Text.isBlank t = true) → Shows es ts → Shows (e :: es) ts
  | text {before after : List Text} {t : Text} {es : List Element} {ts : List Text} :
      (∀ u ∈ before, Text.isBlank u = true) → Text.isBlank t = false → Shows es ts →
        Shows (⟨before ++ t :: after⟩ :: es) (t :: ts)

theorem Element.firstText?_eq_none {e : Element} :
    e.firstText? = none ↔ ∀ t ∈ e.texts, Text.isBlank t = true := by
  simp [firstText?]

theorem Element.firstText?_eq_some {e : Element} {t : Text} :
    e.firstText? = some t ↔ Text.isBlank t = false ∧
      ∃ before after, e.texts = before ++ t :: after ∧ ∀ u ∈ before, Text.isBlank u = true := by
  simp [firstText?, List.find?_eq_some_iff_append]

theorem Shows.eq_filterMap {es : List Element} {ts : List Text} (h : Shows es ts) :
    ts = es.filterMap Element.firstText? := by
  induction h with
  | nil => rfl
  | blank hblank _ ih =>
    rw [List.filterMap_cons_none (Element.firstText?_eq_none.2 hblank)]
    exact ih
  | text hbefore hvisible _ ih =>
    rw [List.filterMap_cons_some (Element.firstText?_eq_some.2 ⟨hvisible, _, _, rfl, hbefore⟩),
      ← ih]

theorem shows_filterMap (es : List Element) : Shows es (es.filterMap Element.firstText?) := by
  induction es with
  | nil => exact .nil
  | cons e es ih =>
    cases hfirst : e.firstText? with
    | none =>
      rw [List.filterMap_cons_none hfirst]
      exact .blank (Element.firstText?_eq_none.1 hfirst) ih
    | some t =>
      obtain ⟨hvisible, before, after, htexts, hbefore⟩ := Element.firstText?_eq_some.1 hfirst
      rw [List.filterMap_cons_some hfirst, show e = ⟨before ++ t :: after⟩ from
        congrArg Element.mk htexts]
      exact .text hbefore hvisible ih

theorem shows_iff {es : List Element} {ts : List Text} :
    Shows es ts ↔ ts = es.filterMap Element.firstText? := by
  constructor
  · exact Shows.eq_filterMap
  · rintro rfl
    exact shows_filterMap es

theorem Shows.isBlank_eq_false {es : List Element} {ts : List Text} (h : Shows es ts) :
    ∀ t ∈ ts, Text.isBlank t = false := by
  induction h with
  | nil => simp
  | blank _ _ ih => exact ih
  | text _ hvisible _ ih => exact List.forall_mem_cons.2 ⟨hvisible, ih⟩

end Markup

/-! ## Sources without patterns -/

section Plain

variable {s : Source} (hpattern : s.cleanup.pattern = none)
  (hreplacement : s.cleanup.replacement = none)

include hpattern hreplacement

/-- A document leaves those of its texts that are in upper case, and reports the others for that. -/
theorem Source.ofPage_of_plain (page : Markup.Document) {ts : List Text}
    (h : Markup.Shows (page.elements s.selectors) ts) :
    s.ofPage page =
      ⟨ts.filter Text.isUpper, (ts.filter fun t => !Text.isUpper t).map Cleanup.notUpper⟩ := by
  have hliterals : page.literals s.selectors = ts := (page.literals_eq _).trans h.eq_filterMap.symm
  obtain ⟨hkept, hdropped⟩ :=
    Cleanup.applyAll_of_plain hpattern hreplacement h.isBlank_eq_false
  unfold ofPage cleaned
  rw [hliterals, hkept, hdropped]
  rfl

theorem Source.ofPages_of_plain (pages : List Markup.Document) {ts : List Text}
    (h : Markup.Shows (pages.flatMap fun page => s.selectors.flatMap page.select) ts) :
    Yield.concat (pages.map s.ofPage) =
      ⟨ts.filter Text.isUpper, (ts.filter fun t => !Text.isUpper t).map Cleanup.notUpper⟩ := by
  obtain rfl := Markup.shows_iff.1 h
  clear h
  induction pages with
  | nil => rfl
  | cons page pages ih =>
    have hpage := ofPage_of_plain hpattern hreplacement page (Markup.shows_filterMap _)
    show (s.ofPage page).append (.concat (pages.map s.ofPage)) = _
    rw [hpage, ih, List.flatMap_cons, List.filterMap_append, List.filter_append, List.filter_append,
      List.map_append]
    rfl

/-- A source is extracted when its documents are there and can be read, and it has what these
leave. -/
theorem Extractor.extractSource_markup {x : Extractor} (hformat : s.format = .markup)
    {e : Extracted} :
    (x.extractSource s).result = .ok e ↔
      ∃ documents pages texts,
        List.Forall₂ (fun url d => x.provider url = .ok d) s.urls documents ∧
        List.Forall₂ (fun d page => ∃ read ∈ x.reader, read d = .ok page) documents pages ∧
        Markup.Shows (pages.flatMap fun page => s.selectors.flatMap page.select) texts ∧
        e = ⟨texts.filter Text.isUpper, s.policy.splitLiterals,
          (texts.filter fun t => !Text.isUpper t).map Cleanup.notUpper⟩ := by
  rw [extractSource_eq_ok_iff]
  constructor
  · rintro ⟨ds, ys, hds, hys, rfl⟩
    obtain ⟨pages, hpages, rfl⟩ := (extractDocuments_markup hformat).1 hys
    have htexts :=
      Markup.shows_filterMap (pages.flatMap fun page => s.selectors.flatMap page.select)
    refine ⟨ds, pages, _, hds, hpages, htexts, ?_⟩
    rw [Source.ofPages_of_plain hpattern hreplacement pages htexts]
    rfl
  · rintro ⟨ds, pages, texts, hds, hpages, htexts, rfl⟩
    refine ⟨ds, _, hds, (extractDocuments_markup hformat).2 ⟨pages, hpages, rfl⟩, ?_⟩
    rw [Source.ofPages_of_plain hpattern hreplacement pages htexts]
    rfl

/-- **Elements.** Where there are no patterns, a markup source is extracted if and only if its
documents are there and can be read. Its elements are those that its selectors pick, document by
document and selector by selector. Of the texts that they show, those that are their own upper case
are the literals, as they stand, and the others are reported for that; nothing is reported as
empty. -/
theorem Extractor.extractSource_elements (hformat : s.format = .markup) (x : Extractor) :
    (∀ e, (x.extractSource s).result = .ok e ↔
      ∃ documents pages texts,
        List.Forall₂ (fun url d => x.provider url = .ok d) s.urls documents ∧
        List.Forall₂ (fun d page => ∃ read ∈ x.reader, read d = .ok page) documents pages ∧
        Markup.Shows (pages.flatMap fun page => s.selectors.flatMap page.select) texts ∧
        e = ⟨texts.filter fun t => t.upper = t, s.policy.splitLiterals,
          (texts.filter fun t => t.upper ≠ t).map Cleanup.notUpper⟩) ∧
    ∀ e, (x.extractSource s).result = .ok e →
      ∀ d ∈ e.diagnostics, d.code.id = "G0302".toList := by
  have hupper : ∀ t : Text, decide (t.upper = t) = Text.isUpper t := by
    intro t
    rw [Bool.eq_iff_iff, decide_eq_true_iff, Text.isUpper, beq_iff_eq]
  have hextract := fun e => extractSource_markup hpattern hreplacement (x := x) hformat (e := e)
  refine ⟨fun e => ?_, fun e he d hd => ?_⟩
  · simp only [decide_not, hupper]
    exact hextract e
  · obtain ⟨ds, pages, texts, -, -, -, rfl⟩ := (hextract e).1 he
    obtain ⟨t, -, rfl⟩ := List.mem_map.1 hd
    rfl

end Plain

/-- A listing with an element whose first text is a no-break space, and one without a text that is
not blank. -/
def listedWords : Text := "code\tABS\nli\t\u00a0\t SELECT \nli\tdrop\ncode\t  ".toList

def listedCommand : Text := "li\tALTER\tTABLE".toList

def listings : Extractor :=
  ⟨((Documents.empty.insert ['1'] listedWords).insert ['2'] listedCommand).provider,
    some Markup.Listing.read⟩

/-- A source that takes elements from the second listing and then from the first one. -/
def listingSource : Source :=
  ⟨[['2'], ['1']], .markup, ["code".toList, "li".toList], {}, .statements⟩

/-- What is extracted from it. -/
def listedLiterals : Extracted :=
  ⟨["ALTER".toList, "ABS".toList, " SELECT ".toList], true, [Cleanup.notUpper "drop".toList]⟩

/-- The texts that are shown are the three literals and another one. -/
theorem Extractor.extractSource_elements_listed :
    (listings.extractSource listingSource).result = .ok listedLiterals ∧
      (∃ pages texts,
        List.Forall₂ (fun d page => Markup.Listing.read d = .ok page) [listedCommand, listedWords]
          pages ∧
        Markup.Shows (pages.flatMap fun page => listingSource.selectors.flatMap page.select) texts ∧
        listedLiterals.literals = texts.filter fun t => t.upper = t) ∧
      ∀ d ∈ listedLiterals.diagnostics, d.code.id = "G0302".toList := by
  have hresult : (listings.extractSource listingSource).result = .ok listedLiterals := by
    decide +kernel
  obtain ⟨hiff, hcodes⟩ := extractSource_elements (s := listingSource) rfl rfl rfl listings
  obtain ⟨ds, pages, texts, hds, hpages, htexts, heq⟩ := (hiff listedLiterals).1 hresult
  have hdocuments : ds = [listedCommand, listedWords] := by
    rcases hds with - | ⟨h₂, - | ⟨h₁, - | -⟩⟩
    cases h₁
    cases h₂
    rfl
  subst hdocuments
  refine ⟨hresult, ⟨pages, texts, hpages.imp fun d page h => ?_, htexts,
    congrArg Extracted.literals heq⟩, hcodes listedLiterals hresult⟩
  obtain ⟨read, hread, hpage⟩ := h
  cases hread
  exact hpage

end SqlVocabulary
