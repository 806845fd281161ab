import SqlVocabulary.Extraction.Basic
import SqlVocabulary.Proofs.Expansion.FreeWalk
import SqlVocabulary.Proofs.Extraction.Sequence
import SqlVocabulary.Proofs.Grammar.Lookup

/-!
# Documents flattened into one source

A source is extracted document by document, and no document bears on what another one yields.

1. All documents are asked for first. If there is none at some address, the extraction fails for
   such an address, whatever the other documents are (`Provider.fetchAll_unavailable`).
2. If all are there, the extraction of the whole is that of its documents one by one, each taken as
   a source of its own (`Extractor.result_of_available`). The first that fails decides; otherwise
   literals and diagnostics follow one another in the order of the addresses.
3. A grammar document contributes what its selectors expand to, each in a run of its own, or fails
   for the first selector that it does not define (`failure?_expandSelectors`).
-/

namespace SqlVocabulary

/-! ## Asking for documents -/

namespace Provider

theorem result_fetch_eq_ok {p : Provider} {url d : Text} :
    (p.fetch url).result = .ok d ↔ p url = .ok d := by
  unfold fetch
  cases p url <;> simp

theorem failure?_fetch (p : Provider) (url : Text) :
    failure? (p.fetch url).result = (failure? (p url)).map (Error.unavailable url) := by
  unfold fetch
  cases p url <;> rfl

theorem result_fetchAll (p : Provider) (urls : List Text) :
    (p.fetchAll urls).result = urls.mapM fun url => (p.fetch url).result := by
  rw [Run.result_sequence p.fetchAll rfl fun _ _ => rfl]
  cases urls.mapM fun url => (p.fetch url).result with
  | error e => rfl
  | ok ds => exact congrArg Except.ok List.foldr_cons_nil

theorem fetchAll_eq_ok_iff {p : Provider} {urls ds : List Text} :
    (p.fetchAll urls).result = .ok ds ↔ List.Forall₂ (fun url d => p url = .ok d) urls ds := by
  simp only [result_fetchAll, mapM_eq_ok_iff, result_fetch_eq_ok]

theorem fetchAll_unavailable {p : Provider} {urls : List Text}
    (h : ∃ url ∈ urls, ∃ reason, p url = .error reason) :
    ∃ url ∈ urls, ∃ reason, p url = .error reason ∧
      (p.fetchAll urls).result = .error (.unavailable url reason) := by
  obtain ⟨url, hurl, reason, hreason⟩ := h
  have hfails : failure? (p.fetchAll urls).result ≠ none := by
    rw [result_fetchAll, failure?_mapM, ne_eq, firstFailure?_eq_none]
    intro hall
    obtain ⟨d, hd⟩ := hall url hurl
    rw [result_fetch_eq_ok, hreason] at hd
    cases hd
  obtain ⟨e, he⟩ := Option.ne_none_iff_exists'.1 hfails
  -- the error is that of the first address for which there is none
  have hfirst := he
  rw [result_fetchAll, failure?_mapM] at hfirst
  obtain ⟨missing, hmissing, hfailure⟩ := List.exists_of_findSome?_eq_some hfirst
  rw [failure?_fetch, Option.map_eq_some_iff] at hfailure
  obtain ⟨reason', hreason', rfl⟩ := hfailure
  exact ⟨missing, hmissing, reason', failure?_eq_some.1 hreason', failure?_eq_some.1 he⟩

end Provider

/-! ## Documents one by one -/

def Yield.concat (ys : List Yield) : Yield :=
  ⟨ys.flatMap (·.literals), ys.flatMap (·.diagnostics)⟩

theorem Yield.foldr_append (ys : List Yield) : ys.foldr append empty = concat ys := by
  induction ys with
  | nil => rfl
  | cons y ys ih =>
    rw [List.foldr_cons, ih]
    rfl

namespace Source

/-- A source with one document in place of its own. -/
def only (s : Source) (url : Text) : Source := { s with urls := [url] }

/-- What a source extracts, from what its documents yield. -/
def extracted (s : Source) (y : Yield) : Extracted :=
  ⟨y.literals, s.policy.splitLiterals, y.diagnostics⟩

/-- What a document yields, from what was selected in it. -/
def cleaned (s : Source) (y : Yield) : Yield :=
  ⟨(s.cleanup.applyAll y.literals).literals,
    y.diagnostics ++ (s.cleanup.applyAll y.literals).diagnostics⟩

end Source

namespace Extractor

variable (x : Extractor) (s : Source)

theorem result_extractDocument (d : Text) :
    (x.extractDocument s d).result = (x.select s d).result.map s.cleaned := by
  rw [extractDocument, Run.result_bind]
  cases (x.select s d).result <;> rfl

theorem result_extractDocuments (ds : List Text) :
    (x.extractDocuments s ds).result =
      (ds.mapM fun d => (x.extractDocument s d).result).map Yield.concat := by
  rw [Run.result_sequence (x.extractDocuments s) rfl fun _ _ => rfl]
  exact congrArg (Except.map · _) (funext Yield.foldr_append)

theorem result_extractSource :
    (x.extractSource s).result =
      (x.provider.fetchAll s.urls).result.bind fun ds =>
        (ds.mapM fun d => (x.extractDocument s d).result).map fun ys =>
          s.extracted (.concat ys) := by
  rw [extractSource, Run.result_bind]
  refine congrArg _ (funext fun ds => ?_)
  rw [Run.result_bind, result_extractDocuments]
  cases ds.mapM fun d => (x.extractDocument s d).result <;> rfl

variable {x s}

theorem extractSource_eq_ok_iff {e : Extracted} :
    (x.extractSource s).result = .ok e ↔
      ∃ ds ys, List.Forall₂ (fun url d => x.provider url = .ok d) s.urls ds ∧
        List.Forall₂ (fun d y => (x.extractDocument s d).result = .ok y) ds ys ∧
          e = s.extracted (.concat ys) := by
  rw [result_extractSource]
  constructor
  · intro h
    rcases hds : (x.provider.fetchAll s.urls).result with _ | ds <;> rw [hds] at h
    · cases h
    · replace h : (ds.mapM fun d => (x.extractDocument s d).result).map _ = .ok e := h
      rcases hys : ds.mapM fun d => (x.extractDocument s d).result with _ | ys <;> rw [hys] at h
      · cases h
      · exact ⟨ds, ys, Provider.fetchAll_eq_ok_iff.1 hds, mapM_eq_ok_iff.1 hys,
          (Except.ok.inj h).symm⟩
  · rintro ⟨ds, ys, hds, hys, rfl⟩
    rw [Provider.fetchAll_eq_ok_iff.2 hds, Except.bind, mapM_eq_ok_iff.2 hys, Except.map]

theorem result_only {url d : Text} (h : x.provider url = .ok d) :
    (x.extractSource (s.only url)).result =
      (x.extractDocument s d).result.map s.extracted := by
  have hfetch : (x.provider.fetchAll (s.only url).urls).result = .ok [d] :=
    Provider.fetchAll_eq_ok_iff.2 (.cons h .nil)
  have hdocument : x.extractDocument (s.only url) d = x.extractDocument s d := rfl
  rw [result_extractSource, hfetch, Except.bind, mapM_except_cons, hdocument]
  cases (x.extractDocument s d).result with
  | error e => rfl
  | ok y =>
    have hcat : Yield.concat [y] = y := by simp [Yield.concat]
    show Except.ok (s.extracted (.concat [y])) = .ok (s.extracted y)
    rw [hcat]

/-- **Documents one by one.** A source that has its documents is extracted as they are, each of them
as a source of its own. -/
theorem result_of_available (h : ∀ url ∈ s.urls, ∃ d, x.provider url = .ok d) :
    (x.extractSource s).result =
      (s.urls.mapM fun url => (x.extractSource (s.only url)).result).map fun es =>
        ⟨es.flatMap (·.literals), s.policy.splitLiterals, es.flatMap (·.diagnostics)⟩ := by
  obtain ⟨ds, hds⟩ := exists_forall₂_ok.2 h
  have honly : (s.urls.mapM fun url => (x.extractSource (s.only url)).result) =
      (ds.mapM fun d => (x.extractDocument s d).result).map (List.map s.extracted) := by
    rw [← mapM_map_result]
    exact mapM_congr_forall₂ (hds.imp fun _ _ hd => result_only hd)
  rw [result_extractSource, Provider.fetchAll_eq_ok_iff.2 hds, honly, Except.bind]
  cases ds.mapM fun d => (x.extractDocument s d).result with
  | error e => rfl
  | ok ys => simp [Except.map, Source.extracted, Yield.concat, List.flatMap_map]

end Extractor

/-! ## Grammar documents -/

namespace Expansion

theorem literals_concat (es : List Expansion) :
    (concat es).literals = es.flatMap literals := by
  unfold literals
  rw [outcomes_concat, List.filterMap_flatMap]

theorem diagnostics_concat (es : List Expansion) :
    (concat es).diagnostics = es.flatMap diagnostics := by
  unfold diagnostics
  rw [outcomes_concat, List.filterMap_flatMap]

end Expansion

namespace Grammar

/-- The expansions of some selectors, one for each of them. -/
def Expands (g : Grammar) (p : Policy) (selectors : List Text) (es : List Expansion) : Prop :=
  List.Forall₂ (fun selector e => (g.expandRule selector p).result = .ok e) selectors es

variable (g : Grammar) (p : Policy)

theorem failure?_expandRule (selector : Text) :
    failure? (g.expandRule selector p).result =
      if g.defines selector then none else some (.unknownSelector (.ofText selector)) := by
  rw [defines, get?_eq_body?]
  cases h : g.body? (.ofText selector) with
  | none => rw [expandRule_unknown p h]; rfl
  | some body => rw [expandRule_result p h]; rfl

theorem result_expandSelectors (selectors : List Text) :
    (g.expandSelectors p selectors).result =
      (selectors.mapM fun selector => (g.expandRule selector p).result).map Expansion.concat := by
  rw [Run.result_sequence (g.expandSelectors p) rfl fun _ _ => rfl]
  rfl

/-- Selectors that are expanded one after the other fail for the first that names no rule. -/
theorem failure?_expandSelectors (selectors : List Text) :
    failure? (g.expandSelectors p selectors).result =
      (selectors.find? fun selector => !g.defines selector).map fun selector =>
        .unknownSelector (.ofText selector) := by
  rw [result_expandSelectors, failure?_map, failure?_mapM]
  induction selectors with
  | nil => rfl
  | cons selector selectors ih =>
    rw [firstFailure?_cons, failure?_expandRule, ih, List.find?_cons]
    cases g.defines selector <;> rfl

variable {g p}

theorem Expands.result {selectors : List Text} {es : List Expansion}
    (h : g.Expands p selectors es) : (g.expandSelectors p selectors).result = .ok (.concat es) := by
  rw [result_expandSelectors, mapM_eq_ok_iff.2 h]
  rfl

end Grammar

/-- What a source selects in a grammar document, from what its selectors expand to. -/
def Yield.ofExpansion (document : Text) (e : Expansion) : Yield :=
  ⟨e.literals, (Grammar.ofText document).diagnostics ++ e.diagnostics⟩

theorem result_selectFromGrammar (s : Source) (document : Text) :
    (selectFromGrammar s document).result =
      ((Grammar.ofText document).expandSelectors s.policy s.selectors).result.map
        (Yield.ofExpansion document) := by
  have hselect : (selectFromGrammar s document).result =
      ((Grammar.ofText document).expandSelectors s.policy s.selectors >>= fun e =>
        pure (Yield.ofExpansion document e)).result := rfl
  rw [hselect, Run.result_bind]
  cases ((Grammar.ofText document).expandSelectors s.policy s.selectors).result <;> rfl

namespace Extractor

variable {x : Extractor} {s : Source}

theorem select_grammar (h : s.format = .grammar) (document : Text) :
    x.select s document = selectFromGrammar s document := by
  unfold select
  rw [h]

/-- A grammar document yields what its selectors expand to, cleaned, after what is wrong with the
grammar itself. -/
theorem extractDocument_grammar (h : s.format = .grammar) (document : Text) :
    (x.extractDocument s document).result =
      ((Grammar.ofText document).expandSelectors s.policy s.selectors).result.map fun e =>
        s.cleaned (.ofExpansion document e) := by
  rw [result_extractDocument, select_grammar h, result_selectFromGrammar]
  cases ((Grammar.ofText document).expandSelectors s.policy s.selectors).result <;> rfl

theorem available_of_only {url : Text} {e : Extracted}
    (h : (x.extractSource (s.only url)).result = .ok e) : ∃ d, x.provider url = .ok d := by
  obtain ⟨ds, ys, hds, -, -⟩ := extractSource_eq_ok_iff.1 h
  cases hds with
  | cons hd _ => exact ⟨_, hd⟩

/-- **Documents flattened.** If some document of a source is missing, the extraction fails for a
missing one. Otherwise it fails as the first of its documents does, in the order of the addresses,
each of them taken as a source of its own; and if none fails, literals and diagnostics are those of
the documents one after the other.

A grammar document that stands alone fails for the first selector that it does not define. If it
defines them all, its literals are what they expand to in its own grammar, one after the other, as
far as cleaning leaves them, and its diagnostics those of the grammar, of the expansions and of
cleaning. -/
theorem extractSource_byDocument (x : Extractor) (s : Source) :
    ((∃ url ∈ s.urls, ∃ reason, x.provider url = .error reason) →
      ∃ url ∈ s.urls, ∃ reason, x.provider url = .error reason ∧
        (x.extractSource s).result = .error (.unavailable url reason)) ∧
    ((∀ url ∈ s.urls, ∃ d, x.provider url = .ok d) →
      failure? (x.extractSource s).result =
        firstFailure? (fun url => (x.extractSource (s.only url)).result) s.urls) ∧
    (∀ es, List.Forall₂ (fun url e => (x.extractSource (s.only url)).result = .ok e) s.urls es →
      (x.extractSource s).result =
        .ok ⟨es.flatMap (·.literals), s.policy.splitLiterals, es.flatMap (·.diagnostics)⟩) ∧
    ∀ url d, s.format = .grammar → x.provider url = .ok d →
      failure? (x.extractSource (s.only url)).result =
        ((s.selectors.find? fun selector => !(Grammar.ofText d).defines selector).map
          fun selector => .unknownSelector (.ofText selector)) ∧
      ∀ es, (Grammar.ofText d).Expands s.policy s.selectors es →
        (x.extractSource (s.only url)).result =
          let cleaned := s.cleanup.applyAll (es.flatMap (·.literals))
          .ok ⟨cleaned.literals, s.policy.splitLiterals,
            (Grammar.ofText d).diagnostics ++ es.flatMap (·.diagnostics) ++
              cleaned.diagnostics⟩ := by
  refine ⟨fun h => ?_, fun h => ?_, fun es hes => ?_,
    fun url d hformat hd => ⟨?_, fun es hes => ?_⟩⟩
  · obtain ⟨url, hurl, reason, hreason, hfetch⟩ := Provider.fetchAll_unavailable h
    refine ⟨url, hurl, reason, hreason, ?_⟩
    rw [result_extractSource, hfetch]
    rfl
  · rw [result_of_available h, failure?_map, failure?_mapM]
  · have havailable : ∀ url ∈ s.urls, ∃ d, x.provider url = .ok d := by
      intro url hurl
      obtain ⟨e, he⟩ := exists_forall₂_ok.1 ⟨es, hes⟩ url hurl
      exact available_of_only he
    rw [result_of_available havailable, mapM_eq_ok_iff.2 hes]
    rfl
  · rw [result_only hd, failure?_map, extractDocument_grammar hformat, failure?_map,
      Grammar.failure?_expandSelectors]
  · rw [result_only hd, extractDocument_grammar hformat, hes.result]
    simp only [Except.map, Source.extracted, Source.cleaned, Yield.ofExpansion,
      Expansion.literals_concat, Expansion.diagnostics_concat]

end Extractor

/-- A grammar that refers to a rule it does not define. -/
def firstPage : Text := "<s> ::=\n  <t>\n\n<u> ::=\n  X".toList

/-- A grammar that defines that rule, and lacks another one. -/
def secondPage : Text := "<s> ::=\n  Y\n\n<t> ::=\n  Z".toList

def pages : Extractor :=
  ⟨((Documents.empty.insert ['1'] firstPage).insert ['2'] secondPage).provider, none⟩

/-- A source that selects rules in some documents. -/
def pageSource (urls selectors : List Text) : Source := ⟨urls, .grammar, selectors, {}, .statements⟩

/-- The diagnostic of the first page. -/
def lostReference : Diagnostic :=
  .about .undefinedReference (.ofText ['t']) "\"t\" not defined".toList

/-- A missing document comes before an unknown selector, and of two documents that lack a selector
the first one fails. The rule that the second page defines is not there for the first one, however
often that is read. -/
theorem Extractor.extractSource_byDocument_pages :
    (∃ reason, (pages.extractSource (pageSource [['1'], ['3'], ['2']] [['t']])).result =
      .error (.unavailable ['3'] reason)) ∧
    (∀ url ∈ [['1'], ['2']], ∃ d, pages.provider url = .ok d) ∧
    (pages.extractSource (pageSource [['1'], ['2']] [['s'], ['t'], ['u']])).result =
      .error (.unknownSelector (.ofText ['t'])) ∧
    (pages.extractSource (pageSource [['1'], ['2'], ['1']] [['s']])).result =
      .ok ⟨[['Y']], true, [lostReference, lostReference]⟩ := by
  have hfirst : pages.provider ['1'] = .ok firstPage := by decide
  have hsecond : pages.provider ['2'] = .ok secondPage := by decide
  have hthird : pages.provider ['3'] = .error "no document for 3".toList := by decide
  have havailable : ∀ url ∈ [['1'], ['2']], ∃ d, pages.provider url = .ok d := by
    simp [hfirst, hsecond]
  refine ⟨?_, havailable, ?_, ?_⟩
  · obtain ⟨url, hurl, reason, hreason, h⟩ :=
      (pages.extractSource_byDocument (pageSource [['1'], ['3'], ['2']] [['t']])).1
        ⟨['3'], by decide, _, hthird⟩
    have hmissing : url = ['1'] ∨ url = ['3'] ∨ url = ['2'] := by simpa [pageSource] using hurl
    rcases hmissing with rfl | rfl | rfl
    · rw [hfirst] at hreason
      cases hreason
    · exact ⟨reason, h⟩
    · rw [hsecond] at hreason
      cases hreason
  · refine failure?_eq_some.1 ?_
    rw [(pages.extractSource_byDocument (pageSource [['1'], ['2']] [['s'], ['t'], ['u']])).2.1
      havailable]
    decide +kernel
  · refine (pages.extractSource_byDocument (pageSource [['1'], ['2'], ['1']] [['s']])).2.2.1
      [⟨[], true, [lostReference]⟩, ⟨[['Y']], true, []⟩, ⟨[], true, [lostReference]⟩]
      (.cons ?_ (.cons ?_ (.cons ?_ .nil))) <;> decide +kernel

end SqlVocabulary
