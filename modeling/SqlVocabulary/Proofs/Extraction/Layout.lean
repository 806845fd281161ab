import SqlVocabulary.Proofs.Expansion.Layout
import SqlVocabulary.Proofs.Extraction.Words

/-!
# Layouts of a source

A policy can collapse the literals that stand in alternatives. The literals of a source are then
written otherwise, and with them the messages of cleaning, but they have the same words.

1. What is not a matter of layout is the *gist* of a thing: the outcomes of an expansion with their
   literals collapsed, and the collapsed literals of a yield with the codes of its diagnostics.
2. Two layouts expand the same selectors to the same gist (`Grammar.gist_expandSelectors`).
3. Without patterns, cleaning keeps a literal just in case it keeps its collapsed form, and leaves
   it out for the same reason (`Cleanup.applyAll_collapse`). So the gist of what is cleaned follows
   from the gist of what was selected, for each document and for all of them.
4. The words of a source follow from its gist (`Extractor.extractSource_layout`).
-/

namespace SqlVocabulary

/-! ## Expansions -/

/-- The outcomes of an expansion with their literals collapsed. -/
def Expansion.gist (e : Expansion) : List Outcome :=
  e.outcomes.map (Outcome.mapLiteral Text.collapse)

namespace Expansion

theorem gist_concat (es : List Expansion) : (concat es).gist = (es.map gist).flatten := by
  unfold gist
  rw [outcomes_concat, List.map_flatMap]
  rfl

theorem map_literals (e : Expansion) :
    e.literals.map Text.collapse = e.gist.filterMap Outcome.literal? := by
  unfold literals gist
  rw [List.map_filterMap, List.filterMap_map]
  refine List.filterMap_congr fun o _ => ?_
  cases o <;> rfl

/-- No diagnostic of an expansion tells of a literal. -/
theorem diagnostics_eq (e : Expansion) : e.diagnostics = e.gist.filterMap Outcome.diagnostic? := by
  unfold diagnostics gist
  rw [List.filterMap_map]
  refine List.filterMap_congr fun o _ => ?_
  cases o <;> rfl

end Expansion

/-- A policy in another layout. -/
def Policy.withLayout (p : Policy) (l : Layout) : Policy := { p with layout := l }

/-- **One body in two layouts.** -/
theorem gist_expand (body : Text) (g : Grammar) (p : Policy) (path : List Nonterminal) :
    (expand body g (p.withLayout .collapsed) path).gist =
      (expand body g (p.withLayout .kept) path).gist := by
  unfold Expansion.gist
  cases hp : p.followLeading with
  | true =>
    -- collapsing twice is collapsing once
    have htwice : Outcome.mapLiteral Text.collapse ∘ Outcome.mapLiteral Text.collapse =
        Outcome.mapLiteral Text.collapse := by
      funext o
      cases o <;> simp [Outcome.mapLiteral]
    have hkept : (p.withLayout .kept).followLeading = true := hp
    have hcollapsed : (p.withLayout .collapsed).followLeading = true := hp
    rw [outcomes_of_collapsed hkept hcollapsed rfl body g path, List.map_map, htwice]
  | false =>
    have hkept : (p.withLayout .kept).followLeading = false := hp
    have hcollapsed : (p.withLayout .collapsed).followLeading = false := hp
    rw [outcomes_of_not_following hcollapsed hkept body g path]

namespace Grammar

theorem gist_expandRule (g : Grammar) (p : Policy) (selector : Text) :
    (g.expandRule selector (p.withLayout .collapsed)).result.map Expansion.gist =
      (g.expandRule selector (p.withLayout .kept)).result.map Expansion.gist := by
  cases hb : g.body? (.ofText selector) with
  | none => rw [expandRule_unknown _ hb, expandRule_unknown _ hb]
  | some body =>
    rw [expandRule_result _ hb, expandRule_result _ hb]
    exact congrArg Except.ok (gist_expand body g p [.ofText selector])

/-- **Selectors in two layouts.** They name a rule in both or in neither, and expand to the same
outcomes but for the blanks of literals. -/
theorem gist_expandSelectors (g : Grammar) (p : Policy) (selectors : List Text) :
    (g.expandSelectors (p.withLayout .collapsed) selectors).result.map Expansion.gist =
      (g.expandSelectors (p.withLayout .kept) selectors).result.map Expansion.gist := by
  have hgist : ∀ q : Policy, (g.expandSelectors q selectors).result.map Expansion.gist =
      ((selectors.mapM fun s => (g.expandRule s q).result).map (List.map Expansion.gist)).map
        List.flatten := by
    intro q
    rw [result_expandSelectors, map_map_result, map_map_result]
    simp only [Expansion.gist_concat]
  rw [hgist, hgist, map_mapM_congr (gist_expandRule g p)]

end Grammar

/-! ## Cleaning -/

/-- The collapsed literals of a yield, and the codes of its diagnostics. -/
def Yield.gist (y : Yield) : List Text × List Diagnostic.Code :=
  (y.literals.map Text.collapse, y.diagnostics.map (·.code))

theorem Yield.gist_concat (ys : List Yield) :
    (concat ys).gist = ((ys.map gist).flatMap (·.1), (ys.map gist).flatMap (·.2)) := by
  simp [gist, concat, List.map_flatMap, List.flatMap_map]

theorem Yield.gist_ofExpansion {document : Text} {e f : Expansion} (h : e.gist = f.gist) :
    (ofExpansion document e).gist = (ofExpansion document f).gist := by
  unfold gist ofExpansion
  rw [e.map_literals, f.map_literals, e.diagnostics_eq, f.diagnostics_eq, h]

section Cleaning

variable {c : Cleanup} (hpattern : c.pattern = none) (hreplacement : c.replacement = none)

include hpattern hreplacement

namespace Cleanup

/-- The checks do not look at the layout. -/
theorem apply_collapse (t : Text) :
    (c.apply t.collapse).toOption = (c.apply t).toOption.map Text.collapse ∧
      (failure? (c.apply t.collapse)).map (·.code) = (failure? (c.apply t)).map (·.code) := by
  rw [apply_of_plain hpattern hreplacement, apply_of_plain hpattern hreplacement,
    Text.isBlank_collapse, Text.isUpper_collapse]
  split_ifs <;> exact ⟨rfl, rfl⟩

/-- **Cleaning collapsed literals.** As many are kept, in collapsed form, and the others are left
out for the same reasons. -/
theorem applyAll_collapse (ts : List Text) :
    (c.applyAll (ts.map Text.collapse)).literals =
        (c.applyAll ts).literals.map Text.collapse ∧
      (c.applyAll (ts.map Text.collapse)).diagnostics.map (·.code) =
        (c.applyAll ts).diagnostics.map (·.code) := by
  simp only [literals_applyAll, diagnostics_applyAll, List.filterMap_map, List.map_filterMap]
  exact ⟨List.filterMap_congr fun t _ => (apply_collapse hpattern hreplacement t).1,
    List.filterMap_congr fun t _ => (apply_collapse hpattern hreplacement t).2⟩

end Cleanup

end Cleaning

theorem Source.gist_cleaned {s : Source} (hpattern : s.cleanup.pattern = none)
    (hreplacement : s.cleanup.replacement = none) {y z : Yield} (h : y.gist = z.gist) :
    (s.cleaned y).gist = (s.cleaned z).gist := by
  have hgist : ∀ y : Yield, (s.cleaned y).gist =
      ((s.cleanup.applyAll y.gist.1).literals,
        y.gist.2 ++ (s.cleanup.applyAll y.gist.1).diagnostics.map (·.code)) := by
    intro y
    obtain ⟨hkept, hdropped⟩ :=
      Cleanup.applyAll_collapse hpattern hreplacement y.literals
    simp only [Yield.gist, cleaned, hkept, hdropped, List.map_append]
  rw [hgist, hgist, h]

/-! ## Sources -/

/-- A source whose policy has another layout. -/
def Source.withLayout (s : Source) (l : Layout) : Source :=
  { s with policy := s.policy.withLayout l }

theorem Extracted.words_congr {e f : Extracted} (he : e.splitLiterals = true)
    (hf : f.splitLiterals = true)
    (h : e.literals.map Text.collapse = f.literals.map Text.collapse) : e.words = f.words := by
  have hwords : ∀ ts : List Text,
      ts.flatMap Text.words = (ts.map Text.collapse).flatMap Text.words := by
    intro ts
    rw [List.flatMap_map]
    simp only [Text.words_collapse]
  unfold words
  rw [if_pos he, if_pos hf, hwords e.literals, hwords f.literals, h]

namespace Extractor

variable {s : Source} (hformat : s.format = .grammar) (hpattern : s.cleanup.pattern = none)
  (hreplacement : s.cleanup.replacement = none)

include hformat hpattern hreplacement

/-- **One document in two layouts.** -/
theorem gist_extractDocument (x : Extractor) (document : Text) :
    (x.extractDocument (s.withLayout .collapsed) document).result.map Yield.gist =
      (x.extractDocument (s.withLayout .kept) document).result.map Yield.gist := by
  have hcollapsed : (s.withLayout .collapsed).format = .grammar := hformat
  have hkept : (s.withLayout .kept).format = .grammar := hformat
  rw [extractDocument_grammar hcollapsed, extractDocument_grammar hkept, map_map_result,
    map_map_result]
  refine map_eq_map_iff.2 ?_
  rcases map_eq_map_iff.1 ((Grammar.ofText document).gist_expandSelectors s.policy s.selectors) with
    herror | ⟨e, f, he, hf, hgist⟩
  · exact Or.inl herror
  · refine Or.inr ⟨e, f, he, hf, ?_⟩
    exact Source.gist_cleaned hpattern hreplacement (Yield.gist_ofExpansion hgist)

/-- **Layouts.** A grammar source that has no patterns and splits its literals fails in both layouts
with the same error, or it has the same words in both, as many literals, and diagnostics with the
same codes in the same order. -/
theorem extractSource_layout (x : Extractor) (hsplit : s.policy.splitLiterals = true) :
    (∃ error, (x.extractSource (s.withLayout .collapsed)).result = .error error ∧
        (x.extractSource (s.withLayout .kept)).result = .error error) ∨
      ∃ e f, (x.extractSource (s.withLayout .collapsed)).result = .ok e ∧
        (x.extractSource (s.withLayout .kept)).result = .ok f ∧
        e.words = f.words ∧ e.literals.length = f.literals.length ∧
        e.diagnostics.map (·.code) = f.diagnostics.map (·.code) := by
  have hresult : ∀ l, (x.extractSource (s.withLayout l)).result =
      (x.provider.fetchAll s.urls).result.bind fun ds =>
        (ds.mapM fun d => (x.extractDocument (s.withLayout l) d).result).map fun ys =>
          s.extracted (.concat ys) := fun l => result_extractSource x (s.withLayout l)
  rw [hresult, hresult]
  cases (x.provider.fetchAll s.urls).result with
  | error error => exact Or.inl ⟨error, rfl, rfl⟩
  | ok ds =>
    simp only [Except.bind]
    have hdocument := gist_extractDocument hformat hpattern hreplacement x
    rcases map_eq_map_iff.1 (map_mapM_congr hdocument ds) with
      ⟨error, he, hf⟩ | ⟨ys, zs, hys, hzs, hgist⟩
    · rw [he, hf]
      exact Or.inl ⟨error, rfl, rfl⟩
    · have hconcat : (Yield.concat ys).gist = (Yield.concat zs).gist := by
        rw [Yield.gist_concat, Yield.gist_concat, hgist]
      obtain ⟨hliterals, hcodes⟩ := Prod.mk.inj hconcat
      have hlength : (Yield.concat ys).literals.length = (Yield.concat zs).literals.length := by
        simpa using congrArg List.length hliterals
      rw [hys, hzs]
      exact Or.inr ⟨_, _, rfl, rfl, Extracted.words_congr hsplit hsplit hliterals, hlength, hcodes⟩

end Extractor

/-- A grammar with line breaks in two literals, one of which is left out. -/
def brokenPage : Text := "<s> ::=\n  <t> | GROUP\n  BY | order\n  by".toList

def broken : Extractor := ⟨(Documents.empty.insert ['g'] brokenPage).provider, none⟩

/-- What it gives, in the layout of the literal that is kept and of the one that is not. -/
def brokenLiterals (kept dropped : Text) : Extracted :=
  ⟨[kept], true,
    [.about .undefinedReference (.ofText ['t']) "\"t\" not defined".toList,
      ⟨.lowerCaseLiteral, "Upper case error: ".toList ++ dropped, none⟩]⟩

/-- In the two layouts the literals are different texts, and so are the messages. -/
theorem Extractor.extractSource_layout_broken :
    (broken.extractSource ((pageSource [['g']] [['s']]).withLayout .collapsed)).result =
        .ok (brokenLiterals "GROUP BY".toList "order by".toList) ∧
      (broken.extractSource ((pageSource [['g']] [['s']]).withLayout .kept)).result =
        .ok (brokenLiterals "GROUP\n  BY".toList "order\n  by".toList) ∧
      (brokenLiterals "GROUP BY".toList "order by".toList).words =
        (brokenLiterals "GROUP\n  BY".toList "order\n  by".toList).words := by
  have hcollapsed :
      (broken.extractSource ((pageSource [['g']] [['s']]).withLayout .collapsed)).result =
        .ok (brokenLiterals "GROUP BY".toList "order by".toList) := by decide +kernel
  have hkept : (broken.extractSource ((pageSource [['g']] [['s']]).withLayout .kept)).result =
      .ok (brokenLiterals "GROUP\n  BY".toList "order\n  by".toList) := by decide +kernel
  refine ⟨hcollapsed, hkept, ?_⟩
  have hlayout :=
    extractSource_layout (s := pageSource [['g']] [['s']]) rfl rfl rfl broken rfl
  rw [hcollapsed, hkept] at hlayout
  rcases hlayout with ⟨error, he, -⟩ | ⟨e, f, he, hf, hwords, -⟩
  · cases he
  · cases he
    cases hf
    exact hwords

end SqlVocabulary
