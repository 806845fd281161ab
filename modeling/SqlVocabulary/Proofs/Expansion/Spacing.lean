import SqlVocabulary.Proofs.Expansion.Lockstep
import SqlVocabulary.Proofs.Grammar.Spacing

/-!
# Expansions in any layout

A grammar can be written with other blanks and line ends, and with fewer or more of them, as long as
the words stay the same. A body then asks for the same rules in the same order, and for texts with
the same words (`map_reword_read`); so the two walks go in lockstep, and their outcomes differ in
the layout of their texts alone (`expand_respaced`). Under a policy that follows leading references
and collapses its literals they do not differ at all, since no text keeps a layout.
-/

namespace SqlVocabulary

/-! ## What is read -/

theorem collapse_layout (layout : Layout) (t : Text) : (layout.apply t).collapse = t.collapse := by
  cases layout with
  | kept => rfl
  | collapsed => exact Text.collapse_collapse t

theorem reword_readAlternative_trim (p : Policy) (t : Text) :
    (p.readAlternative t.trim).reword Text.collapse =
      (p.readAlternative t.collapse).reword Text.collapse := by
  have hempty : t.trim.isEmpty = t.collapse.isEmpty := by
    rw [Bool.eq_iff_iff, List.isEmpty_iff, List.isEmpty_iff, Text.trim_eq_nil_iff_collapse]
  have hleading : leadingReference? t.trim = leadingReference? t.collapse := by
    rw [ignoresLayout_leadingReference?.trim, ignoresLayout_leadingReference?.collapse]
  have hany : hasReference t.trim = hasReference t.collapse := by
    rw [ignoresLayout_hasReference.trim, ignoresLayout_hasReference.collapse]
  unfold Policy.readAlternative
  rw [hempty, hleading, hany]
  split_ifs
  · rfl
  · split
    · rfl
    · simp [Item.reword, Outcome.reword, collapse_layout]
  · simp [Item.reword, Outcome.reword]
  · simp [Item.reword, Outcome.reword]

/-- **Reading.** Bodies with the same words ask for the same rules in the same order, and for texts
with the same words. -/
theorem map_reword_read (p : Policy) {body body' : Text} (h : body.collapse = body'.collapse) :
    (p.read body).map (Item.reword Text.collapse) =
      (p.read body').map (Item.reword Text.collapse) := by
  -- the alternatives can be read in collapsed form
  have hitems : ∀ b : Text,
      ((alternatives b).map p.readAlternative).map (Item.reword Text.collapse) =
        ((alternatives b).map Text.collapse).map
          fun a => (p.readAlternative a).reword Text.collapse := by
    intro b
    rw [alternatives_eq, List.map_map, List.map_map, List.map_map, List.map_map]
    refine List.map_congr_left fun t _ => ?_
    simp only [Function.comp_apply, reword_readAlternative_trim, Text.collapse_trim]
  have hleading := ignoresLayout_leadingReference?.congr h
  have halternatives := ignoresLayout_alternatives.congr h
  unfold Policy.read
  rw [hleading]
  split_ifs
  · rw [h]
  · rw [hitems, hitems, halternatives]

theorem map_reword_read_of_collapsed {p : Policy} (hp : p.followLeading = true)
    (hl : p.layout = .collapsed) (body : Text) :
    (p.read body).map (Item.reword Text.collapse) = p.read body := by
  have hfixed : ∀ i ∈ p.read body, i.reword Text.collapse = id i := by
    intro i hi
    cases i with
    | yields o =>
      obtain ⟨t, ht, rfl⟩ := (yields_mem_read hp).1 hi
      have htext : t.collapse = t := by
        cases ht with
        | whole h => exact Text.collapse_collapse body
        | alternative h ha hne hnone =>
          rw [hl]
          exact Text.collapse_collapse _
      simp [Item.reword, Outcome.reword, htext]
    | _ => rfl
  rw [List.map_congr_left hfixed, List.map_id]

/-! ## Walks -/

theorem rel_body?_of_collapse {R : Text → Text → Prop}
    (hR : ∀ b b' : Text, b.collapse = b'.collapse → R b b') {g g' : Grammar} {n : Nonterminal}
    (h : (g.body? n).map Text.collapse = (g'.body? n).map Text.collapse) :
    Option.Rel R (g.body? n) (g'.body? n) := by
  rcases hb : g.body? n with _ | b <;> rcases hb' : g'.body? n with _ | b' <;> rw [hb, hb'] at h
  · exact .none
  · cases h
  · cases h
  · exact .some (hR b b' (Option.some.inj h))

theorem map_body?_congr {g g' : Grammar}
    (h : g.rules.map (fun r => (r.name, r.body.collapse)) =
      g'.rules.map fun r => (r.name, r.body.collapse)) (n : Nonterminal) :
    (g.body? n).map Text.collapse = (g'.body? n).map Text.collapse := by
  have hfind : ∀ rules : List Rule,
      ((rules.find? fun r => r.name == n).map Rule.body).map Text.collapse =
        ((rules.map fun r => (r.name, r.body.collapse)).find? fun x => x.1 == n).map Prod.snd := by
    intro rules
    rw [List.find?_map, Option.map_map, Option.map_map]
    rfl
  unfold Grammar.body?
  rw [hfind, hfind, h]

/-- Bodies with the same words ask for the same, but for the layout of texts. -/
theorem abreast_of_collapse (p : Policy) {b b' : Text} (h : b.collapse = b'.collapse) :
    Abreast p p Text.collapse Text.collapse (fun _ => True) b b' :=
  ⟨map_reword_read p h, fun _ _ => trivial⟩

theorem abreast_of_collapsed {p : Policy} (hp : p.followLeading = true) (hl : p.layout = .collapsed)
    {b b' : Text} (h : b.collapse = b'.collapse) : Abreast p p id id (fun _ => True) b b' := by
  refine ⟨?_, fun _ _ => trivial⟩
  rw [Item.reword_id, List.map_id, List.map_id, ← map_reword_read_of_collapsed hp hl b,
    ← map_reword_read_of_collapsed hp hl b', map_reword_read p h]

/-- **Layout.** Two bodies with the same words, in two grammars that define the same rules by bodies
with the same words, expand to as many outcomes, of the same kinds and about the same rules, whose
texts have the same words. Under a policy that follows leading references and collapses literals,
the outcomes are the same. -/
theorem expand_respaced (g g' : Grammar) (body body' : Text) (p : Policy) (path : List Nonterminal)
    (hbody : body.collapse = body'.collapse)
    (hg : ∀ n, (g.body? n).map Text.collapse = (g'.body? n).map Text.collapse) :
    (expand body g p path).outcomes.map (Outcome.reword Text.collapse) =
        (expand body' g' p path).outcomes.map (Outcome.reword Text.collapse) ∧
      (p.followLeading = true → p.layout = .collapsed →
        (expand body g p path).outcomes = (expand body' g' p path).outcomes) := by
  constructor
  · have habreast : ∀ b b' : Text, b.collapse = b'.collapse →
        Abreast p p Text.collapse Text.collapse (fun _ => True) b b' :=
      fun _ _ h => abreast_of_collapse p h
    exact outcomes_lockstep (fun n _ => rel_body?_of_collapse habreast (hg n))
      (habreast _ _ hbody) path
  · intro hp hl
    have habreast : ∀ b b' : Text, b.collapse = b'.collapse →
        Abreast p p id id (fun _ => True) b b' :=
      fun _ _ h => abreast_of_collapsed hp hl h
    simpa using outcomes_lockstep (fun n _ => rel_body?_of_collapse habreast (hg n))
      (habreast _ _ hbody) path

/-- Two rules on one line each. -/
def narrow : Grammar :=
  ⟨[⟨.ofText ['s'], "<a b> | < > | <c | X Y".toList⟩, ⟨.ofText "a b".toList, "Z | <s>".toList⟩], []⟩

/-- The same rules with other blanks and line ends, also within brackets. -/
def wide : Grammar :=
  ⟨[⟨.ofText ['s'], "  <a\n  b>\n  | <  >\n  | <c\n  | X  Y\n".toList⟩,
    ⟨.ofText "a b".toList, "\tZ |  <s>".toList⟩], []⟩

/-- The bracket that is closed around blanks and the one that is not closed are texts in both. Their
layout is kept, or not. -/
theorem expand_respaced_wide :
    (expand "<s>".toList narrow .statements []).outcomes ≠
        (expand "<s>\n".toList wide .statements []).outcomes ∧
      (expand "<s>".toList narrow .statements []).outcomes.map (Outcome.reword Text.collapse) =
        (expand "<s>\n".toList wide .statements []).outcomes.map
          (Outcome.reword Text.collapse) ∧
      (expand "<s>".toList narrow { followLeading := true, layout := .collapsed } []).outcomes =
        (expand "<s>\n".toList wide { followLeading := true, layout := .collapsed }
          []).outcomes := by
  have hbody : Text.collapse "<s>".toList = Text.collapse "<s>\n".toList := by decide +kernel
  have hrules : ∀ n, (narrow.body? n).map Text.collapse = (wide.body? n).map Text.collapse :=
    map_body?_congr (by decide +kernel)
  have hkept := expand_respaced narrow wide _ _ .statements [] hbody hrules
  have hcollapsed := expand_respaced narrow wide _ _
    { followLeading := true, layout := .collapsed } [] hbody hrules
  exact ⟨by decide +kernel, hkept.1, hcollapsed.2 rfl rfl⟩

end SqlVocabulary
