import SqlVocabulary.Proofs.Grammar.Definitions

/-!
# Writing a grammar down

The rules of a grammar make a document again: a header and a body for each, and an empty line after
it. A grammar that was read from a document is read back from there as it is (`ofText_render`).

What matters of a rule is that it can be written down (`Rule.Printable`): its name can stand in a
header, and its body does not come apart. The rules of a document are of that kind
(`printable_of_mem`), and printable rules with different names are read back (`ofText_renderRules`).
-/

namespace SqlVocabulary

/-- The text of a rule: its header, its body, and an empty line. -/
def Rule.render (r : Rule) : Text :=
  r.name.bracketed ++ " ::=\n".toList ++ r.body ++ "\n\n".toList

/-- The texts of some rules. -/
def renderRules (rules : List Rule) : Text := rules.flatMap Rule.render

/-- The rules of a grammar as a document. -/
def Grammar.render (g : Grammar) : Text := renderRules g.rules

/-- A rule that can be written down. -/
structure Rule.Printable (r : Rule) : Prop where
  closed : '>' ∉ r.name.name
  named : r.name.isEmpty = false
  trimmed : r.body.lineContent = r.body
  unbroken : Unbroken false r.body

/-! ## Reading what was written -/

/-- A text that starts with a character other than a blank does not carry on with a block that ends
with an empty line. -/
theorem cutText_of_head? {t : Text} {c : Char} (h : t.head? = some c)
    (hc : Text.isSpace c = false) : (cutText true t).1 = [] := by
  induction t using Text.line_induction with
  | last w hw =>
    rw [cutText_of_not_mem hw, isFlush_of_head? h hc]
    rfl
  | line w t hw _ =>
    have hw' : w.head? = some c := by
      cases w with
      | nil =>
        obtain rfl : '\n' = c := Option.some.inj h
        revert hc
        decide
      | cons d w => exact h
    rw [cutText_line hw, isFlush_of_head? hw' hc]
    rfl

theorem newline_not_mem_header (n : Nonterminal) : '\n' ∉ n.bracketed ++ " ::=".toList := by
  have hname : '\n' ∉ n.name := by
    rw [← n.collapsed]
    exact Text.newline_not_mem_collapse n.name
  simp [Nonterminal.bracketed, hname]

theorem definitions_renderRules {rules : List Rule} (h : ∀ r ∈ rules, r.Printable) :
    definitions (renderRules rules) = rules := by
  induction rules with
  | nil => rfl
  | cons r rules ih =>
    obtain ⟨hclosed, hnamed, htrimmed, hunbroken⟩ := h r List.mem_cons_self
    have hheader := headerName?_bracketed hclosed hnamed
    have hnl := newline_not_mem_header r.name
    -- what follows starts with the bracket of a header, if there is anything
    have hrest : (cutText true (renderRules rules)).1 = [] := by
      cases rules with
      | nil => rfl
      | cons r' rules => exact cutText_of_head? (c := '<') rfl (by decide)
    have hsplit : renderRules (r :: rules) =
        (r.name.bracketed ++ " ::=".toList ++ '\n' :: r.body) ++
          '\n' :: '\n' :: renderRules rules := by
      simp [renderRules, Rule.render]
    have hblock : Unbroken false (r.name.bracketed ++ " ::=".toList ++ '\n' :: r.body) := by
      rw [unbroken_line hnl, isEmptyLine_of_isFlush (isFlush_of_headerName? hheader)]
      exact ⟨rfl, hunbroken⟩
    have hne : Text.lineContent (r.name.bracketed ++ " ::=".toList ++ '\n' :: r.body) ≠ [] := by
      rw [Ne, Text.lineContent_eq_nil]
      intro hends
      have := hends '<' (by simp [Nonterminal.bracketed])
      revert this
      decide
    rw [hsplit, definitions_append hrest, ih fun r' hr' => h r' (List.mem_cons_of_mem r hr'),
      ← filterMap_blocks, blocks_of_unbroken hblock hne]
    simp only [List.filterMap_cons, List.filterMap_nil, ofBlock?_lineContent_line hnl, hheader,
      htrimmed]
    rfl

theorem lastRules_of_nodup {ds : List Rule} (h : (ds.map (·.name)).Nodup) :
    lastRules ds = ds ∧ redefined ds = [] := by
  induction ds using List.reverseRecOn with
  | nil => exact ⟨rfl, rfl⟩
  | append_singleton ds d ih =>
    rw [List.map_append, List.nodup_append] at h
    obtain ⟨hds, -, hne⟩ := h
    have hd : d.name ∉ ds.map (·.name) := fun hmem => hne _ hmem _ (by simp) rfl
    obtain ⟨hlast, hredefined⟩ := ih hds
    rw [lastRules_append_of_not_mem hd, redefined_append_singleton, if_neg hd, hlast, hredefined]
    exact ⟨rfl, rfl⟩

theorem ofText_renderRules {rules : List Rule} (h : ∀ r ∈ rules, r.Printable)
    (hnames : (rules.map (·.name)).Nodup) :
    Grammar.ofText (renderRules rules) = ⟨rules, []⟩ := by
  obtain ⟨hlast, hredefined⟩ := lastRules_of_nodup hnames
  rw [Grammar.ofText_eq_defineAll, definitions_renderRules h, Grammar.defineAll_empty, hlast,
    hredefined]
  rfl

/-! ## The rules of a document -/

theorem printable_of_ofBlock? {b : Text} {r : Rule} (htrimmed : b.lineContent = b)
    (hunbroken : Unbroken false b) (h : Rule.ofBlock? b = some r) : r.Printable := by
  induction b using Text.line_induction with
  | last w hw =>
    rw [ofBlock?_of_not_mem hw] at h
    obtain ⟨n, hn, rfl⟩ := Option.map_eq_some_iff.1 h
    obtain ⟨hclosed, hnamed⟩ := closed_of_headerName? hn
    exact ⟨hclosed, hnamed, rfl, rfl⟩
  | line w t hw _ =>
    rw [ofBlock?_line hw] at h
    obtain ⟨n, hn, rfl⟩ := Option.map_eq_some_iff.1 h
    obtain ⟨hclosed, hnamed⟩ := closed_of_headerName? hn
    refine ⟨hclosed, hnamed, ?_, ?_⟩
    · rw [Text.lineContent_line] at htrimmed
      split at htrimmed
      · -- the header alone has no line feed
        have hmem : '\n' ∈ w.lineContent := by simp [htrimmed]
        exact absurd hmem (Text.not_mem_lineContent hw)
      · simpa using htrimmed
    · have hbody := ((unbroken_line hw).1 hunbroken).2
      rwa [isEmptyLine_of_isFlush (isFlush_of_headerName? hn)] at hbody

theorem mem_of_mem_lastRules {ds : List Rule} {r : Rule} (h : r ∈ lastRules ds) : r ∈ ds := by
  obtain ⟨n, -, hn⟩ := List.mem_filterMap.1 h
  exact List.mem_reverse.1 (List.mem_of_find?_eq_some hn)

theorem rules_ofText (document : Text) :
    (Grammar.ofText document).rules = lastRules (definitions document) := by
  rw [Grammar.ofText_eq_defineAll, Grammar.defineAll_empty]

theorem distinct_ofText (document : Text) : (Grammar.ofText document).Distinct := by
  unfold Grammar.Distinct
  rw [rules_ofText, map_name_lastRules]
  exact nodup_eraseDups _

theorem printable_of_mem {document : Text} {r : Rule}
    (h : r ∈ (Grammar.ofText document).rules) : r.Printable := by
  rw [rules_ofText] at h
  have hr := mem_of_mem_lastRules h
  rw [← filterMap_blocks, List.mem_filterMap] at hr
  obtain ⟨b, hb, hr⟩ := hr
  obtain ⟨-, htrimmed, hunbroken⟩ := isBlock_of_mem_blocks hb
  exact printable_of_ofBlock? htrimmed hunbroken hr

/-- **Writing and reading.** The grammar of a document, written down, is read back: the same rules
in the same order, and no diagnostics. -/
theorem ofText_render (document : Text) :
    (Grammar.ofText (Grammar.ofText document).render).rules = (Grammar.ofText document).rules ∧
      (Grammar.ofText (Grammar.ofText document).render).diagnostics = [] := by
  have hnames : ((Grammar.ofText document).rules.map (·.name)).Nodup := by
    rw [rules_ofText, map_name_lastRules]
    exact nodup_eraseDups _
  have heq := ofText_renderRules (fun r hr => printable_of_mem hr) hnames
  rw [Grammar.render, heq]
  exact ⟨rfl, rfl⟩

end SqlVocabulary
