import SqlVocabulary.Proofs.Grammar.Rendering

/-!
# Documents one after the other

Two documents are written one after the other, with an empty line between them. Unless the second
one starts with a blank, and so carries on with the last block of the first, the whole has the
blocks of the one and then those of the other, whatever the first one ends with. So it has the
definitions of the one and then those of the other (`definitions_append`).

What a grammar has from its definitions is composed likewise. New names come after the names that
are known (`eraseDups_append_eq`), the last definition is one of the second document if there is any
in it (`lastDefinition?_append`), and each definition is the first of its name or is reported
(`length_redefined`). All of this together is the grammar of the whole (`ofText_append`).
-/

namespace SqlVocabulary

def Grammar.names (g : Grammar) : List Nonterminal := g.rules.map (·.name)

/-! ## Names and redefinitions -/

/-- Each definition is the first of its name, or it is reported. -/
theorem length_redefined (ds : List Rule) :
    (redefined ds).length + (ds.map (·.name)).eraseDups.length = ds.length := by
  induction ds using List.reverseRecOn with
  | nil => rfl
  | append_singleton ds d ih =>
    rw [redefined_append_singleton, List.map_append, List.map_singleton,
      eraseDups_append_singleton]
    simp only [List.length_append, List.length_singleton]
    split
    · simp only [List.length_singleton, List.length_nil]
      omega
    · simp only [List.length_singleton, List.length_nil]
      omega

theorem length_redefined_append (ds es : List Rule) :
    (redefined (ds ++ es)).length = (redefined ds).length + (redefined es).length +
      ((es.map (·.name)).eraseDups.filter (· ∈ ds.map (·.name))).length := by
  have hds := length_redefined ds
  have hes := length_redefined es
  have hboth := length_redefined (ds ++ es)
  have hnames := (es.map (·.name)).eraseDups.length_eq_length_filter_add
    fun n => decide (n ∈ ds.map (·.name))
  simp only [← decide_not] at hnames
  rw [List.map_append, eraseDups_append_eq, List.length_append, List.length_append] at hboth
  omega

/-! ## The grammar of both documents -/

theorem names_ofText (document : Text) :
    (Grammar.ofText document).names = ((definitions document).map (·.name)).eraseDups := by
  rw [Grammar.names, rules_ofText, map_name_lastRules]

theorem mem_names_ofText {document : Text} {n : Nonterminal} :
    n ∈ (Grammar.ofText document).names ↔ n ∈ (definitions document).map (·.name) := by
  rw [names_ofText, List.mem_eraseDups]

theorem length_diagnostics_ofText (document : Text) :
    (Grammar.ofText document).diagnostics.length = (redefined (definitions document)).length := by
  rw [Grammar.ofText_eq_defineAll, Grammar.defineAll_empty, List.length_map]

theorem body?_ofText (document : Text) (n : Nonterminal) :
    (Grammar.ofText document).body? n =
      (lastDefinition? (definitions document) n).map (·.body) := by
  ext b
  rw [Grammar.body?_eq_some_iff (distinct_ofText document), rules_ofText, lastRules,
    List.mem_filterMap, Option.map_eq_some_iff]
  constructor
  · rintro ⟨m, hm, hlast⟩
    have hname := map_name_lastDefinition? hm
    rw [hlast] at hname
    obtain rfl : n = m := Option.some.inj hname
    exact ⟨_, hlast, rfl⟩
  · rintro ⟨d, hlast, rfl⟩
    obtain rfl : d.name = n := by simpa using List.find?_some hlast
    have hmem : d ∈ definitions document :=
      List.mem_reverse.1 (List.mem_of_find?_eq_some hlast)
    exact ⟨d.name, List.mem_eraseDups.2 (List.mem_map_of_mem hmem), hlast⟩

/-- **Two documents.** The blocks of both, with an empty line between them, are those of the one and
then those of the other, if the second starts with a character other than a blank. The grammar has
the names of the first and then the new names of the second. A rule that the second one defines has
its body from there, any other has it from the first. There is a diagnostic for each one of the two
grammars, and one for each name that both define. -/
theorem ofText_append {s t : Text} {c : Char} (ht : t.head? = some c)
    (hc : Text.isSpace c = false) :
    blocks (s ++ '\n' :: '\n' :: t) = blocks s ++ blocks t ∧
    (Grammar.ofText (s ++ '\n' :: '\n' :: t)).names =
      (Grammar.ofText s).names ++
        (Grammar.ofText t).names.filter (· ∉ (Grammar.ofText s).names) ∧
    (∀ name, (Grammar.ofText (s ++ '\n' :: '\n' :: t)).get? name =
      if (Grammar.ofText t).defines name then (Grammar.ofText t).get? name
      else (Grammar.ofText s).get? name) ∧
    (Grammar.ofText (s ++ '\n' :: '\n' :: t)).diagnostics.length =
      (Grammar.ofText s).diagnostics.length + (Grammar.ofText t).diagnostics.length +
        ((Grammar.ofText t).names.filter (· ∈ (Grammar.ofText s).names)).length := by
  have hcut := cutText_of_head? ht hc
  have hdefinitions := definitions_append hcut s
  refine ⟨blocks_append hcut s, ?_, fun name => ?_, ?_⟩
  · simp only [mem_names_ofText]
    rw [names_ofText, names_ofText, names_ofText, hdefinitions, List.map_append,
      eraseDups_append_eq]
  · unfold Grammar.defines
    simp only [Grammar.get?_eq_body?, body?_ofText]
    rw [hdefinitions, lastDefinition?_append, Option.map_or]
    cases (lastDefinition? (definitions t) (.ofText name)).map (·.body) <;> rfl
  · simp only [mem_names_ofText, length_diagnostics_ofText]
    rw [names_ofText, hdefinitions, length_redefined_append]

/-- A document that ends with an indented line and an empty one. -/
def firstHalf : Text := "<a> ::=\n  X\n\n<b> ::=\n  Y\n \r\n\r\n".toList

/-- A document that defines one of the same names twice, and a new one. -/
def secondHalf : Text := "<b  > ::=\r\n  V\n\n<b> ::=\n  W\n\n<c> ::=".toList

/-- The name of both is reported once more than the second document alone does. -/
theorem ofText_append_halves :
    (secondHalf.head? = some '<' ∧ Text.isSpace '<' = false) ∧
      (Grammar.ofText (firstHalf ++ '\n' :: '\n' :: secondHalf)).names =
        [.ofText ['a'], .ofText ['b'], .ofText ['c']] ∧
      (Grammar.ofText (firstHalf ++ '\n' :: '\n' :: secondHalf)).get? ['a'] =
        some "  X".toList ∧
      (Grammar.ofText (firstHalf ++ '\n' :: '\n' :: secondHalf)).get? ['b'] =
        some "  W".toList ∧
      (Grammar.ofText (firstHalf ++ '\n' :: '\n' :: secondHalf)).diagnostics.length = 2 := by
  have hhead : secondHalf.head? = some '<' := rfl
  have hblank : Text.isSpace '<' = false := rfl
  obtain ⟨-, hnames, hget, hdiagnostics⟩ := ofText_append (s := firstHalf) hhead hblank
  refine ⟨⟨hhead, hblank⟩, ?_, ?_, ?_, ?_⟩
  · rw [hnames]
    decide +kernel
  · rw [hget]
    decide +kernel
  · rw [hget]
    decide +kernel
  · rw [hdiagnostics]
    decide +kernel

end SqlVocabulary
