import SqlVocabulary.Proofs.Grammar.Rendering

/-!
# Spellings of a name

A rule is looked up by a text that spells its name. The text is compared with the names as it
stands, and if it is none of them, its words are taken. For the grammar of a document the first way
never gives another answer than the second: its names are in collapsed form, and each of them stands
once (`Grammar.regular_ofText`). So a rule is found under every text with the words of its name, and
what is found is the body that the grammar lists for this name (`Grammar.ofText_spellings`).
-/

namespace SqlVocabulary

theorem Nonterminal.ofText_congr {s t : Text} (h : s.words = t.words) :
    ofText s = ofText t :=
  eq_of_name_eq (Text.collapse_eq_iff.2 h)

namespace Grammar

/-- The rules of a grammar have names that are different, collapsed and not empty, and no closing
bracket stands in a name or line end at the end of a body. -/
structure Regular (g : Grammar) : Prop where
  distinct : g.Distinct
  named : ∀ r ∈ g.rules, r.name.isEmpty = false
  closed : ∀ r ∈ g.rules, '>' ∉ r.name.name
  collapsed : ∀ r ∈ g.rules, .ofText r.name.name = r.name
  trimmed : ∀ r ∈ g.rules, ∀ c ∈ r.body.getLast?, Text.isLineEnd c = false

theorem regular_ofText (document : Text) : (ofText document).Regular where
  distinct := distinct_ofText document
  named _ hr := (printable_of_mem hr).named
  closed _ hr := (printable_of_mem hr).closed
  collapsed r _ := r.name.ofText_name
  trimmed _ hr := Text.lineContent_eq_self_iff.1 (printable_of_mem hr).trimmed

theorem get?_congr (g : Grammar) {s t : Text} (h : s.words = t.words) : g.get? s = g.get? t := by
  rw [get?_eq_body?, get?_eq_body?, Nonterminal.ofText_congr h]

/-- A rule that is listed under a text as it stands is the one that the words of the text name. -/
theorem Regular.body?_of_mem {g : Grammar} (hg : g.Regular) {r : Rule} (hr : r ∈ g.rules) :
    g.body? (.ofText r.name.name) = some r.body := by
  rw [hg.collapsed r hr]
  exact (body?_eq_some_iff hg.distinct).2 hr

theorem Regular.get?_eq_some_iff {g : Grammar} (hg : g.Regular) {t body : Text} :
    g.get? t = some body ↔ ⟨.ofText t, body⟩ ∈ g.rules := by
  rw [get?_eq_body?, body?_eq_some_iff hg.distinct]

/-- **Spellings.** The grammar of a document has different names in collapsed form, none of them
empty or with a closing bracket, and bodies without line ends at their ends. A rule that is found by
its name as it stands is found by the words of its name too. So texts with the same words find the
same, and a text finds a body if and only if the grammar lists it for the name that the text
spells. -/
theorem ofText_spellings (document : Text) :
    (ofText document).Regular ∧
    (∀ r ∈ (ofText document).rules,
      (ofText document).get? r.name.name = some r.body ∧
        (ofText document).body? (.ofText r.name.name) = some r.body) ∧
    (∀ s t : Text, s.words = t.words →
      (ofText document).get? s = (ofText document).get? t ∧
        (ofText document).defines s = (ofText document).defines t) ∧
    ∀ t : Text,
      (ofText document).get? t = (ofText document).body? (.ofText t) ∧
      (((ofText document).get? t).isSome ↔
        Nonterminal.ofText t ∈ (ofText document).rules.map (·.name)) ∧
      ∀ body, (ofText document).get? t = some body ↔
        ⟨.ofText t, body⟩ ∈ (ofText document).rules := by
  have hg := regular_ofText document
  refine ⟨hg, fun r hr => ?_, fun s t h => ?_, fun t => ⟨get?_eq_body? _ t, ?_, fun body => ?_⟩⟩
  · have hbody := hg.body?_of_mem hr
    exact ⟨(get?_eq_body? _ _).trans hbody, hbody⟩
  · have hfound := get?_congr (ofText document) h
    exact ⟨hfound, congrArg Option.isSome hfound⟩
  · rw [get?_eq_body?, isSome_body?_iff]
  · exact hg.get?_eq_some_iff

/-- A document that defines a rule twice, with other blanks in its name and other line ends. -/
def respelled : Text := "<b  c> ::=\n  X\n\n<d> ::=\n  Y\n\n< b\tc > ::=\r\n  Z\r\n\r\n".toList

/-- The rule has one name and its last body, and is found under a third spelling. -/
theorem ofText_spellings_respelled :
    ((⟨.ofText "b c".toList, "  Z".toList⟩ : Rule) ∈ (ofText respelled).rules ∧
      Text.words "b c".toList = Text.words " b\n\x0cc".toList) ∧
    ((ofText respelled).get? "b c".toList = some "  Z".toList ∧
      (ofText respelled).body? (.ofText "b c".toList) = some "  Z".toList) ∧
    ((ofText respelled).get? "b c".toList = (ofText respelled).get? " b\n\x0cc".toList ∧
      (ofText respelled).defines "b c".toList =
        (ofText respelled).defines " b\n\x0cc".toList) := by
  obtain ⟨hregular, hlisted, hsame, hfound⟩ := ofText_spellings respelled
  have hmem : (⟨.ofText "b c".toList, "  Z".toList⟩ : Rule) ∈ (ofText respelled).rules := by
    decide +kernel
  have hwords : Text.words "b c".toList = Text.words " b\n\x0cc".toList := by decide +kernel
  exact ⟨⟨hmem, hwords⟩, hlisted _ hmem, hsame _ _ hwords⟩

end Grammar

end SqlVocabulary
