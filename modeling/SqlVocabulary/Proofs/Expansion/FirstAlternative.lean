import SqlVocabulary.Proofs.Expansion.Reading
import SqlVocabulary.Proofs.Grammar.Spacing
import SqlVocabulary.Proofs.Grammar.Tokens

/-!
# The first alternative of a body

Where leading references are followed, a body is scanned for its leading reference as a whole, and
then each of its alternatives is scanned on its own. The two scans agree on the first alternative
(`exists_alternatives_eq_cons`): a bar is a lexeme of its own, so nothing behind it has a part in
what leads the text before it (`leadingReference?_append_bar`), and the blanks around an alternative
do not lead.

So the expansion of a body that is led by a reference starts with what comes of that reference
(`expand_of_led`), and that of any other body is a single literal (`expand_of_not_led`).
-/

namespace SqlVocabulary

/-! ## Leading references and bars -/

theorem leadingOf?_append_bar (ls ms : List Lexeme) :
    leadingOf? (ls ++ ⟨.bar, ['|']⟩ :: ms) = leadingOf? ls := by
  induction ls with
  | nil => rfl
  | cons l ls ih => rw [List.cons_append, leadingOf?_cons, leadingOf?_cons, ih]

theorem leadingReference?_append_bar (s u : Text) :
    leadingReference? (s ++ '|' :: u) = leadingReference? s := by
  rw [leadingReference?_eq, leadingReference?_eq, Lexeme.scan_append_bar, leadingOf?_append_bar]

@[simp] theorem leadingReference?_trim (t : Text) :
    leadingReference? t.trim = leadingReference? t :=
  ignoresLayout_leadingReference?.toIgnoresEnds.trim t

/-- A body has a first alternative, and that is led by what leads the body. -/
theorem exists_alternatives_eq_cons (body : Text) :
    ∃ first others, alternatives body = first :: others ∧
      leadingReference? first = leadingReference? body := by
  rw [alternatives_eq]
  induction body using Text.pieces_induction (p := (· == '|')) with
  | last w hw =>
    rw [Text.pieces_of_not_p hw]
    exact ⟨w.trim, [], rfl, leadingReference?_trim w⟩
  | piece w c t hw hc _ =>
    obtain rfl : c = '|' := by simpa using hc
    rw [Text.pieces_append_cons t hw hc]
    refine ⟨w.trim, _, rfl, ?_⟩
    rw [leadingReference?_trim, leadingReference?_append_bar]

/-- A text starts with blanks, `inner` in brackets, and any text, and `inner` spells a name. -/
structure LedBy (t : Text) (n : Nonterminal) (gap inner rest : Text) : Prop where
  text_eq : t = gap ++ '<' :: (inner ++ '>' :: rest)
  gap_blank : ∀ c ∈ gap, Text.isSpace c = true
  inner_ne_nil : inner ≠ []
  unmarked : Unmarked inner
  name_eq : n.name = inner.collapse
  named : inner.collapse ≠ []

theorem led_iff_ledBy {t : Text} {n : Nonterminal} :
    Led t n ↔ ∃ gap inner rest, LedBy t n gap inner rest := by
  constructor
  · rintro ⟨gap, _, rfl, hgap, inner, rest, rfl, hfree, rfl, hnamed⟩
    have hne : inner.collapse ≠ [] := by
      simpa [Nonterminal.isEmpty, Nonterminal.ofText] using hnamed
    have hinner : inner ≠ [] := by
      rintro rfl
      exact hne rfl
    exact ⟨gap, inner, rest, rfl, hgap, hinner, hfree, rfl, hne⟩
  · rintro ⟨gap, inner, rest, rfl, hgap, -, hfree, hname, hnamed⟩
    refine ⟨gap, _, rfl, hgap, inner, rest, rfl, hfree, ?_, ?_⟩
    · exact Nonterminal.eq_of_name_eq hname.symm
    · rw [Nonterminal.isEmpty, hname]
      simpa using hnamed

/-! ## Expansions -/

/-- What comes of a reference that is the first one of an expansion. -/
def atFirst (g : Grammar) (p : Policy) (path : List Nonterminal) (n : Nonterminal) : Expansion :=
  (resolve g p (maxDepth - path.eraseDups.length) path.eraseDups n (.left maxReferences)).1

section Expand

variable {p : Policy} (hp : p.followLeading = true) {body first : Text} {others : List Text}
  (heq : alternatives body = first :: others)
  (hled : leadingReference? first = leadingReference? body)

include hp hled

theorem expand_of_not_led (h : leadingReference? first = none) (g : Grammar)
    (path : List Nonterminal) : expand body g p path = .ofOutcome (.literal body.collapse) := by
  unfold expand walkBody
  rw [read_of_not_led hp (hled.symm.trans h)]
  rfl

include heq

/-- Any other body asks for its leading reference, and then for what its other alternatives ask
for. -/
theorem read_of_first_led {n : Nonterminal} (h : leadingReference? first = some n) :
    p.read body = .follow n :: others.map p.readAlternative := by
  have hne : first ≠ [] := by
    rintro rfl
    cases h
  have hbody : (leadingReference? body).isSome := by rw [← hled, h]; rfl
  rw [read_of_led hbody, heq, List.map_cons, readAlternative_of_some hp hne h]

theorem expand_of_led {n : Nonterminal} (h : leadingReference? first = some n) (g : Grammar)
    (path : List Nonterminal) : ∃ later, expand body g p path = atFirst g p path n ++ later := by
  unfold expand walkBody
  rw [read_of_first_led hp heq hled h]
  exact ⟨_, rfl⟩

end Expand

/-- **First alternatives.** A body has the trimmed texts between its bars for alternatives, and at
least one of them. The first is led by the reference that leads the body, where a text is led by a
reference if it starts with blanks and a name in brackets. So if leading references are followed,
what leads the first alternative decides on the expansion. If nothing does, the body is a single
literal. If a reference does, the body asks for that and then for what the other alternatives ask
for, and the expansion starts with what comes of this reference. -/
theorem leadingReference?_firstAlternative (body : Text) :
    alternatives body = (Text.pieces (· == '|') body).map Text.trim ∧
    (∀ t n, leadingReference? t = some n ↔ ∃ gap inner rest, LedBy t n gap inner rest) ∧
    ∃ first others, alternatives body = first :: others ∧
      leadingReference? first = leadingReference? body ∧
      ∀ p : Policy, p.followLeading = true →
        (leadingReference? first = none → ∀ g path,
          expand body g p path = .ofOutcome (.literal body.collapse)) ∧
        ∀ n, leadingReference? first = some n →
          p.read body = .follow n :: others.map p.readAlternative ∧
          ∀ g path, ∃ later, expand body g p path = atFirst g p path n ++ later := by
  obtain ⟨first, others, heq, hled⟩ := exists_alternatives_eq_cons body
  refine ⟨alternatives_eq body, fun t n => leadingReference?_eq_some.trans led_iff_ledBy, first,
    others, heq, hled, fun p hp => ⟨fun h => ?_, fun n h => ⟨?_, ?_⟩⟩⟩
  · exact expand_of_not_led hp hled h
  · exact read_of_first_led hp heq hled h
  · exact expand_of_led hp heq hled h

/-- A body with a bracket in its first alternative that is closed behind the bar. -/
def cutShort : Text := "\n <a  b>< c | d> |".toList

/-- A body that starts with brackets around a blank. -/
def blankLed : Text := " < > <a> | <b>".toList

/-- The one body is led by a reference and the other one is not, and so are their first
alternatives. -/
theorem leadingReference?_firstAlternative_cutShort :
    (Policy.statements.followLeading = true ∧
      leadingReference? cutShort = some (.ofText "a b".toList) ∧
      leadingReference? blankLed = none) ∧
    (∃ gap inner rest, LedBy cutShort (.ofText "a b".toList) gap inner rest) ∧
    (∃ later, expand cutShort .empty .statements [] =
      atFirst .empty .statements [] (.ofText "a b".toList) ++ later) ∧
    expand blankLed .empty .statements [] = .ofOutcome (.literal "< > <a> | <b>".toList) := by
  have hled : leadingReference? cutShort = some (.ofText "a b".toList) := by decide +kernel
  have hnot : leadingReference? blankLed = none := by decide +kernel
  obtain ⟨-, hiff, first, _, -, hfirst, hexpand⟩ := leadingReference?_firstAlternative cutShort
  obtain ⟨-, -, first', _, -, hfirst', hexpand'⟩ := leadingReference?_firstAlternative blankLed
  refine ⟨⟨rfl, hled, hnot⟩, (hiff _ _).1 hled, ?_, ?_⟩
  · exact ((hexpand .statements rfl).2 _ (hfirst.trans hled)).2 .empty []
  · exact (hexpand' .statements rfl).1 (hfirst'.trans hnot) .empty []

end SqlVocabulary
