import SqlVocabulary.Grammar.Token
import SqlVocabulary.Proofs.Grammar.Rendering
import SqlVocabulary.Proofs.Text.Canonical

/-!
# Leading references

What the scanner finds at the start of a text is said without it (`Led`): blanks, an opening
bracket, a text without brackets and bars, and a closing bracket (`leadingReference?_eq_some`).

The reader of headers is less strict: it takes a name with an opening bracket or a bar in it. So a
document can define rules that no reference names, and these are the only ones
(`leadingReference?_bracketed`).
-/

namespace SqlVocabulary

/-! ## The first lexeme that is not blank -/

/-- The rule named by the first of some lexemes that is not blank. -/
def leadingOf? (ls : List Lexeme) : Option Nonterminal :=
  (ls.find? fun l => l.kind != .blank).bind Lexeme.reference?

theorem leadingOf?_cons (l : Lexeme) (ls : List Lexeme) :
    leadingOf? (l :: ls) = if l.kind = .blank then leadingOf? ls else l.reference? := by
  unfold leadingOf?
  by_cases h : l.kind = .blank <;> simp [h]

theorem leadingOf?_eq_place (ls : List Lexeme) (start : Nat) :
    ((Token.place start ls).find? fun tok => tok.kind != .blank).bind Token.reference? =
      leadingOf? ls := by
  induction ls generalizing start with
  | nil => rfl
  | cons l ls ih =>
    rw [leadingOf?_cons, Token.place]
    by_cases h : l.kind = .blank
    · rw [if_pos h, List.find?_cons_of_neg (by simp [h]), ih]
    · rw [if_neg h, List.find?_cons_of_pos (by simpa using h)]
      rfl

theorem leadingReference?_eq (t : Text) :
    leadingReference? t = leadingOf? (Lexeme.scan t) := by
  rw [← leadingOf?_eq_place (Lexeme.scan t) 0]
  unfold leadingReference? Token.scan
  cases (Token.place 0 (Lexeme.scan t)).find? fun tok => tok.kind != .blank <;> rfl

namespace Lexeme

theorem scanFrom_cons (p : Pending) (c : Char) (t : Text) :
    scanFrom p (c :: t) = (p.push c).1 ++ scanFrom (p.push c).2 t := rfl

theorem start_of_isSpace {c : Char} (h : Text.isSpace c = true) :
    Pending.start c = ([], .blank [c]) := by
  unfold Pending.start
  rw [if_neg (Text.ne_of_isSpace h rfl), if_neg (Text.ne_of_isSpace h rfl),
    if_neg (Text.ne_of_isSpace h rfl), if_pos h]

theorem leadingOf?_scanFrom_blank (run t : Text) :
    leadingOf? (scanFrom (.blank run) t) = leadingOf? (scanFrom .none t) := by
  induction t generalizing run with
  | nil => rfl
  | cons c t ih =>
    rw [scanFrom_cons, scanFrom_cons]
    by_cases hc : Text.isSpace c = true
    · simp only [Pending.push, hc, if_true, start_of_isSpace hc, List.nil_append, ih]
    · simp only [Pending.push, hc, Bool.false_eq_true, if_false, Pending.restart, Pending.close,
        List.cons_append, List.nil_append, leadingOf?_cons, if_true]

theorem leadingOf?_scanFrom_word (run t : Text) :
    leadingOf? (scanFrom (.word run) t) = none := by
  induction t generalizing run with
  | nil => rfl
  | cons c t ih =>
    rw [scanFrom_cons]
    by_cases hc : Pending.isWord c = true
    · simp only [Pending.push, hc, if_true, List.nil_append, ih]
    · simp only [Pending.push, hc, Bool.false_eq_true, if_false]
      rfl

end Lexeme

/-! ## After the opening bracket -/

/-- A text without brackets and bars. -/
def Unmarked (t : Text) : Prop := '<' ∉ t ∧ '>' ∉ t ∧ '|' ∉ t

theorem unmarked_cons {c : Char} {t : Text} :
    Unmarked (c :: t) ↔ c ≠ '<' ∧ c ≠ '>' ∧ c ≠ '|' ∧ Unmarked t := by
  unfold Unmarked
  simp only [List.mem_cons, not_or, ne_comm]
  tauto

theorem reference?_bracketed {inner : Text} {n : Nonterminal} :
    Lexeme.reference? ⟨.reference, '<' :: (inner ++ ['>'])⟩ = some n ↔
      .ofText inner = n ∧ n.isEmpty = false :=
  Nonterminal.ofBracketed?_bracketed

/-- After an opening bracket, a text closes the bracket around what has the property `P`: it goes on
without brackets and bars up to a closing bracket. -/
def Closes (P : Text → Prop) : Text → Prop :=
  Text.SplitsAt '>' fun inner _ => Unmarked inner ∧ P inner

theorem not_closes_nil (P : Text → Prop) : ¬Closes P [] := Text.not_splitsAt_nil

theorem closes_close {P : Text → Prop} {t : Text} : Closes P ('>' :: t) ↔ P [] := by
  unfold Closes
  rw [Text.splitsAt_cons_self]
  constructor
  · rintro (⟨-, h⟩ | ⟨inner, rest, -, hfree, -⟩)
    · exact h
    · exact absurd rfl (unmarked_cons.1 hfree).2.1
  · intro h
    exact Or.inl ⟨by simp [Unmarked], h⟩

theorem closes_cons {P : Text → Prop} {t : Text} {c : Char} (hc : c ≠ '>') :
    Closes P (c :: t) ↔ (c ≠ '<' ∧ c ≠ '|') ∧ Closes (fun inner => P (c :: inner)) t := by
  unfold Closes
  rw [Text.splitsAt_cons hc]
  constructor
  · rintro ⟨inner, rest, heq, hfree, h⟩
    obtain ⟨hopen, -, hbar, hfree⟩ := unmarked_cons.1 hfree
    exact ⟨⟨hopen, hbar⟩, inner, rest, heq, hfree, h⟩
  · rintro ⟨⟨hopen, hbar⟩, inner, rest, heq, hfree, h⟩
    exact ⟨inner, rest, heq, unmarked_cons.2 ⟨hopen, hc, hbar, hfree⟩, h⟩

/-- After an opening bracket and the text `run` in reverse, a text completes a reference: it goes on
without brackets and bars up to a closing bracket. -/
def Completes (run t : Text) (n : Nonterminal) : Prop :=
  ∃ inner rest, t = inner ++ '>' :: rest ∧ Unmarked inner ∧
    .ofText (run.reverse ++ inner) = n ∧ n.isEmpty = false

theorem completes_iff {run t : Text} {n : Nonterminal} :
    Completes run t n ↔
      Closes (fun inner => .ofText (run.reverse ++ inner) = n ∧ n.isEmpty = false) t := Iff.rfl

theorem not_completes_nil (run : Text) (n : Nonterminal) : ¬Completes run [] n := not_closes_nil _

theorem completes_close {run t : Text} {n : Nonterminal} :
    Completes run ('>' :: t) n ↔ .ofText run.reverse = n ∧ n.isEmpty = false := by
  rw [completes_iff, closes_close, List.append_nil]

theorem completes_cons {run t : Text} {n : Nonterminal} {c : Char} (hc : c ≠ '>') :
    Completes run (c :: t) n ↔ (c ≠ '<' ∧ c ≠ '|') ∧ Completes (c :: run) t n := by
  rw [completes_iff, closes_cons hc, completes_iff]
  simp only [List.reverse_cons, List.append_assoc, List.singleton_append]

namespace Lexeme

/-- After an opening bracket, the scanner finds the reference that the text completes. -/
theorem leadingOf?_scanFrom_angle {run t : Text} {n : Nonterminal} :
    leadingOf? (scanFrom (.angle run) t) = some n ↔ Completes run t n := by
  induction t generalizing run with
  | nil =>
    constructor
    · intro h
      cases h
    · intro h
      exact absurd h (not_completes_nil run n)
  | cons c t ih =>
    rw [scanFrom_cons]
    by_cases hclose : c = '>'
    · subst hclose
      rw [completes_close]
      cases run with
      | nil =>
        -- brackets around nothing are text
        constructor
        · intro h
          cases h
        · rintro ⟨rfl, hne⟩
          cases hne
      | cons d run => exact reference?_bracketed
    · rw [completes_cons hclose]
      by_cases hmark : c = '<' ∨ c = '|'
      · -- so is the opening bracket before a mark
        simp only [Pending.push, if_neg hclose, if_pos hmark]
        constructor
        · intro h
          cases h
        · rintro ⟨hfree, -⟩
          exact absurd hmark (not_or.2 hfree)
      · simp only [Pending.push, if_neg hclose, if_neg hmark, List.nil_append, ih]
        exact (and_iff_right (not_or.1 hmark)).symm

theorem leadingOf?_scan_of_isSpace {c : Char} (hc : Text.isSpace c = true) (t : Text) :
    leadingOf? (scan (c :: t)) = leadingOf? (scan t) := by
  rw [scan, scanFrom_cons, Pending.push, start_of_isSpace hc]
  exact leadingOf?_scanFrom_blank [c] t

theorem leadingOf?_scan_of_ne {c : Char} (hc : ¬Text.isSpace c = true) (hopen : c ≠ '<')
    (t : Text) : leadingOf? (scan (c :: t)) = none := by
  rw [scan, scanFrom_cons, Pending.push]
  unfold Pending.start
  rw [if_neg hopen]
  split
  · rfl
  · split
    · rfl
    · exact leadingOf?_scanFrom_word [c] t

end Lexeme

/-! ## Leading references of a text -/

/-- A text is led by a reference: blanks, an opening bracket, and a text that completes it. -/
def Led (t : Text) (n : Nonterminal) : Prop :=
  ∃ gap rest, t = gap ++ '<' :: rest ∧ (∀ c ∈ gap, Text.isSpace c = true) ∧ Completes [] rest n

theorem led_iff {t : Text} {n : Nonterminal} :
    Led t n ↔ Text.SplitsAt '<'
      (fun gap rest => (∀ c ∈ gap, Text.isSpace c = true) ∧ Completes [] rest n) t := Iff.rfl

theorem led_cons_of_isSpace {c : Char} (hc : Text.isSpace c = true) {t : Text} {n : Nonterminal} :
    Led (c :: t) n ↔ Led t n := by
  rw [led_iff, Text.splitsAt_cons (Text.ne_of_isSpace hc rfl), led_iff]
  simp only [List.forall_mem_cons, hc, true_and]

theorem led_cons_of_not_isSpace {c : Char} (hc : ¬Text.isSpace c = true) {t : Text}
    {n : Nonterminal} : Led (c :: t) n ↔ c = '<' ∧ Completes [] t n := by
  constructor
  · rintro ⟨gap, rest, heq, hgap, h⟩
    cases gap with
    | nil =>
      obtain ⟨rfl, rfl⟩ := List.cons.inj heq
      exact ⟨rfl, h⟩
    | cons d gap =>
      obtain ⟨rfl, -⟩ := List.cons.inj heq
      exact absurd (hgap c List.mem_cons_self) hc
  · rintro ⟨rfl, h⟩
    exact ⟨[], t, rfl, by simp, h⟩

/-- **Leading references.** The scanner finds a reference at the start of a text if and only if the
text is led by it. -/
theorem leadingReference?_eq_some {t : Text} {n : Nonterminal} :
    leadingReference? t = some n ↔ Led t n := by
  rw [leadingReference?_eq]
  induction t with
  | nil =>
    constructor
    · intro h
      cases h
    · rintro ⟨gap, rest, h, -⟩
      simp at h
  | cons c t ih =>
    by_cases hblank : Text.isSpace c = true
    · rw [Lexeme.leadingOf?_scan_of_isSpace hblank, led_cons_of_isSpace hblank, ih]
    · rw [led_cons_of_not_isSpace hblank]
      by_cases hopen : c = '<'
      · subst hopen
        have hscan : Lexeme.scan ('<' :: t) = Lexeme.scanFrom (.angle []) t := rfl
        rw [hscan, Lexeme.leadingOf?_scanFrom_angle, and_iff_right rfl]
      · rw [Lexeme.leadingOf?_scan_of_ne hblank hopen]
        constructor
        · intro h
          cases h
        · rintro ⟨rfl, -⟩
          exact absurd rfl hopen

theorem leadingReference?_append {t : Text} (h : (leadingReference? t).isSome) (u : Text) :
    leadingReference? (t ++ u) = leadingReference? t := by
  obtain ⟨n, hn⟩ := Option.isSome_iff_exists.1 h
  rw [hn, leadingReference?_eq_some]
  obtain ⟨gap, _, rfl, hgap, inner, rest, rfl, hinner⟩ := leadingReference?_eq_some.1 hn
  exact ⟨gap, inner ++ '>' :: (rest ++ u), by simp, hgap, inner, rest ++ u, rfl, hinner⟩

/-! ## References to the rules of a document -/

/-- **Names that can be referenced.** A rule of a document is the one that its displayed name refers
to, unless there is an opening bracket or a bar in the name. -/
theorem leadingReference?_bracketed {document : Text} {r : Rule}
    (h : r ∈ (Grammar.ofText document).rules) :
    leadingReference? r.name.bracketed = some r.name ↔
      '<' ∉ r.name.name ∧ '|' ∉ r.name.name := by
  have hprintable := printable_of_mem h
  rw [leadingReference?_eq_some, Nonterminal.bracketed, List.cons_append,
    led_cons_of_not_isSpace (by decide : ¬Text.isSpace '<' = true), and_iff_right rfl]
  constructor
  · rintro ⟨inner, rest, hname, hfree, -⟩
    obtain ⟨rfl, -⟩ := (List.append_cons_inj_of_notMem hprintable.closed (by simp)).1 hname
    exact ⟨hfree.1, hfree.2.2⟩
  · rintro ⟨hopen, hbar⟩
    exact ⟨r.name.name, [], rfl, ⟨hopen, hprintable.closed, hbar⟩, r.name.ofText_name,
      hprintable.named⟩

/-- A document that defines a rule with a bar in its name, and one whose body is that name. -/
def barred : Text := "<a|b> ::=\n  X\n\n<s> ::=\n  <a|b>".toList

/-- So not every rule that is defined can be referenced: that body is read as a literal. -/
theorem unreferenced_barred :
    ¬ ∀ (document : Text) (r : Rule), r ∈ (Grammar.ofText document).rules →
      leadingReference? r.name.bracketed = some r.name := by
  intro h
  have hbar := h barred ⟨.ofText "a|b".toList, "  X".toList⟩ (by decide +kernel)
  revert hbar
  decide +kernel

/-- The rule beside it has no mark in its name, and can be referenced. -/
theorem leadingReference?_bracketed_barred :
    (⟨.ofText ['s'], "  <a|b>".toList⟩ : Rule) ∈ (Grammar.ofText barred).rules ∧
      leadingReference? "<s>".toList = some (.ofText ['s']) := by
  have hmem : (⟨.ofText ['s'], "  <a|b>".toList⟩ : Rule) ∈ (Grammar.ofText barred).rules := by
    decide +kernel
  exact ⟨hmem, (leadingReference?_bracketed hmem).2 (by decide +kernel)⟩

end SqlVocabulary
