import SqlVocabulary.Proofs.Extraction.Conservation
import SqlVocabulary.Proofs.Text.Checks

/-!
# The words of a source

Cleaning leaves no blank literal: in each there is a character that is not white space. Literals are
split into words at ASCII blanks, and there is other white space: a literal that has some between
two blanks has a blank word, although it is not blank itself. With upper case it is otherwise: it is
a matter of each character, so no word of a literal lacks it.

1. Words are parts of their text, and between them they hold all of its characters that are not
   blanks (`Text.exists_mem_pieces`), so a text that is not blank has such a word.
2. `Extractor.extractSource_words` says which words are blank.
3. `Extractor.extractSource_upper` says that all words are in upper case.
-/

namespace SqlVocabulary

namespace Text

variable {p : Char → Bool} {t w : Text}

theorem infix_of_mem_pieces (h : w ∈ pieces p t) : w <:+: t := by
  induction t using pieces_induction (p := p) with
  | last v hv =>
    rw [pieces_of_not_p hv, List.mem_singleton] at h
    exact h ▸ List.infix_rfl
  | piece v c t hv hc ih =>
    rw [pieces_append_cons t hv hc] at h
    rcases List.mem_cons.1 h with rfl | h
    · exact (List.prefix_append w (c :: t)).isInfix
    · exact (ih h).trans ((List.suffix_cons c t).trans (List.suffix_append v (c :: t))).isInfix

theorem exists_mem_pieces {c : Char} (h : c ∈ t) (hc : p c = false) :
    ∃ w ∈ pieces p t, c ∈ w := by
  induction t using pieces_induction (p := p) with
  | last v hv =>
    rw [pieces_of_not_p hv]
    exact ⟨v, List.mem_singleton_self v, h⟩
  | piece v d t hv hd ih =>
    rw [pieces_append_cons t hv hd]
    rcases List.mem_append.1 h with h | h
    · exact ⟨v, List.mem_cons_self, h⟩
    · rcases List.mem_cons.1 h with rfl | h
      · rw [hc] at hd
        cases hd
      · obtain ⟨w, hw, hcw⟩ := ih h
        exact ⟨w, List.mem_cons_of_mem v hw, hcw⟩

theorem infix_of_mem_words (h : w ∈ words t) : w <:+: t :=
  infix_of_mem_pieces (List.mem_filter.1 h).1

theorem isBlank_eq_false_iff : isBlank t = false ↔ ∃ c ∈ t, isWhite c = false := by
  simp [isBlank]

/-- A text that is not blank has a word that is not. -/
theorem exists_mem_words (h : isBlank t = false) : ∃ w ∈ words t, isBlank w = false := by
  obtain ⟨c, hc, hwhite⟩ := isBlank_eq_false_iff.1 h
  have hspace : isSpace c = false := by
    refine Bool.eq_false_iff.2 fun hspace => ?_
    rw [isWhite_of_isSpace hspace] at hwhite
    cases hwhite
  obtain ⟨w, hw, hcw⟩ := exists_mem_pieces hc hspace
  refine ⟨w, List.mem_filter.2 ⟨hw, ?_⟩, isBlank_eq_false_iff.2 ⟨c, hcw, hwhite⟩⟩
  cases w with
  | nil => cases hcw
  | cons d ds => rfl

/-- A word is blank when it is made of white space at which words are not split. -/
theorem isBlank_iff_of_mem_words (h : w ∈ words t) :
    isBlank w = true ↔ ∀ c ∈ w, isWhite c = true ∧ isSpace c = false := by
  rw [isBlank, List.all_eq_true]
  exact forall₂_congr fun c hc => by simp [(of_mem_words h).2 c hc]

end Text

namespace Extracted

variable {e : Extracted} {w : Text}

theorem mem_words_of_split (h : e.splitLiterals = true) :
    w ∈ e.words ↔ ∃ t ∈ e.literals, w ∈ Text.words t := by
  rw [words, if_pos h, List.mem_eraseDups, List.mem_flatMap]

theorem mem_words_of_not_split (h : e.splitLiterals = false) :
    w ∈ e.words ↔ w ∈ e.literals := by
  rw [words, if_neg (Bool.eq_false_iff.1 h), unique, List.mem_eraseDups]

theorem exists_infix_of_mem_words (h : w ∈ e.words) : ∃ t ∈ e.literals, w <:+: t := by
  cases hsplit : e.splitLiterals with
  | true =>
    obtain ⟨t, ht, hw⟩ := (mem_words_of_split hsplit).1 h
    exact ⟨t, ht, Text.infix_of_mem_words hw⟩
  | false => exact ⟨w, (mem_words_of_not_split hsplit).1 h, List.infix_rfl⟩

end Extracted

namespace Extractor

variable {x : Extractor} {s : Source}

/-- **Blank words.** The words of a source are parts of its literals and not empty. One of them is
blank just in case literals are split, and it is made of white space other than the ASCII blanks.
Each literal has a word that is not blank. -/
theorem extractSource_words {e : Extracted} (h : (x.extractSource s).result = .ok e) :
    (∀ w ∈ e.words, w ≠ [] ∧ (∃ t ∈ e.literals, w <:+: t) ∧
      (Text.isBlank w = true ↔ s.policy.splitLiterals = true ∧
        ∀ c ∈ w, Text.isWhite c = true ∧ Text.isSpace c = false)) ∧
    ∀ t ∈ e.literals, ∃ w ∈ e.words, w <:+: t ∧ Text.isBlank w = false := by
  have hpolicy : e.splitLiterals = s.policy.splitLiterals := by
    obtain ⟨ds, ys, -, -, rfl⟩ := extractSource_eq_ok_iff.1 h
    rfl
  have hliteral : ∀ t ∈ e.literals, Text.isBlank t = false := fun t ht => (of_mem_literals h ht).1
  rw [← hpolicy]
  cases hsplit : e.splitLiterals with
  | true =>
    refine ⟨fun w hw => ?_, fun t ht => ?_⟩
    · obtain ⟨t, ht, hw⟩ := (Extracted.mem_words_of_split hsplit).1 hw
      have hblank := Text.isBlank_iff_of_mem_words hw
      exact ⟨(Text.of_mem_words hw).1, ⟨t, ht, Text.infix_of_mem_words hw⟩, by simpa using hblank⟩
    · obtain ⟨w, hw, hblank⟩ := Text.exists_mem_words (hliteral t ht)
      exact ⟨w, (Extracted.mem_words_of_split hsplit).2 ⟨t, ht, hw⟩, Text.infix_of_mem_words hw,
        hblank⟩
  | false =>
    refine ⟨fun w hw => ?_, fun t ht => ?_⟩
    · rw [Extracted.mem_words_of_not_split hsplit] at hw
      have hblank := hliteral w hw
      refine ⟨?_, ⟨w, hw, List.infix_rfl⟩, by simp [hblank]⟩
      rintro rfl
      cases hblank
    · exact ⟨t, (Extracted.mem_words_of_not_split hsplit).2 ht, List.infix_rfl, hliteral t ht⟩

end Extractor

/-- A grammar with a character between two blanks of a literal. -/
def strayPage (c : Char) : Text := "<s> ::=\n  A ".toList ++ c :: " B".toList

def stray (c : Char) : Extractor := ⟨(Documents.empty.insert ['g'] (strayPage c)).provider, none⟩

/-- What is extracted from it: one literal. -/
def strayLiteral (c : Char) : Extracted := ⟨[['A', ' ', c, ' ', 'B']], true, []⟩

theorem extractSource_noBreakSpace :
    ((stray '\u00a0').extractSource (pageSource [['g']] [['s']])).result =
      .ok (strayLiteral '\u00a0') := by
  decide +kernel

theorem extractSource_verticalTab :
    ((stray '\x0b').extractSource (pageSource [['g']] [['s']])).result =
      .ok (strayLiteral '\x0b') := by
  decide +kernel

/-- The no-break space is a blank word, and there is a word beside it that is not. -/
theorem Extractor.extractSource_words_stray :
    (Text.isBlank ['\u00a0'] = true ↔ Policy.statements.splitLiterals = true ∧
      ∀ c ∈ ['\u00a0'], Text.isWhite c = true ∧ Text.isSpace c = false) ∧
    ∃ w ∈ (strayLiteral '\u00a0').words, Text.isBlank w = false := by
  obtain ⟨hwords, hliterals⟩ := extractSource_words extractSource_noBreakSpace
  obtain ⟨-, -, hblank⟩ := hwords ['\u00a0'] (by decide)
  obtain ⟨w, hw, -, hvisible⟩ := hliterals ['A', ' ', '\u00a0', ' ', 'B'] (by decide)
  exact ⟨hblank, w, hw, hvisible⟩

/-- A no-break space and a vertical tab are reported as words, although a literal that is made of
them is rejected as empty. -/
theorem exists_blank_word :
    (∃ e, ((stray '\u00a0').extractSource (pageSource [['g']] [['s']])).result = .ok e ∧
      ∃ w ∈ e.words, Text.isBlank w = true) ∧
    ∃ e, ((stray '\x0b').extractSource (pageSource [['g']] [['s']])).result = .ok e ∧
      ∃ w ∈ e.words, Text.isBlank w = true :=
  ⟨⟨strayLiteral '\u00a0', extractSource_noBreakSpace, ['\u00a0'], by decide⟩,
    ⟨strayLiteral '\x0b', extractSource_verticalTab, ['\x0b'], by decide⟩⟩

/-! ## Upper case -/

namespace Extractor

variable {x : Extractor} {s : Source}

/-- **Words in upper case.** Each word of a source is a part of one of its literals, and its own
upper case, however the literal was cut. Where literals are split, no word is empty, and none holds
a blank. -/
theorem extractSource_upper {e : Extracted} (h : (x.extractSource s).result = .ok e) :
    ∀ w ∈ e.words, Text.upper w = w ∧ (∃ t ∈ e.literals, w <:+: t) ∧
      (s.policy.splitLiterals = true → w ≠ [] ∧ ∀ c ∈ w, Text.isSpace c = false) := by
  intro w hw
  obtain ⟨t, ht, hpart⟩ := Extracted.exists_infix_of_mem_words hw
  have hupper : t.upper = t := (of_mem_literals h ht).2
  refine ⟨Text.upper_eq_self_of_infix hpart hupper, ⟨t, ht, hpart⟩, ?_⟩
  intro hsplit
  have hpolicy : e.splitLiterals = true := by
    obtain ⟨ds, ys, -, -, rfl⟩ := extractSource_eq_ok_iff.1 h
    exact hsplit
  obtain ⟨t, -, hword⟩ := (Extracted.mem_words_of_split hpolicy).1 hw
  exact Text.of_mem_words hword

end Extractor

/-- A grammar with a literal of two words, and one with a letter whose upper case is two letters. -/
def sharpPage : Text := "<s> ::=\n  GRÜN\n  2 | STRAßE".toList

def sharp : Extractor := ⟨(Documents.empty.insert ['g'] sharpPage).provider, none⟩

/-- What a word list takes from it: the first literal, with its line break. -/
def sharpLiterals : Extracted :=
  ⟨["GRÜN\n  2".toList], true, [⟨.lowerCaseLiteral, "Upper case error: STRAßE".toList, none⟩]⟩

/-- A word of the literal that is kept. -/
theorem Extractor.extractSource_upper_sharp :
    (sharp.extractSource ⟨[['g']], .grammar, [['s']], {}, .words⟩).result = .ok sharpLiterals ∧
      Text.upper "GRÜN".toList = "GRÜN".toList ∧
      (∃ t ∈ sharpLiterals.literals, "GRÜN".toList <:+: t) ∧
      ∀ c ∈ "GRÜN".toList, Text.isSpace c = false := by
  have hresult : (sharp.extractSource ⟨[['g']], .grammar, [['s']], {}, .words⟩).result =
      .ok sharpLiterals := by decide +kernel
  obtain ⟨hupper, hpart, hsplit⟩ := extractSource_upper hresult "GRÜN".toList (by decide)
  exact ⟨hresult, hupper, hpart, (hsplit rfl).2⟩

end SqlVocabulary
