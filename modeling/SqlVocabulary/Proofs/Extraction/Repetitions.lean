import SqlVocabulary.Extraction.Extracted
import SqlVocabulary.Proofs.FirstOccurrences

/-!
# Literals and words without repetitions

There are two views of what was extracted without repetitions, one of literals and one of words. A
literal of several words may have words in common with another one, so the second view is not the
first one split. All the same it can be had from the first one (`Extracted.words_unique`), and each
view of a whole can be had from those of two parts (`Extracted.unique_append`,
`Extracted.words_append`).
-/

namespace SqlVocabulary

namespace Extracted

/-- What counts as the words of one literal. -/
def wordsOf (x : Extracted) (t : Text) : List Text := if x.splitLiterals then Text.words t else [t]

/-- The same with other literals. -/
def withLiterals (x : Extracted) (ts : List Text) : Extracted := { x with literals := ts }

variable (x : Extracted) (ts : List Text)

/-- Split or not, the words are those of each literal in turn, with repetitions taken out. -/
theorem words_eq_eraseDups : x.words = (x.literals.flatMap x.wordsOf).eraseDups := by
  unfold words unique wordsOf
  cases x.splitLiterals with
  | true => rfl
  | false =>
    show x.literals.eraseDups = (x.literals.flatMap fun t => [t]).eraseDups
    rw [List.flatMap_singleton']

theorem unique_append :
    (x.withLiterals (x.literals ++ ts)).unique =
      x.unique ++ (x.withLiterals ts).unique.filter (· ∉ x.unique) := by
  unfold unique withLiterals
  simp only [eraseDups_append_eq, List.mem_eraseDups]

theorem words_append :
    (x.withLiterals (x.literals ++ ts)).words =
      x.words ++ (x.withLiterals ts).words.filter (· ∉ x.words) := by
  have hwords : ∀ us, (x.withLiterals us).words = (us.flatMap x.wordsOf).eraseDups := fun us =>
    words_eq_eraseDups _
  rw [hwords, hwords, x.words_eq_eraseDups, List.flatMap_append, eraseDups_append_eq]
  simp only [List.mem_eraseDups]

theorem words_unique : (x.withLiterals x.unique).words = x.words := by
  rw [words_eq_eraseDups, x.words_eq_eraseDups]
  exact eraseDups_flatMap_eraseDups x.wordsOf x.literals

/-- **Without repetitions.** The view of literals has each of them once, in the order of first
occurrences, and it is the only such list; the view of words has the same of the words of all
literals one after the other. Literals that are added add to each view what is not in it, in the
order of their own view. And the view of words does not change when the literals are replaced by the
view of literals. -/
theorem words_firstOccurrences :
    (∀ us, FirstOccurrences x.literals us ↔ us = x.unique) ∧
      (∀ ws, FirstOccurrences (x.literals.flatMap x.wordsOf) ws ↔ ws = x.words) ∧
      (x.withLiterals (x.literals ++ ts)).unique =
        x.unique ++ (x.withLiterals ts).unique.filter (· ∉ x.unique) ∧
      (x.withLiterals (x.literals ++ ts)).words =
        x.words ++ (x.withLiterals ts).words.filter (· ∉ x.words) ∧
      (x.withLiterals x.unique).words = x.words := by
  refine ⟨fun us => firstOccurrences_iff, fun ws => ?_, x.unique_append ts, x.words_append ts,
    x.words_unique⟩
  rw [x.words_eq_eraseDups]
  exact firstOccurrences_iff

/-- A word that an earlier literal ends with is not listed again. -/
example :
    words ⟨["CREATE SCHEMA".toList, "DROP\nSCHEMA".toList, "COMMIT".toList], true, []⟩ =
      ["CREATE".toList, "SCHEMA".toList, "DROP".toList, "COMMIT".toList] := by
  decide

end Extracted

end SqlVocabulary
