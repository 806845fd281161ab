import SqlVocabulary.Diagnostic

/-!
# Extracted literals

What a source yields: literals in the order of its documents, repeated ones included, with the
diagnostics of everything that was lost on the way. `unique` and `words` are views without
repetitions, in the order of first occurrences.
-/

namespace SqlVocabulary

/-- The literals of one source. -/
structure Extracted where
  literals : List Text
  /-- Whether the words of a literal count one by one. -/
  splitLiterals : Bool
  diagnostics : List Diagnostic
  deriving DecidableEq

namespace Extracted

/-- What a source that is not configured yields. -/
def absent : Extracted := ⟨[], false, []⟩

def unique (x : Extracted) : List Text := x.literals.eraseDups

/-- The words of the literals, each once. If literals are not to be split, they are words. -/
def words (x : Extracted) : List Text :=
  if x.splitLiterals then (x.literals.flatMap Text.words).eraseDups else x.unique

end Extracted

structure Vocabulary where
  vendor : Text
  commands : Extracted
  keywords : Extracted
  deriving DecidableEq

end SqlVocabulary
