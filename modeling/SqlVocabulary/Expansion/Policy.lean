import SqlVocabulary.Grammar.Alternative

/-!
# Expansion policies

A grammar is turned into a flat list of literals without understanding it fully. A policy says how
far its references are followed.
-/

namespace SqlVocabulary

/-- What becomes of the blanks inside a literal that stands in an alternative. -/
inductive Layout where
  /-- They stay as they are, line ends included. -/
  | kept
  /-- Every run of them becomes one space. -/
  | collapsed
  deriving DecidableEq, Repr

def Layout.apply : Layout → Text → Text
  | kept, t => t
  | collapsed, t => t.collapse

/-- How a rule body is expanded. -/
structure Policy where
  /-- Whether the reference that leads an alternative is followed. If so, all other text is
  literal; if not, an alternative with a reference in it cannot be expanded. -/
  followLeading : Bool := false
  /-- Whether the words of a literal count one by one. It does not bear on the expansion. -/
  splitLiterals : Bool := true
  /-- The layout of literals. -/
  layout : Layout := .kept
  deriving DecidableEq

namespace Policy

/-- The policy for lists of statements. -/
def statements : Policy := { followLeading := true }

/-- The policy for flat lists of words. -/
def words : Policy := {}

end Policy

end SqlVocabulary
