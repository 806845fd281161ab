import SqlVocabulary.Event
import SqlVocabulary.Expansion.Policy

/-!
# Outcomes of an expansion

Every alternative that an expansion comes to yields an outcome: a literal, or the reason why there
is none. The reasons other than suppression are diagnostics.
-/

namespace SqlVocabulary

/-- The most rules there may be on one path of references. -/
def maxDepth : Nat := 256

/-- The most references that one expansion resolves. A grammar whose rules lead to one another
freely has more paths than could ever be walked. -/
def maxReferences : Nat := 20000

/-- What one alternative yields. -/
inductive Outcome where
  | literal (text : Text)
  /-- The leading reference has no definition. -/
  | undefined (rule : Nonterminal)
  /-- There is a reference, and the policy follows none. -/
  | unsupported (alternative : Text)
  /-- The leading reference is on the path that led here. -/
  | cycle (rule : Nonterminal)
  /-- The path that led here is as long as it may be. -/
  | tooDeep (rule : Nonterminal)
  /-- The reference at which the expansion stopped, its budget spent. -/
  | stopped (rule : Nonterminal)
  /-- The leading reference is to a rule left to implementors. -/
  | suppressed (rule : Nonterminal)
  deriving DecidableEq

namespace Outcome

def literal? : Outcome → Option Text
  | literal t => some t
  | _ => none

/-- The diagnostic of an outcome that stands for missing content. -/
def diagnostic? : Outcome → Option Diagnostic
  | literal _ | suppressed _ => none
  | undefined n =>
    some (.about .undefinedReference n ('"' :: n.name ++ "\" not defined".toList))
  | unsupported alternative =>
    some ⟨.unsupportedReference,
      "Literal expansion not supported: ".toList ++ Text.quoted alternative, none⟩
  | cycle n => some (.about .selfReference n (n.bracketed ++ " references itself".toList))
  | tooDeep n =>
    some (.about .excessiveDepth n
      (n.bracketed ++ " is nested deeper than ".toList ++ Text.ofNat maxDepth ++
        " rules".toList))
  | stopped n =>
    some (.about .budgetExhausted n
      ("Expansion stopped at ".toList ++ n.bracketed ++ " after ".toList ++
        Text.ofNat maxReferences ++ " references".toList))

/-- The events that go with an outcome. -/
def events (o : Outcome) : List Event :=
  match o with
  | suppressed n => [.suppressed n]
  | _ => match o.diagnostic? with
    | some d => [.reported d]
    | none => []

end Outcome

end SqlVocabulary
