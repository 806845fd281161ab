import SqlVocabulary.Nonterminal

/-!
# Diagnostics

Whatever goes wrong while a vocabulary is built, and does not stop the work, is a diagnostic: a
code, a message for a person and, where there is one, the rule concerned. The code fixes the
category and the severity.
-/

namespace SqlVocabulary

namespace Diagnostic

/-- What a diagnostic is about. -/
inductive Code where
  /-- A rule is defined again; the last definition counts. -/
  | redefinition
  /-- A reference to a rule without a definition. -/
  | undefinedReference
  /-- A reference where the policy takes only literals. -/
  | unsupportedReference
  /-- A rule leads back to itself. -/
  | selfReference
  /-- A path of rules that is too long. -/
  | excessiveDepth
  /-- More references than one expansion may resolve. -/
  | budgetExhausted
  /-- A literal that the pattern does not match. -/
  | unmatchedLiteral
  /-- A literal that is not in upper case. -/
  | lowerCaseLiteral
  /-- A literal of which nothing is left. -/
  | emptyLiteral
  deriving DecidableEq, Repr

/-- How much a diagnostic matters. -/
inductive Severity where
  /-- Part of the vocabulary is missing because of it. -/
  | warning
  /-- A literal was left out on purpose. -/
  | info
  deriving DecidableEq, Repr

namespace Code

/-- Every code, in the order of their identifiers. -/
def all : List Code :=
  [redefinition, undefinedReference, unsupportedReference, selfReference, excessiveDepth,
    budgetExhausted, unmatchedLiteral, lowerCaseLiteral, emptyLiteral]

/-- The identifier: `G01` for documents, `G02` for expansions, `G03` for cleaning. -/
def id : Code → Text
  | redefinition => "G0101".toList
  | undefinedReference => "G0201".toList
  | unsupportedReference => "G0202".toList
  | selfReference => "G0203".toList
  | excessiveDepth => "G0204".toList
  | budgetExhausted => "G0205".toList
  | unmatchedLiteral => "G0301".toList
  | lowerCaseLiteral => "G0302".toList
  | emptyLiteral => "G0303".toList

def ofId? (t : Text) : Option Code := all.find? fun c => c.id == t

/-- The part of the work in which a code arises. -/
def category : Code → Text
  | redefinition => "grammar error".toList
  | undefinedReference | unsupportedReference | selfReference | excessiveDepth
  | budgetExhausted => "expansion error".toList
  | unmatchedLiteral | lowerCaseLiteral | emptyLiteral => "cleanup rejection".toList

/-- Rejected literals are left out on purpose; all else is missing. -/
def severity : Code → Severity
  | unmatchedLiteral | lowerCaseLiteral | emptyLiteral => .info
  | _ => .warning

end Code

end Diagnostic

/-- A problem that does not stop the work. -/
structure Diagnostic where
  code : Diagnostic.Code
  message : Text
  rule : Option Nonterminal
  deriving DecidableEq

namespace Diagnostic

def severity (d : Diagnostic) : Severity := d.code.severity

/-- A diagnostic that concerns a rule. -/
def about (code : Code) (n : Nonterminal) (message : Text) : Diagnostic := ⟨code, message, some n⟩

end Diagnostic

end SqlVocabulary
