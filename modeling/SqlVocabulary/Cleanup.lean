import SqlVocabulary.Error
import SqlVocabulary.Pattern
import SqlVocabulary.Text.Blank
import SqlVocabulary.Text.UpperCase

/-!
# Cleaning literals

A literal as it stands in a document is cut to the part that a pattern takes out of it, and what a
second pattern finds in that part is replaced. The outcome must not be blank and must be in upper
case; a literal that fails is left out, with a diagnostic.
-/

namespace SqlVocabulary

/-- A pattern, and the text that takes the place of its matches. -/
structure Replacement where
  find : Pattern
  template : Text

/-- The pattern that an engine makes of a text, which it must not refuse. -/
def Pattern.compile (engine : Pattern.Engine) (source : Text) : Except Error Pattern :=
  match engine source with
  | some p => .ok p
  | none => .error (.invalidPattern source)

namespace Replacement

def compile (engine : Pattern.Engine) (find template : Text) : Except Error Replacement := do
  return ⟨← Pattern.compile engine find, template⟩

/-- A text with every match replaced. -/
def apply (r : Replacement) (t : Text) : Text := r.find.replaceAll r.template t

end Replacement

/-- How the literals of a source are cleaned. -/
structure Cleanup where
  pattern : Option Pattern := none
  replacement : Option Replacement := none

/-- Literals after cleaning. A literal that is left out is logged when it is come to. -/
structure Cleaned where
  literals : List Text
  /-- The reasons for which the others are left out. -/
  diagnostics : List Diagnostic
  events : List Event

namespace Cleanup

/-- A cleanup from the texts of its patterns. The first that is no pattern is the error, the one to
match with before the one to find. -/
def compile (engine : Pattern.Engine) (pattern : Option Text)
    (replacement : Option (Text × Text)) : Except Error Cleanup := do
  let pattern ← pattern.mapM (Pattern.compile engine)
  let replacement ← replacement.mapM fun (find, template) =>
    Replacement.compile engine find template
  return ⟨pattern, replacement⟩

def unmatched (literal pattern : Text) : Diagnostic :=
  ⟨.unmatchedLiteral, "Match error: ".toList ++ literal ++ " !~ ".toList ++ pattern, none⟩

def emptied (literal : Text) : Diagnostic :=
  ⟨.emptyLiteral, "Empty literal: ".toList ++ Text.quoted literal, none⟩

def notUpper (cleaned : Text) : Diagnostic :=
  ⟨.lowerCaseLiteral, "Upper case error: ".toList ++ cleaned, none⟩

def cut (c : Cleanup) (literal : Text) : Except Diagnostic Text :=
  match c.pattern with
  | none => .ok literal
  | some p =>
    match p.extract? literal with
    | some t => .ok t
    | none => .error (unmatched literal p.source)

/-- A text after the replacement. -/
def substitute (c : Cleanup) (t : Text) : Text :=
  match c.replacement with
  | none => t
  | some r => r.apply t

/-- One literal after cleaning, or the reason to leave it out. -/
def apply (c : Cleanup) (literal : Text) : Except Diagnostic Text := do
  let cleaned := c.substitute (← c.cut literal)
  if Text.isBlank cleaned then .error (emptied literal)
  else if Text.isUpper cleaned then .ok cleaned
  else .error (notUpper cleaned)

/-- Cleans literals one after the other. -/
def applyAll (c : Cleanup) : List Text → Cleaned
  | [] => ⟨[], [], []⟩
  | t :: ts =>
    let rest := applyAll c ts
    match c.apply t with
    | .ok t => ⟨t :: rest.literals, rest.diagnostics, rest.events⟩
    | .error d => ⟨rest.literals, d :: rest.diagnostics, .reported d :: rest.events⟩

end Cleanup

end SqlVocabulary
