import SqlVocabulary.Text.Quoted
import SqlVocabulary.Markup.Document

/-!
# Element listings

A plain notation for markup: one line for each element, with the selector that picks it and its text
children, all separated by tabs. A line feed inside a text is written as a backslash and an `n`.
-/

namespace SqlVocabulary

namespace Markup

/-- The document of elements with the selectors that pick them. -/
def Document.ofElements (elements : List (Text × Element)) : Document :=
  ⟨fun selector => elements.filterMap fun (s, e) => if s = selector then some e else none⟩

namespace Listing

/-- A text with every backslash before an `n` read as a line feed. -/
def unescape : Text → Text
  | '\\' :: 'n' :: cs => '\n' :: unescape cs
  | c :: cs => c :: unescape cs
  | [] => []

/-- The error of a line without a tab. -/
def badLine (line : Text) : Error := .markup ("bad line ".toList ++ Text.quoted line)

/-- Reads one line. It must hold a tab. -/
def readLine (line : Text) : Except Error (Text × Element) :=
  match Text.pieces (· == '\t') line with
  | selector :: texts =>
    if texts.isEmpty then .error (badLine line) else .ok (selector, ⟨texts.map unescape⟩)
  | [] => .error (badLine line)

/-- Reads a listing. Empty lines do not count. -/
def read : Reader := fun t => do
  let lines := (Text.pieces (· == '\n') t).filter fun l => !l.isEmpty
  return Document.ofElements (← lines.mapM readLine)

end Listing

end Markup

end SqlVocabulary
