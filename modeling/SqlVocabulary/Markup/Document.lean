import SqlVocabulary.Run
import SqlVocabulary.Text.Blank

/-!
# Markup documents

The library has no markup engine of its own. A document is known through the elements that a
selector picks from it, and an element through its direct text children. The literal of an element
is the first of them that is not blank, as it stands.
-/

namespace SqlVocabulary

namespace Markup

/-- An element: its direct text children in document order. -/
structure Element where
  texts : List Text
  deriving DecidableEq

namespace Element

/-- The first text child that is not blank. -/
def firstText? (e : Element) : Option Text := e.texts.find? fun t => !Text.isBlank t

end Element

/-- A document: the elements that each selector picks, in document order. -/
structure Document where
  select : Text → List Element

namespace Document

/-- The first element that a selector picks. -/
def selectFirst? (d : Document) (selector : Text) : Option Element := (d.select selector).head?

/-- The literals that selectors pick, in the order of the selectors. Elements without one are
passed over. -/
def literals (d : Document) : List Text → List Text
  | [] => []
  | s :: ss => (d.select s).filterMap Element.firstText? ++ d.literals ss

/-- What the log tells of picking literals. -/
def events (d : Document) (selectors : List Text) : List Event :=
  selectors.map fun s => .selected s (d.select s).length

end Document

/-- Reads a text as markup. How it fails is up to the reader. -/
abbrev Reader := Text → Except Error Document

end Markup

end SqlVocabulary
