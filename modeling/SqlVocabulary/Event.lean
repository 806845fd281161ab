import SqlVocabulary.Diagnostic
import SqlVocabulary.Text.Quoted

/-!
# Events

What a run reports about itself while it works, in the order in which it happens. A diagnostic is
reported when it arises; the other events tell which part of the work was done or left out.
-/

namespace SqlVocabulary

/-- One line of the log. -/
inductive Event where
  /-- A diagnostic arose. -/
  | reported (d : Diagnostic)
  /-- A block whose first line is no header was passed over. -/
  | skippedBlock (header : Text)
  /-- A document was read; it defines that many rules. -/
  | parsed (rules : Nat)
  /-- An alternative with nothing in it was passed over. -/
  | skippedAlternative
  /-- A rule left to implementors was not followed. -/
  | suppressed (rule : Nonterminal)
  /-- A reference was resolved, at that many rules from the root. -/
  | expanding (rule : Nonterminal) (depth : Nat)
  /-- A selector picked that many elements of a document. -/
  | selected (selector : Text) (elements : Nat)
  /-- A vendor marked to be skipped was passed over. -/
  | skippedVendor (vendor : Text)
  /-- A source was done. -/
  | extracted (literals documents diagnostics : Nat)
  deriving DecidableEq

namespace Event

inductive Level where
  | trace
  | debug
  | info
  | warn
  deriving DecidableEq, Repr

/-- The level of an event. Diagnostics are logged as loudly as they matter. -/
def level : Event → Level
  | reported d => match d.severity with
    | .warning => .warn
    | .info => .info
  | skippedBlock _ | skippedAlternative | suppressed _ | expanding _ _ => .trace
  | parsed _ | selected _ _ | skippedVendor _ | extracted _ _ _ => .debug

def message : Event → Text
  | reported d => d.message
  | skippedBlock header => "Skipping non-definition block: ".toList ++ Text.quoted header
  | parsed rules => "Parsed ".toList ++ Text.ofNat rules ++ " grammar rules".toList
  | skippedAlternative => "Skipping empty alternative".toList
  | suppressed rule => "Suppressing placeholder ".toList ++ rule.bracketed
  | expanding rule depth =>
    "Expanding ".toList ++ rule.bracketed ++ " at depth ".toList ++ Text.ofNat depth
  | selected selector elements =>
    "Selector ".toList ++ Text.quoted selector ++ " matched ".toList ++ Text.ofNat elements ++
      " elements".toList
  | skippedVendor vendor => "Skipping vendor ".toList ++ vendor
  | extracted literals documents diagnostics =>
    "Extracted ".toList ++ Text.ofNat literals ++ " literals from ".toList ++
      Text.ofNat documents ++ " documents (".toList ++ Text.ofNat diagnostics ++
      " diagnostics)".toList

/-- The diagnostics among some events. -/
def diagnostics (events : List Event) : List Diagnostic :=
  events.filterMap fun
    | reported d => some d
    | _ => none

end Event

end SqlVocabulary
