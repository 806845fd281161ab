import SqlVocabulary.Event

/-!
# Errors

What stops the work. Trouble in a grammar document never does: that is what diagnostics are for.
-/

namespace SqlVocabulary

/-- Why a configuration file could not be read. -/
inductive FileFault where
  | missing
  | directory
  | notText
  deriving DecidableEq, Repr

namespace FileFault

def message : FileFault → Text
  | missing => "No such file or directory (os error 2)".toList
  | directory => "Is a directory (os error 21)".toList
  | notText => "stream did not contain valid UTF-8".toList

end FileFault

/-- The causes for which a run ends without a result. -/
inductive Error where
  /-- A selector names a rule that its grammar does not define. -/
  | unknownSelector (rule : Nonterminal)
  /-- The document at an address could not be had. -/
  | unavailable (url reason : Text)
  /-- A markup source was asked for, and there is nothing to read markup with. -/
  | noMarkupReader (selectors : List Text)
  /-- A document is not markup. -/
  | markup (reason : Text)
  /-- A configured pattern is not a regular expression. -/
  | invalidPattern (pattern : Text)
  /-- A configuration is not a vendor table. -/
  | configuration
  /-- A configuration file could not be read. -/
  | file (fault : FileFault)
  deriving DecidableEq

namespace Error

def message : Error → Text
  | unknownSelector rule => "Unknown selector rule: ".toList ++ rule.bracketed
  | unavailable url reason => "Failed to fetch ".toList ++ url ++ ": ".toList ++ reason
  | noMarkupReader selectors =>
    "No markup parser configured (selectors: ".toList ++ Text.join ", ".toList selectors ++ [')']
  | markup reason => "Markup error: ".toList ++ reason
  | invalidPattern pattern => "Invalid pattern ".toList ++ Text.quoted pattern
  | configuration => "Configuration error".toList
  | file fault => "IO error: ".toList ++ fault.message

end Error

end SqlVocabulary
