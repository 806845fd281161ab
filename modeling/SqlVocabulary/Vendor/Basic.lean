import SqlVocabulary.Cleanup
import SqlVocabulary.Expansion.Policy

/-!
# Vendors

The vocabulary of a vendor has two halves, commands and keywords. Each is taken from a source: some
documents, what to select in them, and how to clean and expand what was selected. A table lists
vendors by name, in the order of the configuration.
-/

namespace SqlVocabulary

/-- What the documents of a source are. -/
inductive Format where
  /-- Markup; selectors pick elements. -/
  | markup
  /-- Grammars; selectors name rules. -/
  | grammar
  deriving DecidableEq, Repr

/-- Where one half of a vocabulary is taken from. -/
structure Source where
  urls : List Text
  format : Format
  selectors : List Text
  cleanup : Cleanup
  policy : Policy

structure Vendor where
  /-- Whether the vendor is left out where all vendors are asked for. -/
  skip : Bool := false
  commands : Option Source := none
  keywords : Option Source := none

/-- Vendors with their names. -/
structure VendorTable where
  vendors : List (Text × Vendor)

namespace VendorTable

def empty : VendorTable := ⟨[]⟩

def get? (t : VendorTable) (name : Text) : Option Vendor :=
  (t.vendors.find? fun v => v.1 == name).map (·.2)

/-- The vendors that are not to be skipped. -/
def active (t : VendorTable) : List (Text × Vendor) := t.vendors.filter fun v => !v.2.skip

end VendorTable

end SqlVocabulary
