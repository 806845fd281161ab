import SqlVocabulary.Expansion.Selectors
import SqlVocabulary.Markup.Document
import SqlVocabulary.Vendor.Basic
import SqlVocabulary.Extraction.Documents
import SqlVocabulary.Extraction.Extracted

/-!
# Extraction

The literals of a source are selected in each of its documents, cleaned, and put together in the
order of the documents. All documents are there before the first of them is looked at. Every
document is looked at alone: a grammar sees no rules of another, and its selectors have budgets of
their own.
-/

namespace SqlVocabulary

/-- What an extraction works with: where documents come from, and what reads markup. -/
structure Extractor where
  provider : Provider
  reader : Option Markup.Reader

/-- Literals, and the diagnostics of those that were lost. -/
structure Yield where
  literals : List Text
  diagnostics : List Diagnostic

namespace Yield

def empty : Yield := ⟨[], []⟩

def append (x y : Yield) : Yield := ⟨x.literals ++ y.literals, x.diagnostics ++ y.diagnostics⟩

end Yield

/-- Expands the selected rules of a grammar. -/
def selectFromGrammar (s : Source) (document : Text) : Run Yield := do
  let (g, events) := Grammar.parse document
  Run.report events
  let e ← g.expandSelectors s.policy s.selectors
  return ⟨e.literals, g.diagnostics ++ e.diagnostics⟩

/-- Picks the selected elements of a markup document. -/
def selectFromMarkup (reader : Option Markup.Reader) (s : Source) (document : Text) :
    Run Yield := do
  match reader with
  | none => Run.fail (.noMarkupReader s.selectors)
  | some read =>
    match read document with
    | .error e => Run.fail e
    | .ok d =>
      Run.report (d.events s.selectors)
      return ⟨d.literals s.selectors, []⟩

def Cleanup.run (c : Cleanup) (literals : List Text) : Run Yield := do
  let cleaned := c.applyAll literals
  Run.report cleaned.events
  return ⟨cleaned.literals, cleaned.diagnostics⟩

namespace Extractor

/-- The literals that a source selects in one document. -/
def select (x : Extractor) (s : Source) (document : Text) : Run Yield :=
  match s.format with
  | .grammar => selectFromGrammar s document
  | .markup => selectFromMarkup x.reader s document

/-- The cleaned literals of one document. -/
def extractDocument (x : Extractor) (s : Source) (document : Text) : Run Yield := do
  let selected ← x.select s document
  let cleaned ← s.cleanup.run selected.literals
  return ⟨cleaned.literals, selected.diagnostics ++ cleaned.diagnostics⟩

def extractDocuments (x : Extractor) (s : Source) : List Text → Run Yield
  | [] => pure .empty
  | d :: ds => do
    let first ← x.extractDocument s d
    let rest ← x.extractDocuments s ds
    return first.append rest

def extractSource (x : Extractor) (s : Source) : Run Extracted := do
  let documents ← x.provider.fetchAll s.urls
  let y ← x.extractDocuments s documents
  Run.report [.extracted y.literals.length documents.length y.diagnostics.length]
  return ⟨y.literals, s.policy.splitLiterals, y.diagnostics⟩

/-- Extracts one half of a vocabulary. -/
def extractHalf (x : Extractor) : Option Source → Run Extracted
  | some s => x.extractSource s
  | none => pure .absent

/-- Extracts the vocabulary of a vendor, unless it is to be skipped. -/
def extractVendor (x : Extractor) (name : Text) (v : Vendor) : Run (Option Vocabulary) := do
  if v.skip then
    Run.report [.skippedVendor name]
    return none
  else
    let commands ← x.extractHalf v.commands
    let keywords ← x.extractHalf v.keywords
    return some ⟨name, commands, keywords⟩

def extractVendors (x : Extractor) : List (Text × Vendor) → Run (List Vocabulary)
  | [] => pure []
  | (name, v) :: vs => do
    let first ← x.extractVendor name v
    let rest ← x.extractVendors vs
    return first.toList ++ rest

/-- Extracts the vocabularies of all vendors of a table that are not to be skipped. -/
def extractTable (x : Extractor) (t : VendorTable) : Run (List Vocabulary) :=
  x.extractVendors t.vendors

end Extractor

end SqlVocabulary
