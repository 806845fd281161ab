import SqlVocabulary.Cleanup
import SqlVocabulary.Diagnostic
import SqlVocabulary.Error
import SqlVocabulary.Event
import SqlVocabulary.Expansion.Basic
import SqlVocabulary.Expansion.Outcome
import SqlVocabulary.Expansion.Policy
import SqlVocabulary.Expansion.Selectors
import SqlVocabulary.Expansion.Walk
import SqlVocabulary.Extraction.Basic
import SqlVocabulary.Extraction.Documents
import SqlVocabulary.Extraction.Extracted
import SqlVocabulary.Grammar.Alternative
import SqlVocabulary.Grammar.Basic
import SqlVocabulary.Grammar.Block
import SqlVocabulary.Grammar.Token
import SqlVocabulary.Markup.Document
import SqlVocabulary.Markup.Listing
import SqlVocabulary.Nonterminal
import SqlVocabulary.Pattern
import SqlVocabulary.Proofs.Expansion.Alternation
import SqlVocabulary.Proofs.Expansion.Bars
import SqlVocabulary.Proofs.Expansion.Budget
import SqlVocabulary.Proofs.Expansion.DepthFirst
import SqlVocabulary.Proofs.Expansion.Extension
import SqlVocabulary.Proofs.Expansion.FirstAlternative
import SqlVocabulary.Proofs.Expansion.FreeWalk
import SqlVocabulary.Proofs.Expansion.Ladder
import SqlVocabulary.Proofs.Expansion.Layout
import SqlVocabulary.Proofs.Expansion.LineEnds
import SqlVocabulary.Proofs.Expansion.Locality
import SqlVocabulary.Proofs.Expansion.Lockstep
import SqlVocabulary.Proofs.Expansion.Reachability
import SqlVocabulary.Proofs.Expansion.Reading
import SqlVocabulary.Proofs.Expansion.Routes
import SqlVocabulary.Proofs.Expansion.Selectors
import SqlVocabulary.Proofs.Expansion.Size
import SqlVocabulary.Proofs.Expansion.Spacing
import SqlVocabulary.Proofs.Expansion.Trail
import SqlVocabulary.Proofs.Extraction.Cleaning
import SqlVocabulary.Proofs.Extraction.Conservation
import SqlVocabulary.Proofs.Extraction.Elements
import SqlVocabulary.Proofs.Extraction.Flattening
import SqlVocabulary.Proofs.Extraction.Layout
import SqlVocabulary.Proofs.Extraction.Log
import SqlVocabulary.Proofs.Extraction.Repetitions
import SqlVocabulary.Proofs.Extraction.Sequence
import SqlVocabulary.Proofs.Extraction.Vendors
import SqlVocabulary.Proofs.Extraction.Words
import SqlVocabulary.Proofs.FirstOccurrences
import SqlVocabulary.Proofs.Grammar.Blocks
import SqlVocabulary.Proofs.Grammar.Definitions
import SqlVocabulary.Proofs.Grammar.EmptyLines
import SqlVocabulary.Proofs.Grammar.Header
import SqlVocabulary.Proofs.Grammar.Joining
import SqlVocabulary.Proofs.Grammar.LineEnds
import SqlVocabulary.Proofs.Grammar.Lookup
import SqlVocabulary.Proofs.Grammar.Reference
import SqlVocabulary.Proofs.Grammar.Rendering
import SqlVocabulary.Proofs.Grammar.Scanning
import SqlVocabulary.Proofs.Grammar.Slices
import SqlVocabulary.Proofs.Grammar.Spacing
import SqlVocabulary.Proofs.Grammar.Spelling
import SqlVocabulary.Proofs.Grammar.Tokens
import SqlVocabulary.Proofs.Tasks
import SqlVocabulary.Proofs.Text.Canonical
import SqlVocabulary.Proofs.Text.Checks
import SqlVocabulary.Proofs.Text.LineEnds
import SqlVocabulary.Proofs.Text.Lines
import SqlVocabulary.Proofs.Text.Parts
import SqlVocabulary.Proofs.Text.Spacing
import SqlVocabulary.Proofs.Text.Terminators
import SqlVocabulary.Proofs.Vendor.Compilation
import SqlVocabulary.Regex.Bracket
import SqlVocabulary.Regex.CharSet
import SqlVocabulary.Regex.Engine
import SqlVocabulary.Regex.Escape
import SqlVocabulary.Regex.Expr
import SqlVocabulary.Regex.NamedClass
import SqlVocabulary.Regex.Program
import SqlVocabulary.Regex.Reader
import SqlVocabulary.Regex.Search
import SqlVocabulary.Regex.Template
import SqlVocabulary.Run
import SqlVocabulary.Text.Basic
import SqlVocabulary.Text.Blank
import SqlVocabulary.Text.CaseFold
import SqlVocabulary.Text.CaseRun
import SqlVocabulary.Text.Category
import SqlVocabulary.Text.Lines
import SqlVocabulary.Text.Property
import SqlVocabulary.Text.Quoted
import SqlVocabulary.Text.RunTable
import SqlVocabulary.Text.Script
import SqlVocabulary.Text.UpperCase
import SqlVocabulary.Text.Words
import SqlVocabulary.Vendor.Basic
import SqlVocabulary.Vendor.Builtin
import SqlVocabulary.Vendor.Draft
import SqlVocabulary.Vendor.Reader
import SqlVocabulary.Vendor.Table
import SqlVocabulary.Yaml.Cursor
import SqlVocabulary.Yaml.Document
import SqlVocabulary.Yaml.Kind
import SqlVocabulary.Yaml.Node
import SqlVocabulary.Yaml.Scalar
import SqlVocabulary.Yaml.Token
import SqlVocabulary.Yaml.View
