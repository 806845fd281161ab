import SqlVocabulary.Regex.Engine
import SqlVocabulary.Vendor.Table
import SqlVocabulary.Yaml.View

/-!
# Vendor tables in YAML

A table is a mapping from the names of vendors to their sources, and each source is a mapping with
fixed fields. Fields that are not known, that come twice, or that are missing without a default make
the whole text invalid; so does a second document. A text without a document is an empty table.
-/

namespace SqlVocabulary

namespace TableDraft

open Yaml (Node)
open Yaml.Node (Tree)

/-- The fields of a record, which must be among the known ones and different. -/
def fields? (known : List Text) (n : Tree) : Option (List (Text × Tree)) := do
  let fields ← (← n.entries?).mapM fun (k, v) => k.text?.map fun name => (name, v)
  let names := fields.map (·.1)
  if names.all known.contains && names.eraseDups.length == names.length then some fields else none

/-- The value of a field, or a default if it is missing. -/
def field? {α : Type} (fields : List (Text × Tree)) (name : String) (default : Option α)
    (read : Tree → Option α) : Option α :=
  match fields.find? fun f => f.1 == name.toList with
  | some (_, n) => read n
  | none => default

def sourceFields : List Text :=
  ["urls", "parser", "selector", "match", "replace", "after_first_literal", "split_literals",
    "collapse_alternatives"].map String.toList

def formats : List (Text × Format) :=
  [("markup".toList, .markup), ("grammar".toList, .grammar)]

def readSource (n : Tree) : Option SourceDraft := do
  let fs ← fields? sourceFields n
  let urls ← field? fs "urls" none Node.strings?
  let format ← field? fs "parser" (some .markup) (Node.choice? formats)
  let selectors ← field? fs "selector" (some []) Node.strings?
  let pattern ← field? fs "match" (some none) (Node.optional? Node.text?)
  let replacement ← field? fs "replace" (some none) (Node.optional? Node.textPair?)
  let followLeading ← field? fs "after_first_literal" (some false) Node.boolean?
  let splitLiterals ← field? fs "split_literals" (some true) Node.boolean?
  let collapsed ← field? fs "collapse_alternatives" (some false) Node.boolean?
  let layout := if collapsed then Layout.collapsed else .kept
  return ⟨urls, format, selectors, pattern, replacement, ⟨followLeading, splitLiterals, layout⟩⟩

def vendorFields : List Text := ["skip", "commands", "keywords"].map String.toList

def readVendor (n : Tree) : Option VendorDraft := do
  let fs ← fields? vendorFields n
  let skip ← field? fs "skip" (some false) Node.boolean?
  let commands ← field? fs "commands" (some none) (Node.optional? readSource)
  let keywords ← field? fs "keywords" (some none) (Node.optional? readSource)
  return ⟨skip, commands, keywords⟩

/-- Reads vendors after those of a draft. -/
def readVendors (d : TableDraft) : List (Tree × Tree) → Option TableDraft
  | [] => some d
  | (k, v) :: es =>
    match k.text?, readVendor v with
    | some name, some vendor => readVendors (d.put name vendor) es
    | _, _ => none

/-- Reads the draft of a table. -/
def ofText? (t : Text) : Option TableDraft :=
  match Yaml.document? t with
  | none => none
  | some none => some []
  | some (some n) => n.entries?.bind (readVendors [])

end TableDraft

/-- Reads tables in YAML, with the patterns of the engine that is at hand. -/
def Loader.yaml : Loader := ⟨TableDraft.ofText?, Regex.engine⟩

end SqlVocabulary
