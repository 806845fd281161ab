import SqlVocabulary.Vendor.Basic

/-!
# Drafts of vendor tables

A draft is a vendor table as it is configured, with the texts of its patterns. Compiling one goes
through the vendors in order, skipped ones included, commands before keywords, and stops at the
first text that is no pattern.
-/

namespace SqlVocabulary

/-- A source with patterns that have not been read. -/
structure SourceDraft where
  urls : List Text
  format : Format := .markup
  selectors : List Text := []
  pattern : Option Text := none
  /-- The text of the pattern to find, and the replacement. -/
  replacement : Option (Text × Text) := none
  policy : Policy := {}
  deriving DecidableEq

def SourceDraft.compile (engine : Pattern.Engine) (d : SourceDraft) : Except Error Source := do
  let cleanup ← Cleanup.compile engine d.pattern d.replacement
  return ⟨d.urls, d.format, d.selectors, cleanup, d.policy⟩

/-- A vendor with patterns that have not been read. -/
structure VendorDraft where
  skip : Bool := false
  commands : Option SourceDraft := none
  keywords : Option SourceDraft := none
  deriving DecidableEq

def VendorDraft.compile (engine : Pattern.Engine) (d : VendorDraft) : Except Error Vendor := do
  let commands ← d.commands.mapM (SourceDraft.compile engine)
  let keywords ← d.keywords.mapM (SourceDraft.compile engine)
  return ⟨d.skip, commands, keywords⟩

/-- Drafts of vendors with their names. -/
abbrev TableDraft := List (Text × VendorDraft)

namespace TableDraft

/-- One more vendor. A name that is there keeps its place and takes the new draft. -/
def put (d : TableDraft) (name : Text) (vendor : VendorDraft) : TableDraft :=
  if d.any fun v => v.1 == name then
    d.map fun v => if v.1 = name then (name, vendor) else v
  else d ++ [(name, vendor)]

def compileVendors (engine : Pattern.Engine) : TableDraft → Except Error (List (Text × Vendor))
  | [] => return []
  | (name, d) :: ds => do
    let vendor ← d.compile engine
    let vendors ← compileVendors engine ds
    return (name, vendor) :: vendors

def compile (engine : Pattern.Engine) (d : TableDraft) : Except Error VendorTable := do
  return ⟨← compileVendors engine d⟩

end TableDraft

end SqlVocabulary
