import SqlVocabulary.Vendor.Draft

/-!
# Configured vendor tables

A table is read from a text or from a file. Neither the form of the text nor the notation of its
patterns is known here: both are up to the loader that the table is read with. All of the text must
be a table before any pattern is looked at, so a fault in its form comes before a fault in a
pattern.
-/

namespace SqlVocabulary

/-- What there is at the path of a configuration file. -/
inductive FileContent where
  | missing
  | directory
  | bytes (content : ByteArray)

namespace FileContent

def text : FileContent → Except Error Text
  | missing => .error (.file .missing)
  | directory => .error (.file .directory)
  | bytes content =>
    match String.fromUTF8? content with
    | some s => .ok s.toList
    | none => .error (.file .notText)

end FileContent

/-- What tables are read with. -/
structure Loader where
  /-- Makes a draft of a text, unless the text does not have the form of a table. -/
  draft? : Text → Option TableDraft
  /-- Makes the patterns of a draft. -/
  engine : Pattern.Engine

namespace VendorTable

def ofText (l : Loader) (t : Text) : Except Error VendorTable :=
  match l.draft? t with
  | some d => d.compile l.engine
  | none => .error .configuration

def ofFile (l : Loader) (f : FileContent) : Except Error VendorTable := do
  ofText l (← f.text)

end VendorTable

end SqlVocabulary
