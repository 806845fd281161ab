import SqlVocabulary.Run

/-!
# Documents

Documents are known by their addresses. How they are come by is no matter of this library: a
provider is anything that answers an address with a text or with the reason why there is none.
-/

namespace SqlVocabulary

/-- Answers addresses with documents. -/
abbrev Provider := Text → Except Text Text

/-- Documents in memory with their addresses, each address once. -/
structure Documents where
  entries : List (Text × Text)

namespace Documents

def empty : Documents := ⟨[]⟩

/-- One more document. It takes the place of one with the same address. -/
def insert (d : Documents) (url document : Text) : Documents :=
  ⟨(url, document) :: d.entries.filter fun e => e.1 != url⟩

def get? (d : Documents) (url : Text) : Option Text :=
  (d.entries.find? fun e => e.1 == url).map (·.2)

/-- The provider of documents in memory. -/
def provider (d : Documents) : Provider := fun url =>
  match d.get? url with
  | some document => .ok document
  | none => .error ("no document for ".toList ++ url)

end Documents

namespace Provider

def fetch (p : Provider) (url : Text) : Run Text :=
  ⟨[], [url], match p url with
    | .ok document => .ok document
    | .error reason => .error (.unavailable url reason)⟩

/-- Asks for documents, one after the other. -/
def fetchAll (p : Provider) : List Text → Run (List Text)
  | [] => pure []
  | url :: urls => do
    let document ← p.fetch url
    let documents ← p.fetchAll urls
    return document :: documents

end Provider

end SqlVocabulary
