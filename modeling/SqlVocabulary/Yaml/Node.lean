import SqlVocabulary.Yaml.Token

/-!
# Nodes of a YAML text

The tokens of a text form a tree of scalars, sequences and mappings. Where a value is left out,
there is an empty plain scalar.
-/

namespace SqlVocabulary

namespace Yaml

/-- What may be said of a node in front of it. -/
structure Properties where
  anchor : Option Text := none
  tag : Option Text := none
  deriving DecidableEq

/-- A node. `Ref` is how an alias refers to another node. -/
inductive Node (Ref : Type) where
  | scalar (p : Properties) (text : Text) (style : Style)
  | sequence (p : Properties) (items : List (Node Ref))
  | mapping (p : Properties) (entries : List (Node Ref × Node Ref))
  | alias (ref : Ref)

namespace Node

/-- A node whose aliases are names. -/
abbrev Named := Node Text

/-- The scalar that stands for what is left out. -/
def omitted : Named := .scalar {} [] .plain

/-- The meanings of tag handles: of each handle the start of the tags written with it. -/
abbrev Handles := List (Text × Text)

/-- The handles with a meaning in every document. -/
def defaultHandles : Handles :=
  [(['!'], ['!']), (['!', '!'], "tag:yaml.org,2002:".toList)]

/-- A tag from its handle and what follows it. -/
def resolveTag (handles : Handles) (handle suffix : Text) : Option Text :=
  if handle.isEmpty then some suffix
  else (handles.find? fun h => h.1 == handle).map fun h => h.2 ++ suffix

/-- Reads an anchor and a tag in either order, each at most once. -/
def readProperties (handles : Handles) : List Token → Option (Properties × List Token)
  | .anchor a :: .tag h t :: ts => (resolveTag handles h t).map fun tag => (⟨some a, some tag⟩, ts)
  | .anchor a :: ts => some (⟨some a, none⟩, ts)
  | .tag h t :: .anchor a :: ts => (resolveTag handles h t).map fun tag => (⟨some a, some tag⟩, ts)
  | .tag h t :: ts => (resolveTag handles h t).map fun tag => (⟨none, some tag⟩, ts)
  | ts => some ({}, ts)

/-- Whether the next token is one of those after which a node has been left out. -/
def isNext (ends : List Token) : List Token → Bool
  | t :: _ => ends.contains t
  | [] => false

mutual

/-- Reads a node. In a block, sequences and mappings may be written with indentation; as a value of
a block mapping a sequence need not be indented. -/
def read (handles : Handles) :
    (fuel : Nat) → (block unindented : Bool) → List Token → Option (Named × List Token)
  | 0, _, _, _ => none
  | _, _, _, .alias name :: ts => some (.alias name, ts)
  | fuel + 1, block, unindented, ts =>
    match readProperties handles ts with
    | none => none
    | some (p, ts) =>
      match ts with
      | .entry :: _ =>
        if unindented then
          (readUnindented handles fuel ts).map fun (items, ts) => (.sequence p items, ts)
        else if p = {} then none
        else some (.scalar p [] .plain, ts)
      | .scalar text style :: ts =>
        let p := if p.tag = some ['!'] then { p with tag := none } else p
        some (.scalar p text style, ts)
      | .flowSequence :: ts =>
        (readFlowSequence handles fuel true ts).map fun (items, ts) => (.sequence p items, ts)
      | .flowMapping :: ts =>
        (readFlowMapping handles fuel true ts).map fun (entries, ts) => (.mapping p entries, ts)
      | .blockSequence :: ts' =>
        if block then
          (readBlockSequence handles fuel ts').map fun (items, ts) => (.sequence p items, ts)
        else if p = {} then none
        else some (.scalar p [] .plain, ts)
      | .blockMapping :: ts' =>
        if block then
          (readBlockMapping handles fuel ts').map fun (entries, ts) => (.mapping p entries, ts)
        else if p = {} then none
        else some (.scalar p [] .plain, ts)
      | ts => if p = {} then none else some (.scalar p [] .plain, ts)

/-- Reads the entries of a block sequence, up to its end. -/
def readBlockSequence (handles : Handles) :
    (fuel : Nat) → List Token → Option (List Named × List Token)
  | 0, _ => none
  | fuel + 1, .entry :: ts =>
    let item :=
      if isNext [.entry, .blockEnd] ts then some (omitted, ts)
      else read handles fuel true false ts
    match item with
    | some (n, ts) => (readBlockSequence handles fuel ts).map fun (ns, ts) => (n :: ns, ts)
    | none => none
  | _, .blockEnd :: ts => some ([], ts)
  | _, _ => none

/-- Reads the entries of a sequence that is not indented, up to the first token that is none. -/
def readUnindented (handles : Handles) :
    (fuel : Nat) → List Token → Option (List Named × List Token)
  | 0, _ => none
  | fuel + 1, .entry :: ts =>
    let item :=
      if isNext [.entry, .key, .value, .blockEnd] ts then some (omitted, ts)
      else read handles fuel true false ts
    match item with
    | some (n, ts) => (readUnindented handles fuel ts).map fun (ns, ts) => (n :: ns, ts)
    | none => none
  | _, ts => some ([], ts)

/-- Reads the entries of a block mapping, up to its end. -/
def readBlockMapping (handles : Handles) :
    (fuel : Nat) → List Token → Option (List (Named × Named) × List Token)
  | 0, _ => none
  | fuel + 1, .key :: ts =>
    let part (ts : List Token) :=
      if isNext [.key, .value, .blockEnd] ts then some (omitted, ts)
      else read handles fuel true true ts
    match part ts with
    | none => none
    | some (k, ts) =>
      let value := match ts with
        | .value :: ts => part ts
        | ts => some (omitted, ts)
      match value with
      | some (v, ts) =>
        (readBlockMapping handles fuel ts).map fun (es, ts) => ((k, v) :: es, ts)
      | none => none
  | _, .blockEnd :: ts => some ([], ts)
  | _, _ => none

/-- Reads the entries of a sequence in brackets, up to its end. A key in it makes a mapping of one
entry. -/
def readFlowSequence (handles : Handles) :
    (fuel : Nat) → (first : Bool) → List Token → Option (List Named × List Token)
  | 0, _, _ => none
  | _, _, .flowSequenceEnd :: ts => some ([], ts)
  | fuel + 1, first, ts =>
    let start := match first, ts with
      | true, ts => some ts
      | false, .comma :: ts => some ts
      | false, _ => none
    let part (ends : List Token) (ts : List Token) :=
      if isNext ends ts then some (omitted, ts) else read handles fuel false false ts
    match start with
    | none => none
    | some (.flowSequenceEnd :: ts) => some ([], ts)
    | some (.key :: ts) =>
      match part [.value, .comma, .flowSequenceEnd] ts with
      | none => none
      | some (k, ts) =>
        let value := match ts with
          | .value :: ts => part [.comma, .flowSequenceEnd] ts
          | ts => some (omitted, ts)
        match value with
        | some (v, ts) =>
          (readFlowSequence handles fuel false ts).map fun (ns, ts) =>
            (.mapping {} [(k, v)] :: ns, ts)
        | none => none
    | some ts =>
      match read handles fuel false false ts with
      | some (n, ts) => (readFlowSequence handles fuel false ts).map fun (ns, ts) => (n :: ns, ts)
      | none => none

/-- Reads the entries of a mapping in braces, up to its end. A node without a key indicator is a key
with no value. -/
def readFlowMapping (handles : Handles) :
    (fuel : Nat) → (first : Bool) → List Token → Option (List (Named × Named) × List Token)
  | 0, _, _ => none
  | _, _, .flowMappingEnd :: ts => some ([], ts)
  | fuel + 1, first, ts =>
    let start := match first, ts with
      | true, ts => some ts
      | false, .comma :: ts => some ts
      | false, _ => none
    let part (ends : List Token) (ts : List Token) :=
      if isNext ends ts then some (omitted, ts) else read handles fuel false false ts
    match start with
    | none => none
    | some (.flowMappingEnd :: ts) => some ([], ts)
    | some (.key :: ts) =>
      match part [.value, .comma, .flowMappingEnd] ts with
      | none => none
      | some (k, ts) =>
        let value := match ts with
          | .value :: ts => part [.comma, .flowMappingEnd] ts
          | ts => some (omitted, ts)
        match value with
        | some (v, ts) =>
          (readFlowMapping handles fuel false ts).map fun (es, ts) => ((k, v) :: es, ts)
        | none => none
    | some ts =>
      match read handles fuel false false ts with
      | some (k, ts) =>
        (readFlowMapping handles fuel false ts).map fun (es, ts) => ((k, omitted) :: es, ts)
      | none => none

end

/-- Reads the directives before a document: the handles they define. The version is stated at most
once and must be 1.1 or 1.2, and each handle is defined at most once. -/
def readDirectives (versioned : Bool) (own : Handles) :
    List Token → Option (Handles × List Token)
  | .version major minor :: ts =>
    if versioned || major != 1 || (minor != 1 && minor != 2) then none
    else readDirectives true own ts
  | .handle name meaning :: ts =>
    if own.any fun h => h.1 == name then none
    else readDirectives versioned (own ++ [(name, meaning)]) ts
  | ts => some (own ++ defaultHandles, ts)

/-- Whether the tokens of a document's content are at their end. -/
def atDocumentEnd : List Token → Bool
  | [] | .documentStart :: _ | .documentEnd :: _ | .version _ _ :: _ | .handle _ _ :: _ => true
  | _ => false

/-- Reads the first document. -/
def readDocument (ts : List Token) : Option (Named × List Token) :=
  let fuel := 2 * ts.length + 4
  match ts with
  | .documentStart :: _ | .version _ _ :: _ | .handle _ _ :: _ =>
    match readDirectives false [] ts with
    | some (handles, .documentStart :: ts) =>
      if atDocumentEnd ts then some (omitted, ts) else read handles fuel true false ts
    | _ => none
  | ts => read defaultHandles fuel true false ts

/-- The root of the only document of a text, or nothing if the text has no document. The text must
be well formed and have no second document. -/
def root? (t : Text) : Option (Option Named) :=
  match Token.scan? t with
  | none => none
  | some [] => some none
  | some ts =>
    match readDocument ts with
    | some (n, ts) => if ts.all (· == .documentEnd) then some (some n) else none
    | none => none

end Node

end Yaml

end SqlVocabulary
