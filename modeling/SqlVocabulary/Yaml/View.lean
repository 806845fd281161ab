import SqlVocabulary.Yaml.Document
import SqlVocabulary.Yaml.Kind

/-!
# Reading values out of trees

What a node is depends on what is asked for. Where any scalar will do, its text is taken whatever
its style or tag (`text?`). Where a string or a list of strings is asked for, the node must be one
by itself (`string?`): a plain scalar that looks like a number is none, unless a tag says so. What
is omitted reads as an empty mapping or sequence where one of those is asked for.
-/

namespace SqlVocabulary

namespace Yaml

/-- The tags of the core types. -/
def coreTag (name : Text) : Text := "tag:yaml.org,2002:".toList ++ name

/-- Whether a tag is an application's own. -/
def isOwnTag (tag : Text) : Bool := tag.head? == some '!'

namespace Node

def text? : Tree → Option Text
  | .scalar _ t _ => some t
  | _ => none

def entries? : Tree → Option (List (Tree × Tree))
  | .mapping _ entries => some entries
  | .scalar _ [] .plain => some []
  | _ => none

def items? : Tree → Option (List Tree)
  | .sequence _ items => some items
  | .scalar _ [] .plain => some []
  | _ => none

/-- The texts of a sequence of exactly two scalars. -/
def textPair? (n : Tree) : Option (Text × Text) :=
  match n.items? with
  | some [a, b] =>
    match a.text?, b.text? with
    | some a, some b => some (a, b)
    | _, _ => none
  | _ => none

/-- A truth value: a plain scalar, or a literal one that is tagged as such. -/
def boolean? : Tree → Option Bool
  | .scalar _ t .plain => Yaml.boolean? t
  | .scalar p t .literal =>
    if p.tag = some (coreTag "bool".toList) then Yaml.boolean? t else none
  | _ => none

/-- What may be null: the outcome of `read`, or none for null. A tag decides over the text of a
plain scalar, but what is tagged as null must be spelled so. -/
def optional? {α : Type} (read : Tree → Option α) (n : Tree) : Option (Option α) :=
  match n with
  | .scalar p t .plain =>
    match p.tag with
    | some tag =>
      if tag = coreTag "null".toList then (if isNull t then some none else none)
      else (read n).map some
    | none => if t.isEmpty || isNull t then some none else (read n).map some
  | _ => (read n).map some

/-- A string. A plain scalar without a tag must not stand for anything else; a tag must not be that
of another core type, nor an application's own. -/
def string? : Tree → Option Text
  | .scalar p t style =>
    match p.tag with
    | some tag =>
      let others := ["bool", "int", "float", "null"].map fun name => coreTag name.toList
      if isOwnTag tag || others.contains tag then none else some t
    | none => if style = .plain && Kind.ofPlain t != .text then none else some t
  | _ => none

/-- A string, which is a list of one, or a sequence of strings. -/
def strings? (n : Tree) : Option (List Text) :=
  match n with
  | .sequence p items => if p.tag.any isOwnTag then none else items.mapM string?
  | _ => n.string?.map fun t => [t]

/-- One of some names: a scalar with the name, or one with nothing in it and the name as its own
tag. -/
def choice? {α : Type} (choices : List (Text × α)) (n : Tree) : Option α :=
  let named (name : Text) := (choices.find? fun c => c.1 == name).map (·.2)
  match n with
  | .scalar p t style =>
    match p.tag with
    | some ('!' :: name) =>
      if style = .plain && (t.isEmpty || isNull t) then named name else none
    | _ => named t
  | _ => none

end Node

end Yaml

end SqlVocabulary
