import SqlVocabulary.Pattern
import SqlVocabulary.Regex.Reader
import SqlVocabulary.Regex.Search
import SqlVocabulary.Regex.Template

/-!
# An engine for patterns

A regular expression is read and turned into a program. This engine is one that can be run. It is
narrower than the notation: of the properties of characters that have values it knows the general
category and the script, and it refuses an expression whose program would take more than ten
megabytes by its own estimate.
-/

namespace SqlVocabulary

/-- A regular expression that has been read. -/
structure Regex where
  program : Regex.Program
  /-- The names of groups, each with its index. -/
  names : List (Text × Nat)

namespace Regex

/-- The most bytes that a program may take. -/
def maxWeight : Nat := 10 * Nat.pow 2 20

/-- The regular expression with a given text, if it is one. -/
def compile? (source : Text) : Option Regex :=
  match read? source with
  | some (e, names) => if e.weight ≤ maxWeight then some ⟨.ofExpr e, names⟩ else none
  | none => none

def slice (chars : Array Char) (first last : Nat) : Text := (chars.extract first last).toList

/-- The texts of the groups of the first match. -/
def captures? (r : Regex) (t : Text) : Option (List (Option Text)) :=
  let chars := t.toArray
  (r.program.find? 0 none t).map fun m => m.groups.map (Option.map fun (a, b) => slice chars a b)

/-- The text that a reference stands for in a match. A group that is not there, or took no part,
gives the empty text. -/
def resolveRef (r : Regex) (chars : Array Char) (m : Match) (ref : GroupRef) : Text :=
  let index : Option Nat := match ref with
    | .index n => some n
    | .name t => (r.names.find? fun e => e.1 == t).map (·.2)
  match index.bind fun i => m.groups[i]? with
  | some (some (a, b)) => slice chars a b
  | _ => []

/-- The text that takes the place of a match. -/
def fill (r : Regex) (chars : Array Char) (m : Match) (parts : List TemplatePart) : Text :=
  parts.flatMap fun
    | .text t => t
    | .group ref => r.resolveRef chars m ref

/-- A text from some position on with matches replaced. -/
def replaceFrom (r : Regex) (chars : Array Char) (parts : List TemplatePart) (index : Nat) :
    List Match → Text
  | [] => slice chars index chars.size
  | m :: ms =>
    slice chars index m.start ++ r.fill chars m parts ++ replaceFrom r chars parts m.stop ms

def replaceAll (r : Regex) (template t : Text) : Text :=
  r.replaceFrom t.toArray (templateParts template) 0 (r.program.findAll t)

/-- Makes patterns of regular expressions. -/
def engine : Pattern.Engine := fun source =>
  (compile? source).map fun r => ⟨source, r.captures?, r.replaceAll⟩

end Regex

end SqlVocabulary
