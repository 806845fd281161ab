import SqlVocabulary.Text.Words

/-!
# Nonterminals

The rules of a BNF grammar are named by nonterminals, written `<rule name>`. The blanks inside the
brackets carry no meaning, so a nonterminal keeps its name in collapsed form: names that differ in
blanks alone are one nonterminal.
-/

namespace SqlVocabulary

/-- The name of a grammar rule, in collapsed form. -/
structure Nonterminal where
  name : Text
  collapsed : name.collapse = name
  deriving DecidableEq

namespace Nonterminal

/-- Grammar documents leave a rule to implementors by putting this into its name. -/
def placeholderMark : Text := "implementation-defined".toList

/-- The nonterminal with a given spelling. -/
def ofText (raw : Text) : Nonterminal := ⟨raw.collapse, Text.collapse_collapse raw⟩

/-- The nonterminal of a bracketed token. There is none without both brackets, nor with nothing but
blanks between them. -/
def ofBracketed? (token : Text) : Option Nonterminal :=
  match token.unwrap? '<' '>' with
  | some inner =>
    let n := ofText inner
    if n.name.isEmpty then none else some n
  | none => none

def isEmpty (n : Nonterminal) : Bool := n.name.isEmpty

/-- Whether the rule is left to implementors, so that it has no content to list. -/
def isPlaceholder (n : Nonterminal) : Bool := Text.contains placeholderMark n.name

def bracketed (n : Nonterminal) : Text := '<' :: n.name ++ ['>']

end Nonterminal

end SqlVocabulary
