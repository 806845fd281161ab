import SqlVocabulary.Run
import SqlVocabulary.Expansion.Walk

/-!
# Expanding selectors

Each selector of a grammar is expanded on its own, with a budget of its own, and the expansions
follow one another.
-/

namespace SqlVocabulary

namespace Grammar

/-- Expands a rule, which must be defined. The rule itself is the first on every path. -/
def expandNonterminal (g : Grammar) (n : Nonterminal) (p : Policy) : Run Expansion :=
  match g.body? n with
  | some body => do
    let e := expand body g p [n]
    Run.report e.events
    return e
  | none => Run.fail (.unknownSelector n)

/-- Expands the rule that a selector names. -/
def expandRule (g : Grammar) (selector : Text) (p : Policy) : Run Expansion :=
  g.expandNonterminal (.ofText selector) p

/-- Expands the rules that selectors name, one after the other, up to the first that names none. -/
def expandSelectors (g : Grammar) (p : Policy) : List Text → Run Expansion
  | [] => pure .empty
  | s :: ss => do
    let first ← g.expandRule s p
    let rest ← g.expandSelectors p ss
    return first ++ rest

end Grammar

end SqlVocabulary
