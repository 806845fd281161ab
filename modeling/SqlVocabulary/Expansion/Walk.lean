import SqlVocabulary.Grammar.Basic
import SqlVocabulary.Expansion.Basic

/-!
# Walking a grammar

The expansion of a body is a walk in depth-first order. `Policy.read` says what each alternative of
a body asks for: nothing, an outcome, or the body of the rule that its leading reference names. A
reference is followed only to a defined rule that is not on the path from the root (so the rules on
a path are always different), while there is room on the path, and while the budget of references
lasts. The first reference that finds the budget spent stops the following of references; texts that
are still to come on the way back are literals all the same.
-/

namespace SqlVocabulary

/-- What an alternative of a body asks for. -/
inductive Item where
  /-- An alternative with nothing in it. -/
  | nothing
  /-- An alternative that yields its outcome without a look at the grammar. -/
  | yields (o : Outcome)
  /-- An alternative led by a reference that is to be followed. -/
  | follow (rule : Nonterminal)
  deriving DecidableEq

namespace Policy

def readAlternative (p : Policy) (alternative : Text) : Item :=
  if alternative.isEmpty then .nothing
  else if p.followLeading then
    match leadingReference? alternative with
    | some n => .follow n
    | none => .yields (.literal (p.layout.apply alternative))
  else if hasReference alternative then .yields (.unsupported alternative)
  else .yields (.literal alternative)

/-- What a body asks for, in order. Where leading references are followed, a body that does not
start with one is a single literal, whatever bars it holds. -/
def read (p : Policy) (body : Text) : List Item :=
  if p.followLeading && (leadingReference? body).isNone then [.yields (.literal body.collapse)]
  else (alternatives body).map p.readAlternative

end Policy

/-- The references that a walk may still resolve. -/
inductive Budget where
  | left (references : Nat)
  /-- A reference has found nothing left. -/
  | spent
  deriving DecidableEq

/-- What comes of one item of a body, where `resolve` follows a reference with what is left of the
budget. -/
def walkItem (resolve : Nonterminal → Budget → Expansion × Budget) :
    Item → Budget → Expansion × Budget
  | .nothing, b => (.ofEvent .skippedAlternative, b)
  | .yields o, b => (.ofOutcome o, b)
  | .follow n, b => resolve n b

/-- What comes of the items of a body, one after the other. -/
def walkItems (resolve : Nonterminal → Budget → Expansion × Budget) :
    List Item → Budget → Expansion × Budget
  | [], b => (.empty, b)
  | i :: items, b =>
    let (first, b) := walkItem resolve i b
    let (rest, b) := walkItems resolve items b
    (first ++ rest, b)

/-- What comes of a leading reference on a path of rules that has room for so many more. -/
def resolve (g : Grammar) (p : Policy) :
    (room : Nat) → (path : List Nonterminal) → Nonterminal → Budget → Expansion × Budget
  | _, _, _, .spent => (.empty, .spent)
  | room, path, n, .left budget =>
    if n.isPlaceholder then (.ofOutcome (.suppressed n), .left budget)
    else match g.body? n with
      | none => (.ofOutcome (.undefined n), .left budget)
      | some body =>
        if n ∈ path then (.ofOutcome (.cycle n), .left budget)
        else match room, budget with
          | 0, _ => (.ofOutcome (.tooDeep n), .left budget)
          | _, 0 => (.ofOutcome (.stopped n), .spent)
          | room + 1, budget + 1 =>
            let (nested, b) := walkItems (resolve g p room (n :: path)) (p.read body) (.left budget)
            (.ofEvent (.expanding n path.length) ++ nested, b)

/-- The walk from a body that a path of different rules has led to. -/
def walkBody (g : Grammar) (p : Policy) (path : List Nonterminal) (body : Text) : Expansion :=
  (walkItems (resolve g p (maxDepth - path.length) path) (p.read body) (.left maxReferences)).1

/-- Expands a body that stands at the end of a path of rules. The rules of the path are taken as a
set: one that is named twice counts once. -/
def expand (body : Text) (g : Grammar) (p : Policy) (path : List Nonterminal) : Expansion :=
  walkBody g p path.eraseDups body

end SqlVocabulary
