import SqlVocabulary.Event
import SqlVocabulary.Grammar.Block

/-!
# Grammars

A grammar lists the rules that a document defines, each name once, in the order of their first
definitions. A rule that is defined again keeps its place and takes the new body, and each such
redefinition is a diagnostic.
-/

namespace SqlVocabulary

/-- A rule: its name and the text of its body. -/
structure Rule where
  name : Nonterminal
  body : Text
  deriving DecidableEq

/-- The rules of a document in order, and the redefinitions found in it. -/
structure Grammar where
  rules : List Rule
  diagnostics : List Diagnostic
  deriving DecidableEq

namespace Grammar

def empty : Grammar := ⟨[], []⟩

/-- The body that a grammar gives to a name. -/
def body? (g : Grammar) (n : Nonterminal) : Option Text :=
  (g.rules.find? fun r => r.name == n).map (·.body)

/-- The body of the rule with a given spelling. A name in collapsed form is found as it stands,
any other through its collapsed form. -/
def get? (g : Grammar) (name : Text) : Option Text :=
  match g.rules.find? fun r => r.name.name == name with
  | some r => some r.body
  | none => g.body? (Nonterminal.ofText name)

/-- Whether a rule with a given spelling is defined. -/
def defines (g : Grammar) (name : Text) : Bool := (g.get? name).isSome

/-- Rules with the body of one of them replaced. -/
def replaceBody (n : Nonterminal) (body : Text) (rules : List Rule) : List Rule :=
  rules.map fun r => if r.name = n then { r with body := body } else r

/-- The diagnostic of a redefinition. -/
def redefinition (n : Nonterminal) : Diagnostic :=
  .about .redefinition n
    (n.bracketed ++ " is defined more than once, keeping the last definition".toList)

/-- One more definition. A new name goes to the end; a known one takes the new body in place, and
that is reported. -/
def define (g : Grammar) (n : Nonterminal) (body : Text) : Grammar × List Event :=
  if (g.body? n).isSome then
    (⟨replaceBody n body g.rules, g.diagnostics ++ [redefinition n]⟩,
      [.reported (redefinition n)])
  else (⟨g.rules ++ [⟨n, body⟩], g.diagnostics⟩, [])

def addBlock (g : Grammar) (block : Text) : Grammar × List Event :=
  match headerName? (blockHeader block) with
  | some n => g.define n (blockBody block)
  | none => (g, [.skippedBlock (blockHeader block).lineContent])

def addBlocks (g : Grammar) : List Text → Grammar × List Event
  | [] => (g, [])
  | b :: bs =>
    let (g, first) := g.addBlock b
    let (g, rest) := addBlocks g bs
    (g, first ++ rest)

/-- Reads a document, with the events on the way. Every text is a document. -/
def parse (document : Text) : Grammar × List Event :=
  let (g, events) := empty.addBlocks (blocks document)
  (g, events ++ [.parsed g.rules.length])

def ofText (document : Text) : Grammar := (parse document).1

/-- Whether two grammars have the same rules, in whatever order, and the same diagnostics in the
same order. -/
def same (g h : Grammar) : Bool :=
  g.rules.length == h.rules.length && g.rules.all (fun r => h.body? r.name == some r.body) &&
    g.diagnostics == h.diagnostics

end Grammar

end SqlVocabulary
