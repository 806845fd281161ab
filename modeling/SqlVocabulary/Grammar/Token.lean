import SqlVocabulary.Nonterminal

/-!
# Tokens of a rule body

A body is cut into references `<name>`, the bar between alternatives, runs of blanks, and other
text. `Lexeme.scan` is one pass over the characters: an angle bracket opens a run that is a
reference if a closing bracket ends it, and text, blanks included, if a bar, another opening bracket
or the end of the body does. Nothing is lost: the texts of the lexemes written one after the other
are the body.
-/

namespace SqlVocabulary

inductive TokenKind where
  /-- `<`, at least one character other than `<`, `>` and `|`, and `>`. -/
  | reference
  /-- `|`. -/
  | bar
  /-- A run of blanks. -/
  | blank
  /-- Anything else, unpaired brackets included. -/
  | text
  deriving DecidableEq, Repr

/-- A kind with the text that has it. -/
structure Lexeme where
  kind : TokenKind
  text : Text
  deriving DecidableEq

namespace Lexeme

/-- A lexeme that may still grow. Runs are kept with their last character first. -/
inductive Pending where
  | none
  /-- A run of blanks. -/
  | blank (run : Text)
  /-- A run of other characters. -/
  | word (run : Text)
  /-- An opening bracket and the run after it. -/
  | angle (run : Text)

namespace Pending

/-- What a pending lexeme is when it ends without a closing bracket. -/
def close : Pending → List Lexeme
  | none => []
  | blank run => [⟨.blank, run.reverse⟩]
  | word run => [⟨.text, run.reverse⟩]
  | angle run => [⟨.text, '<' :: run.reverse⟩]

/-- A character that starts a lexeme: what is complete with it, and what is pending after it. -/
def start (c : Char) : List Lexeme × Pending :=
  if c = '<' then ([], angle [])
  else if c = '>' then ([⟨.text, ['>']⟩], none)
  else if c = '|' then ([⟨.bar, ['|']⟩], none)
  else if Text.isSpace c then ([], blank [c])
  else ([], word [c])

/-- Whether a character can stand in a word. -/
def isWord (c : Char) : Bool := c != '<' && c != '>' && c != '|' && !Text.isSpace c

/-- A character that ends a pending lexeme and starts another one. -/
def restart (p : Pending) (c : Char) : List Lexeme × Pending :=
  (p.close ++ (start c).1, (start c).2)

/-- One more character: the lexemes that are complete with it, and what is pending after it. -/
def push (p : Pending) (c : Char) : List Lexeme × Pending :=
  match p with
  | none => start c
  | blank run => if Text.isSpace c then ([], blank (c :: run)) else p.restart c
  | word run => if isWord c then ([], word (c :: run)) else p.restart c
  | angle run =>
    if c = '>' then
      if run.isEmpty then p.restart c
      else ([⟨.reference, '<' :: (run.reverse ++ ['>'])⟩], none)
    else if c = '<' ∨ c = '|' then p.restart c
    else ([], angle (c :: run))

end Pending

/-- The lexemes of a text that follows a pending one. -/
def scanFrom (p : Pending) : Text → List Lexeme
  | [] => p.close
  | c :: cs => (p.push c).1 ++ scanFrom (p.push c).2 cs

/-- The lexemes of a body. -/
def scan (body : Text) : List Lexeme := scanFrom .none body

/-- The rule that a reference names. A reference with nothing but blanks in it names none. -/
def reference? (l : Lexeme) : Option Nonterminal :=
  match l.kind with
  | .reference => Nonterminal.ofBracketed? l.text
  | _ => none

end Lexeme

/-- A lexeme at its byte offset in the body. -/
structure Token where
  kind : TokenKind
  text : Text
  offset : Nat
  deriving DecidableEq

namespace Token

/-- Consecutive lexemes as tokens, the first at the byte offset `start`. -/
def place (start : Nat) : List Lexeme → List Token
  | [] => []
  | l :: ls => ⟨l.kind, l.text, start⟩ :: place (start + l.text.byteSize) ls

/-- The tokens of a body. -/
def scan (body : Text) : List Token := place 0 (Lexeme.scan body)

def reference? (t : Token) : Option Nonterminal := Lexeme.reference? ⟨t.kind, t.text⟩

end Token

/-- The rule named by the first token of a text that is not blank, if that token is a reference. -/
def leadingReference? (t : Text) : Option Nonterminal :=
  match (Token.scan t).find? fun tok => tok.kind != .blank with
  | some tok => tok.reference?
  | none => none

/-- Whether a text has a reference anywhere, be it one that names no rule. -/
def hasReference (t : Text) : Bool := (Token.scan t).any fun tok => tok.kind == .reference

end SqlVocabulary
