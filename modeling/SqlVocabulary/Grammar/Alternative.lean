import SqlVocabulary.Grammar.Token

/-!
# Alternatives of a rule body

The bars of a body separate its alternatives. Each alternative is taken without the blanks at its
two ends; what stands inside it, line ends included, stays as it is.
-/

namespace SqlVocabulary

/-- The texts between the bars of a token sequence. -/
def betweenBars : List Token → List Text
  | [] => [[]]
  | t :: ts =>
    match t.kind, betweenBars ts with
    | .bar, rest => [] :: rest
    | _, [] => [t.text]
    | _, a :: rest => (t.text ++ a) :: rest

/-- The alternatives of a body: at least one, some of which may be empty. -/
def alternatives (body : Text) : List Text :=
  (betweenBars (Token.scan body.trim)).map Text.trim

end SqlVocabulary
