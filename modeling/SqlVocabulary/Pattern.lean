import SqlVocabulary.Text.Basic

/-!
# Patterns

A pattern is known by what it does to texts: the groups of its first match in a text, and the text
with every match replaced. Patterns are made of texts by an engine, and the notation of regular
expressions is up to it: it refuses a text that is none.
-/

namespace SqlVocabulary

/-- A regular expression that is ready for use. -/
structure Pattern where
  /-- The text it was made of. -/
  source : Text
  /-- The groups of the first match, if there is one: the whole match, and then the groups of the
  pattern. A group that took no part in the match has no text. -/
  captures? : Text → Option (List (Option Text))
  /-- A text with every match replaced by a template, which may refer to groups. -/
  replaceAll : (template : Text) → Text → Text

namespace Pattern

/-- Makes a pattern of a text, unless the text is no regular expression. -/
abbrev Engine := Text → Option Pattern

/-- The text that is taken of a match: its first group, or the whole match if the pattern has no
group. A group that took no part gives the empty text. -/
def taken (groups : List (Option Text)) : Text :=
  let group := if 1 < groups.length then groups[1]? else groups[0]?
  group.join.getD []

/-- What a pattern takes out of a text. There is nothing if the pattern does not match. -/
def extract? (p : Pattern) (t : Text) : Option Text := (p.captures? t).map taken

end Pattern

end SqlVocabulary
