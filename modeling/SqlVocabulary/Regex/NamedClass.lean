import SqlVocabulary.Text.Script
import SqlVocabulary.Regex.CharSet

/-!
# Named classes of characters

A class may be asked for by the name of a binary property, of a general category or of a script,
alone or as `property=value`. Case, spaces, underscores, hyphens and a leading `is` do not count in
such names. A name alone is looked up as a binary property first, then as a category, then as a
script.
-/

namespace SqlVocabulary

namespace CharSet

/-- The form of a name in which names are compared. A leading `is` is kept in the one name that
would otherwise become another one. -/
def looseName (name : Text) : Text :=
  let loose (t : Text) : Text :=
    (t.filter fun c => c != ' ' && c != '_' && c != '-' && c.toNat < 0x80).map Char.toLower
  match name with
  | i :: s :: rest =>
    if i.toLower == 'i' && s.toLower == 's' then
      if loose rest == ['c'] then ['i', 's', 'c'] else loose rest
    else loose name
  | _ => loose name

/-- The names of the general categories and of their groups. Surrogates have no class: they are not
characters. -/
def categoryNames : List (List String × (Text.Category → Bool)) := [
  (["any"], fun _ => true),
  (["assigned"], fun c => c != .unassigned),
  (["c", "other"], fun c => c.group == 'C'),
  (["cc", "control", "cntrl"], (· == .control)),
  (["cf", "format"], (· == .format)),
  (["cn", "unassigned"], (· == .unassigned)),
  (["co", "privateuse"], (· == .privateUse)),
  (["l", "letter"], fun c => c.group == 'L'),
  (["lc", "casedletter"], fun c =>
    c == .uppercaseLetter || c == .lowercaseLetter || c == .titlecaseLetter),
  (["ll", "lowercaseletter"], (· == .lowercaseLetter)),
  (["lm", "modifierletter"], (· == .modifierLetter)),
  (["lo", "otherletter"], (· == .otherLetter)),
  (["lt", "titlecaseletter"], (· == .titlecaseLetter)),
  (["lu", "uppercaseletter"], (· == .uppercaseLetter)),
  (["m", "mark", "combiningmark"], fun c => c.group == 'M'),
  (["mc", "spacingmark"], (· == .spacingMark)),
  (["me", "enclosingmark"], (· == .enclosingMark)),
  (["mn", "nonspacingmark"], (· == .nonspacingMark)),
  (["n", "number"], fun c => c.group == 'N'),
  (["nd", "decimalnumber", "digit"], (· == .decimalNumber)),
  (["nl", "letternumber"], (· == .letterNumber)),
  (["no", "othernumber"], (· == .otherNumber)),
  (["p", "punctuation", "punct"], fun c => c.group == 'P'),
  (["pc", "connectorpunctuation"], (· == .connectorPunctuation)),
  (["pd", "dashpunctuation"], (· == .dashPunctuation)),
  (["pe", "closepunctuation"], (· == .closePunctuation)),
  (["pf", "finalpunctuation"], (· == .finalPunctuation)),
  (["pi", "initialpunctuation"], (· == .initialPunctuation)),
  (["po", "otherpunctuation"], (· == .otherPunctuation)),
  (["ps", "openpunctuation"], (· == .openPunctuation)),
  (["s", "symbol"], fun c => c.group == 'S'),
  (["sc", "currencysymbol"], (· == .currencySymbol)),
  (["sk", "modifiersymbol"], (· == .modifierSymbol)),
  (["sm", "mathsymbol"], (· == .mathSymbol)),
  (["so", "othersymbol"], (· == .otherSymbol)),
  (["z", "separator"], fun c => c.group == 'Z'),
  (["zl", "lineseparator"], (· == .lineSeparator)),
  (["zp", "paragraphseparator"], (· == .paragraphSeparator)),
  (["zs", "spaceseparator"], (· == .spaceSeparator))]

/-- The class of a general category, or of all ASCII characters. -/
def ofCategoryName? (name : Text) : Option CharSet :=
  if name == "ascii".toList then some (range 0 0x7F)
  else (categoryNames.find? fun e => e.1.any fun n => n.toList == name).map fun e =>
    ofCategories e.2

def ofScriptName? (name : Text) : Option CharSet :=
  (Text.scriptOfName? name).map fun code => ofRanges (Text.scriptTable.ranges (top + 1) (· == code))

/-- The class with a name of its own. Three short names that are also names of properties without a
class stand for categories. -/
def ofName? (name : Text) : Option CharSet :=
  let n := looseName name
  match Text.propertyOfName? n with
  | some p => some (ofProperty p)
  | none =>
    match ofCategoryName? n with
    | some s => some s
    | none => ofScriptName? n

/-- The class of the characters for which a property has a given value. -/
def ofValue? (property value : Text) : Option CharSet :=
  let p := looseName property
  if p == "gc".toList || p == "generalcategory".toList then ofCategoryName? (looseName value)
  else if p == "sc".toList || p == "script".toList then ofScriptName? (looseName value)
  else none

/-- The classes that have names inside brackets. They are ASCII. -/
def asciiClasses : List (String × List (Nat × Nat)) := [
  ("alnum", [(0x30, 0x39), (0x41, 0x5A), (0x61, 0x7A)]),
  ("alpha", [(0x41, 0x5A), (0x61, 0x7A)]),
  ("ascii", [(0, 0x7F)]),
  ("blank", [(0x9, 0x9), (0x20, 0x20)]),
  ("cntrl", [(0, 0x1F), (0x7F, 0x7F)]),
  ("digit", [(0x30, 0x39)]),
  ("graph", [(0x21, 0x7E)]),
  ("lower", [(0x61, 0x7A)]),
  ("print", [(0x20, 0x7E)]),
  ("punct", [(0x21, 0x2F), (0x3A, 0x40), (0x5B, 0x60), (0x7B, 0x7E)]),
  ("space", [(0x9, 0xD), (0x20, 0x20)]),
  ("upper", [(0x41, 0x5A)]),
  ("word", [(0x30, 0x39), (0x41, 0x5A), (0x5F, 0x5F), (0x61, 0x7A)]),
  ("xdigit", [(0x30, 0x39), (0x41, 0x46), (0x61, 0x66)])]

/-- The class with a name inside brackets. -/
def ofAsciiName? (name : Text) : Option CharSet :=
  (asciiClasses.find? fun e => e.1.toList == name).map fun e => ofRanges e.2

end CharSet

end SqlVocabulary
