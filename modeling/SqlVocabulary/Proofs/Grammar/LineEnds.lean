import SqlVocabulary.Proofs.Grammar.Joining
import SqlVocabulary.Proofs.Grammar.Spacing
import SqlVocabulary.Proofs.Text.LineEnds

/-!
# Documents with other line ends

With a carriage return before each line feed, a document is cut at the same lines, and each of its
blocks has the new line ends (`cutText_withReturns`, `blocks_withReturns`). The carriage return at
the end of a header line is a blank there, so the rules that the document defines are the same, but
for the line ends in their bodies (`ofText_eq_mapBodies`).
-/

namespace SqlVocabulary

/-! ## Rules with other bodies -/

def Rule.mapBody (φ : Text → Text) (r : Rule) : Rule := { r with body := φ r.body }

def Grammar.mapBodies (φ : Text → Text) (g : Grammar) : Grammar :=
  { g with rules := g.rules.map (Rule.mapBody φ) }

theorem Grammar.body?_mapBodies (φ : Text → Text) (g : Grammar) (n : Nonterminal) :
    (g.mapBodies φ).body? n = (g.body? n).map φ := by
  unfold body? mapBodies
  rw [List.find?_map, Option.map_map, Option.map_map]
  rfl

theorem rel_body?_mapBodies {R : Text → Text → Prop} {φ : Text → Text} (hR : ∀ b, R b (φ b))
    (g : Grammar) (n : Nonterminal) : Option.Rel R (g.body? n) ((g.mapBodies φ).body? n) := by
  rw [Grammar.body?_mapBodies]
  rcases g.body? n with _ | b
  · exact .none
  · exact .some (hR b)

section MapBody

variable (φ : Text → Text) (ds : List Rule)

theorem map_name_map_mapBody : (ds.map (Rule.mapBody φ)).map (·.name) = ds.map (·.name) := by
  rw [List.map_map]
  rfl

theorem lastDefinition?_map_mapBody (n : Nonterminal) :
    lastDefinition? (ds.map (Rule.mapBody φ)) n =
      (lastDefinition? ds n).map (Rule.mapBody φ) := by
  unfold lastDefinition?
  rw [← List.map_reverse, List.find?_map]
  rfl

theorem lastRules_map_mapBody :
    lastRules (ds.map (Rule.mapBody φ)) = (lastRules ds).map (Rule.mapBody φ) := by
  unfold lastRules
  rw [map_name_map_mapBody, List.map_filterMap]
  exact List.filterMap_congr fun n _ => lastDefinition?_map_mapBody φ ds n

theorem redefined_map_mapBody : redefined (ds.map (Rule.mapBody φ)) = redefined ds := by
  induction ds using List.reverseRecOn with
  | nil => rfl
  | append_singleton ds d ih =>
    rw [List.map_append, List.map_singleton, redefined_append_singleton, ih, map_name_map_mapBody,
      redefined_append_singleton]
    rfl

end MapBody

/-! ## Blocks -/

/-- Line ends of the other kind do not change where a text is cut: the carriage return is no part of
the content of its line. -/
theorem cutText_withReturns (a : Bool) (t : Text) :
    cutText a t.withReturns =
      ((cutText a t).1.withReturns, (cutText a t).2.map Text.withReturns) := by
  induction t using Text.line_induction generalizing a with
  | last w hw =>
    rw [Text.withReturns_of_not_mem hw, cutText_of_not_mem hw]
    split <;> simp [Text.withReturns_of_not_mem hw]
  | line w t hw ih =>
    have hreturn : '\n' ∉ w ++ ['\r'] := by simpa using hw
    rw [Text.withReturns_line hw, cutText_line hreturn, cutText_line hw, isFlush_concat rfl,
      Text.isEmptyLine_concat rfl, ih]
    split
    · rw [List.map_cons, Text.withReturns_line hw]
      rfl
    · rw [Text.withReturns_line hw]

theorem contents_map_withReturns (parts : List Text) :
    contents (parts.map Text.withReturns) = (contents parts).map Text.withReturns := by
  have hcontent : Text.lineContent ∘ Text.withReturns = Text.withReturns ∘ Text.lineContent :=
    funext Text.lineContent_withReturns
  unfold contents
  rw [List.map_map, hcontent, ← List.map_map, List.filter_map]
  congr 2
  funext t
  exact congrArg (!·) (Text.isEmpty_withReturns t)

theorem blocks_withReturns (t : Text) :
    blocks t.withReturns = (blocks t).map Text.withReturns := by
  rw [blocks_eq, blocks_eq, cutText_withReturns]
  exact contents_map_withReturns ((cutText false t).1 :: (cutText false t).2)

/-! ## Definitions -/

/-- The carriage return at the end of a header line is a blank. -/
theorem ofBlock?_withReturns (block : Text) :
    Rule.ofBlock? block.withReturns =
      (Rule.ofBlock? block).map (Rule.mapBody Text.withReturns) := by
  induction block using Text.line_induction with
  | last w hw =>
    rw [Text.withReturns_of_not_mem hw, ofBlock?_of_not_mem hw, Option.map_map]
    rfl
  | line w t hw _ =>
    have hreturn : '\n' ∉ w ++ ['\r'] := by simpa using hw
    rw [Text.withReturns_line hw, ofBlock?_line hreturn, ofBlock?_line hw, Option.map_map,
      headerName?_append w (List.forall_mem_singleton.2 rfl)]
    rfl

theorem definitions_withReturns (document : Text) :
    definitions document.withReturns =
      (definitions document).map (Rule.mapBody Text.withReturns) := by
  rw [← filterMap_blocks, ← filterMap_blocks, blocks_withReturns, List.filterMap_map,
    List.map_filterMap]
  exact List.filterMap_congr fun block _ => ofBlock?_withReturns block

/-- **Line ends of a document.** They change those of the bodies, and nothing else in the
grammar. -/
theorem ofText_eq_mapBodies (document : Text) :
    Grammar.ofText document.withReturns = (Grammar.ofText document).mapBodies Text.withReturns := by
  rw [Grammar.ofText_eq_defineAll, Grammar.ofText_eq_defineAll, Grammar.defineAll_empty,
    Grammar.defineAll_empty, definitions_withReturns, lastRules_map_mapBody,
    redefined_map_mapBody]
  rfl

/-! ## Bodies -/

theorem alternatives_withReturns (body : Text) :
    alternatives body.withReturns = (alternatives body).map Text.withReturns := by
  rw [alternatives_eq, alternatives_eq, Text.pieces_withReturns rfl rfl, List.map_map,
    List.map_map]
  exact List.map_congr_left fun t _ => Text.trim_withReturns t

@[simp] theorem leadingReference?_withReturns (t : Text) :
    leadingReference? t.withReturns = leadingReference? t :=
  ignoresLayout_leadingReference?.congr (Text.collapse_withReturns t)

@[simp] theorem hasReference_withReturns (t : Text) :
    hasReference t.withReturns = hasReference t :=
  ignoresLayout_hasReference.congr (Text.collapse_withReturns t)

end SqlVocabulary
