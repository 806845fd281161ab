import SqlVocabulary.Proofs.Grammar.Scanning
import SqlVocabulary.Proofs.Text.Spacing

/-!
# References and alternatives in any layout

References are found by their brackets, and alternatives by the bars between them; blanks separate
neither. So two bodies with the same words are led by a reference to the same rule, or by none
(`ignoresLayout_leadingReference?`), they both have a reference or both have none
(`ignoresLayout_hasReference`), and they have the same alternatives, up to the layout of these
(`ignoresLayout_alternatives`).
-/

namespace SqlVocabulary

/-! ## What stands between brackets -/

theorem unmarked_squeeze {t : Text} : Unmarked t.squeeze ↔ Unmarked t := by
  unfold Unmarked
  rw [Text.mem_squeeze (by decide), Text.mem_squeeze (by decide), Text.mem_squeeze (by decide)]

theorem closes_concat {P : Text → Prop} {t : Text} {c : Char} (hc : Text.isSpace c = true) :
    Closes P (t ++ [c]) ↔ Closes P t :=
  Text.splitsAt_concat (Text.ne_of_isSpace hc rfl)

theorem closes_squeeze {P : Text → Prop} (hP : ∀ inner : Text, P inner.squeeze ↔ P inner)
    {t : Text} : Closes P t.squeeze ↔ Closes P t := by
  unfold Closes
  rw [Text.splitsAt_squeeze (by decide)]
  simp only [unmarked_squeeze, hP]

theorem ignoresLayout_refers : Text.IgnoresLayout Refers where
  first _ _ hc := propext (Text.splitsAt_cons (Text.ne_of_isSpace hc rfl))
  last t c hc := by
    unfold Refers
    rw [Text.splitsAt_concat (Text.ne_of_isSpace hc rfl)]
    simp only [closes_concat hc]
  run t := by
    have hcloses : ∀ rest : Text, Closes (· ≠ []) rest.squeeze ↔ Closes (· ≠ []) rest :=
      fun rest => closes_squeeze fun inner => not_congr Text.squeeze_eq_nil
    unfold Refers
    rw [Text.splitsAt_squeeze (by decide)]
    simp only [hcloses]

theorem ignoresLayout_hasReference : Text.IgnoresLayout hasReference := by
  refine ignoresLayout_refers.of_imp fun s t h => ?_
  rw [Bool.eq_iff_iff, hasReference_iff, hasReference_iff, h]

theorem completes_squeeze {t : Text} {n : Nonterminal} :
    Completes [] t.squeeze n ↔ Completes [] t n := by
  have hname : ∀ inner : Text, Nonterminal.ofText inner.squeeze = Nonterminal.ofText inner := by
    intro inner
    unfold Nonterminal.ofText
    simp only [Text.collapse_squeeze]
  refine closes_squeeze fun inner => ?_
  rw [List.reverse_nil, List.nil_append, List.nil_append, hname]

theorem ignoresLayout_led : Text.IgnoresLayout Led where
  first _ _ hc := funext fun _ => propext (led_cons_of_isSpace hc)
  last t c hc := by
    ext n
    rw [led_iff, Text.splitsAt_concat (Text.ne_of_isSpace hc rfl), led_iff]
    simp only [completes_iff, closes_concat hc]
  run t := by
    ext n
    rw [led_iff, Text.splitsAt_squeeze (by decide), led_iff]
    simp only [Text.forall_isSpace_squeeze, completes_squeeze]

theorem ignoresLayout_leadingReference? : Text.IgnoresLayout leadingReference? := by
  refine ignoresLayout_led.of_imp fun s t h => ?_
  ext n
  rw [leadingReference?_eq_some, leadingReference?_eq_some, h]

/-! ## Alternatives -/

theorem bar_of_isSpace (c : Char) (hc : Text.isSpace c = true) : (c == '|') = false := by
  simpa using Text.ne_of_isSpace hc rfl

/-- The alternatives of a body are the texts between its bars, without the blanks at their ends. -/
theorem alternatives_eq (body : Text) :
    alternatives body = (Text.pieces (· == '|') body).map Text.trim := by
  rw [alternatives, betweenBars_scan]
  exact (Text.ignoresEnds_trim.map_pieces bar_of_isSpace).trim body

theorem alternatives_append (s u : Text) :
    alternatives (s ++ '|' :: u) = alternatives s ++ alternatives u := by
  rw [alternatives_eq, alternatives_eq, alternatives_eq, Text.pieces_append rfl, List.map_append]

theorem ignoresEnds_alternatives : Text.IgnoresEnds alternatives := by
  have hpieces : alternatives = fun body => (Text.pieces (· == '|') body).map Text.trim :=
    funext alternatives_eq
  rw [hpieces]
  exact Text.ignoresEnds_trim.map_pieces bar_of_isSpace

theorem ignoresLayout_alternatives :
    Text.IgnoresLayout fun body => (alternatives body).map Text.collapse := by
  have hpieces : (fun body => (alternatives body).map Text.collapse) =
      fun body => (Text.pieces (· == '|') body).map Text.collapse := by
    funext body
    rw [alternatives_eq, List.map_map]
    exact List.map_congr_left fun t _ => Text.collapse_trim t
  rw [hpieces]
  exact Text.ignoresLayout_collapse.map_pieces bar_of_isSpace

end SqlVocabulary
