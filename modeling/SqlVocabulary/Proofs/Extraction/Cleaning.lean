import SqlVocabulary.Cleanup
import SqlVocabulary.Proofs.Extraction.Sequence

/-!
# What cleaning keeps

Cleaning keeps a literal or reports it, one way or the other (`Cleanup.length_applyAll`). The two
checks come after both patterns, so whatever the patterns make of a literal, what is kept is neither
blank nor has another upper case than itself (`Cleanup.of_apply_eq_ok`). Where there are no
patterns, the checks are all that there is (`Cleanup.applyAll_of_plain`).
-/

namespace SqlVocabulary

/-- Whether the identifier of a diagnostic starts with a given text: `G03` for those of cleaning. -/
def Diagnostic.isOf (family : String) (d : Diagnostic) : Bool :=
  family.toList.isPrefixOf d.code.id

theorem Diagnostic.isOf_eq_false {d : Diagnostic} {family other : String}
    (hd : d.isOf family = true)
    (h : (family.toList.isPrefixOf other.toList || other.toList.isPrefixOf family.toList) = false) :
    d.isOf other = false := by
  rw [Bool.eq_false_iff]
  intro hother
  rw [isOf, List.isPrefixOf_iff_prefix] at hd hother
  rw [Bool.or_eq_false_iff, ← Bool.not_eq_true, ← Bool.not_eq_true, List.isPrefixOf_iff_prefix,
    List.isPrefixOf_iff_prefix] at h
  exact (List.prefix_or_prefix_of_prefix hd hother).elim h.1 h.2

example : (Diagnostic.Code.all.filter fun c => "G03".toList.isPrefixOf c.id) =
    [.unmatchedLiteral, .lowerCaseLiteral, .emptyLiteral] := by decide

namespace Cleanup

/-- All that can happen to a literal: the pattern does not match it, nothing of it is left, it is
kept, or it is not in upper case. -/
theorem apply_cases (c : Cleanup) (t : Text) :
    (∃ p, c.pattern = some p ∧ c.apply t = .error (unmatched t p.source)) ∨
      ∃ part, c.cut t = .ok part ∧
        (Text.isBlank (c.substitute part) = true ∧ c.apply t = .error (emptied t) ∨
          Text.isBlank (c.substitute part) = false ∧
            (Text.isUpper (c.substitute part) = true ∧ c.apply t = .ok (c.substitute part) ∨
              Text.isUpper (c.substitute part) = false ∧
                c.apply t = .error (notUpper (c.substitute part)))) := by
  unfold apply
  rcases hcut : c.cut t with d | part
  · refine Or.inl ?_
    unfold cut at hcut
    split at hcut
    · cases hcut
    · rename_i p hp
      split at hcut
      · cases hcut
      · cases hcut
        exact ⟨p, hp, rfl⟩
  · refine Or.inr ⟨part, rfl, ?_⟩
    cases hblank : Text.isBlank (c.substitute part) with
    | true => exact Or.inl ⟨rfl, if_pos hblank⟩
    | false =>
      refine Or.inr ⟨rfl, ?_⟩
      have hnot : ¬Text.isBlank (c.substitute part) = true := by simp [hblank]
      cases hupper : Text.isUpper (c.substitute part) with
      | true => exact Or.inl ⟨rfl, (if_neg hnot).trans (if_pos hupper)⟩
      | false => exact Or.inr ⟨rfl, (if_neg hnot).trans (if_neg (by simp [hupper]))⟩

variable {c : Cleanup} {t u : Text} {d : Diagnostic}

theorem of_apply_eq_ok (h : c.apply t = .ok u) : Text.isBlank u = false ∧ u.upper = u := by
  rcases c.apply_cases t with
    ⟨p, -, he⟩ | ⟨part, -, ⟨-, he⟩ | ⟨hblank, ⟨hupper, he⟩ | ⟨-, he⟩⟩⟩ <;> rw [he] at h
  · cases h
  · cases h
  · cases h
    exact ⟨hblank, beq_iff_eq.1 hupper⟩
  · cases h

theorem isOf_of_apply_eq_error (h : c.apply t = .error d) : d.isOf "G03" = true := by
  rcases c.apply_cases t with
    ⟨p, -, he⟩ | ⟨part, -, ⟨-, he⟩ | ⟨-, ⟨-, he⟩ | ⟨-, he⟩⟩⟩ <;> rw [he] at h
  · cases h
    rfl
  · cases h
    rfl
  · cases h
  · cases h
    rfl

theorem literals_applyAll (c : Cleanup) (ts : List Text) :
    (c.applyAll ts).literals = ts.filterMap fun t => (c.apply t).toOption := by
  induction ts with
  | nil => rfl
  | cons t ts ih =>
    rw [List.filterMap_cons, ← ih, applyAll]
    cases c.apply t <;> rfl

theorem diagnostics_applyAll (c : Cleanup) (ts : List Text) :
    (c.applyAll ts).diagnostics = ts.filterMap fun t => failure? (c.apply t) := by
  induction ts with
  | nil => rfl
  | cons t ts ih =>
    rw [List.filterMap_cons, ← ih, applyAll]
    cases c.apply t <;> rfl

theorem length_applyAll (c : Cleanup) (ts : List Text) :
    (c.applyAll ts).literals.length + (c.applyAll ts).diagnostics.length = ts.length := by
  induction ts with
  | nil => rfl
  | cons t ts ih =>
    rw [List.length_cons, ← ih, applyAll]
    cases c.apply t with
    | ok u => exact Nat.add_right_comm _ 1 _
    | error d => rfl

theorem exists_of_mem_kept {ts : List Text} (h : u ∈ (c.applyAll ts).literals) :
    ∃ t ∈ ts, c.apply t = .ok u := by
  rw [literals_applyAll] at h
  obtain ⟨t, ht, hu⟩ := List.mem_filterMap.1 h
  refine ⟨t, ht, ?_⟩
  cases happly : c.apply t <;> rw [happly] at hu <;> cases hu
  rfl

theorem exists_of_mem_dropped {ts : List Text} (h : d ∈ (c.applyAll ts).diagnostics) :
    ∃ t ∈ ts, c.apply t = .error d := by
  rw [diagnostics_applyAll] at h
  obtain ⟨t, ht, hd⟩ := List.mem_filterMap.1 h
  exact ⟨t, ht, failure?_eq_some.1 hd⟩

section Plain

variable {c : Cleanup} (hpattern : c.pattern = none) (hreplacement : c.replacement = none)

include hpattern hreplacement

theorem apply_of_plain (t : Text) :
    c.apply t = if Text.isBlank t then .error (emptied t)
      else if Text.isUpper t then .ok t else .error (notUpper t) := by
  have hcut : c.cut t = .ok t := by
    unfold cut
    rw [hpattern]
  have hsubstitute : c.substitute t = t := by
    unfold substitute
    rw [hreplacement]
  unfold apply
  rw [hcut]
  show (if Text.isBlank (c.substitute t) then _ else _) = _
  rw [hsubstitute]

/-- Of literals that are not blank, those in upper case are kept as they stand, and the others are
reported for that. -/
theorem applyAll_of_plain {ts : List Text} (hts : ∀ t ∈ ts, Text.isBlank t = false) :
    (c.applyAll ts).literals = ts.filter Text.isUpper ∧
      (c.applyAll ts).diagnostics = (ts.filter fun t => !Text.isUpper t).map notUpper := by
  induction ts with
  | nil => exact ⟨rfl, rfl⟩
  | cons t ts ih =>
    obtain ⟨ht, hts⟩ := List.forall_mem_cons.1 hts
    obtain ⟨hkept, hdropped⟩ := ih hts
    rw [applyAll, apply_of_plain hpattern hreplacement, if_neg (Bool.eq_false_iff.1 ht)]
    cases hupper : Text.isUpper t with
    | true =>
      rw [List.filter_cons_of_pos hupper, List.filter_cons_of_neg (by simp [hupper])]
      exact ⟨congrArg _ hkept, hdropped⟩
    | false =>
      rw [List.filter_cons_of_neg (by simp [hupper]), List.filter_cons_of_pos (by simp [hupper])]
      exact ⟨hkept, congrArg _ hdropped⟩

end Plain

end Cleanup

end SqlVocabulary
