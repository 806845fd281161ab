import SqlVocabulary.Proofs.Expansion.Alternation
import SqlVocabulary.Proofs.Expansion.Trail

/-!
# Ladders

The rules of a ladder stand one above the other, and each of them refers to the next one as many
times as the ladder is wide. Both bounds of a walk are met on ladders: the bound of the path on a
tall one, and the budget on one that is two references wide, where they double from rung to rung.

A walk from the foot of a ladder never comes back to a rung that is on its path. So the references
that it resolves depend on the width and on the number of rungs that there is room for
(`resolved_freeExpand_ladder`).
-/

namespace SqlVocabulary

/-- The spelling of a rung: one letter more than the rung below has. -/
def rung (k : Nat) : Text := List.replicate (k + 1) 'I'

/-- The ladder of a given width and height. Its uppermost rung refers to one that is not there. -/
def ladder (width height : Nat) : Grammar :=
  ⟨(List.range height).map fun k =>
    ⟨.ofText (rung k), alternation (List.replicate width (rung (k + 1)))⟩, []⟩

/-- The references that one reference to a rung stands for, itself included, when so many rungs can
still be climbed. -/
def climb (width : Nat) : Nat → Nat
  | 0 => 0
  | rungs + 1 => 1 + width * climb width rungs

/-! ## Rungs -/

theorem name_rung (k : Nat) : (Nonterminal.ofText (rung k)).name = rung k := by
  refine Text.collapse_of_not_isSpace fun c hc => ?_
  rw [List.eq_of_mem_replicate hc]
  rfl

theorem ofText_rung_inj {j k : Nat} :
    Nonterminal.ofText (rung j) = .ofText (rung k) ↔ j = k := by
  refine ⟨fun h => ?_, fun h => by rw [h]⟩
  have hname : rung j = rung k := by rw [← name_rung j, h, name_rung k]
  simpa [rung] using congrArg List.length hname

theorem referable_rung (k : Nat) : Referable (rung k) := by
  refine ⟨⟨?_, ?_, ?_⟩, ?_⟩
  · simp [rung]
  · simp [rung]
  · simp [rung]
  · rw [Nonterminal.isEmpty, name_rung]
    rfl

theorem isPlaceholder_rung (k : Nat) : (Nonterminal.ofText (rung k)).isPlaceholder = false := by
  rw [Nonterminal.isPlaceholder, name_rung, rung]
  induction k with
  | zero => decide
  | succ k ih =>
    rw [List.replicate_succ, Text.contains, ih]
    rfl

theorem body?_ladder (width : Nat) {height k : Nat} (hk : k < height) :
    (ladder width height).body? (.ofText (rung k)) =
      some (alternation (List.replicate width (rung (k + 1)))) := by
  have hdistinct : (ladder width height).Distinct := by
    rw [Grammar.Distinct, ladder, List.map_map]
    exact List.nodup_range.map fun _ _ h => ofText_rung_inj.1 h
  exact (Grammar.body?_eq_some_iff hdistinct).2
    (List.mem_map.2 ⟨k, List.mem_range.2 hk, rfl⟩)

theorem body?_ladder_of_le {width height k : Nat} (hk : height ≤ k) :
    (ladder width height).body? (.ofText (rung k)) = none := by
  rw [← Option.not_isSome_iff_eq_none, Grammar.isSome_body?_iff]
  intro hmem
  simp only [ladder, List.map_map, List.mem_map, List.mem_range, Function.comp_apply,
    ofText_rung_inj] at hmem
  omega

/-! ## Climbing -/

section Climbing

variable {p : Policy} (hp : p.followLeading = true) {width height : Nat} (hw : width ≠ 0)

include hp hw

theorem read_rung (k : Nat) :
    p.read (alternation (List.replicate width (rung k))) =
      List.replicate width (.follow (.ofText (rung k))) := by
  rw [read_alternation hp (by simpa using hw), List.map_replicate]
  intro n hn
  rw [List.eq_of_mem_replicate hn]
  exact referable_rung k

theorem resolved_freeItems_rung (follow : Nonterminal → Expansion) (k : Nat) :
    (freeItems follow (p.read (alternation (List.replicate width (rung k))))).resolved =
      width * (follow (.ofText (rung k))).resolved := by
  rw [read_rung hp hw, freeItems, List.map_replicate, Expansion.resolved_concat_replicate]
  rfl

/-- A reference to a rung is followed as far as there is room, if no rung from there on is on the
path. -/
theorem resolved_freeResolve_ladder (room : Nat) {k : Nat} {path : List Nonterminal}
    (hpath : ∀ j, k ≤ j → .ofText (rung j) ∉ path) :
    (freeResolve (ladder width height) p room path (.ofText (rung k))).resolved =
      climb width (min room (height - k)) := by
  rcases Nat.lt_or_ge k height with hk | hk
  · have ht : (ladder width height).target path (.ofText (rung k)) = .ok _ :=
      target_eq_ok.2 ⟨isPlaceholder_rung k, body?_ladder width hk, hpath k (Nat.le_refl k)⟩
    cases room with
    | zero =>
      rw [freeResolve_of_no_room ht, Nat.zero_min]
      rfl
    | succ room =>
      -- this rung joins the path, and those beyond it are still not on it
      have hnext : ∀ j, k + 1 ≤ j →
          .ofText (rung j) ∉ Nonterminal.ofText (rung k) :: path := by
        intro j hj hmem
        rcases List.mem_cons.1 hmem with heq | hmem
        · have := ofText_rung_inj.1 heq
          omega
        · exact hpath j (by omega) hmem
      have hmin : min (room + 1) (height - k) = min room (height - (k + 1)) + 1 := by omega
      rw [freeResolve_of_target ht, Expansion.resolved_append, Expansion.resolved_expanding,
        resolved_freeItems_rung hp hw, resolved_freeResolve_ladder room hnext, hmin]
      rfl
  · have ht : (ladder width height).target path (.ofText (rung k)) = .error (.undefined _) :=
      target_eq_error.2 (Or.inr (Or.inl ⟨isPlaceholder_rung k, body?_ladder_of_le hk, rfl⟩))
    rw [freeResolve_of_target_error ht, Expansion.resolved_ofOutcome, Nat.sub_eq_zero_of_le hk,
      Nat.min_zero]
    rfl
termination_by room

/-- **Climbing.** The references that are resolved from the foot of a ladder. -/
theorem resolved_freeExpand_ladder :
    (freeExpand (alternation (List.replicate width (rung 1))) (ladder width height) p
        [.ofText (rung 0)]).resolved =
      width * climb width (min (maxDepth - 1) (height - 1)) := by
  have hpath : ∀ j, 1 ≤ j → .ofText (rung j) ∉ [Nonterminal.ofText (rung 0)] := by
    intro j hj hmem
    have := ofText_rung_inj.1 (List.mem_singleton.1 hmem)
    omega
  have hwalk := resolved_freeItems_rung hp hw
    (freeResolve (ladder width height) p (maxDepth - 1) [.ofText (rung 0)]) 1
  rw [resolved_freeResolve_ladder hp hw (maxDepth - 1) hpath] at hwalk
  exact hwalk

omit hp in
theorem leads_ladder {k : Nat} (hk : k + 1 < height) :
    Leads (ladder width height) (.ofText (rung k)) (.ofText (rung (k + 1))) := by
  have hrefers : RefersTo (alternation (List.replicate width (rung (k + 1))))
      (.ofText (rung (k + 1))) := by
    rw [← follow_mem_read (p := .statements) rfl, read_rung rfl hw]
    exact List.mem_replicate.2 ⟨hw, rfl⟩
  refine (leads_iff (body?_ladder width (by omega))).2 ⟨hrefers, ?_, isPlaceholder_rung (k + 1)⟩
  rw [body?_ladder width hk]
  rfl

end Climbing

end SqlVocabulary
