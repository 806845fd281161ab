import Mathlib.Data.List.Induction
import Mathlib.Data.List.Nodup

/-!
# First occurrences

Names of rules and words of literals are listed without repetitions. What such a list is, is said
apart from how it is made: it has the values of another list, each once, in the order of their first
places there (`FirstOccurrences`).

1. There is one such list only (`FirstOccurrences.unique`). It grows at the end, by the values that
   are new (`FirstOccurrences.old`, `FirstOccurrences.new`), so it is the list that is left when
   repetitions are taken out (`firstOccurrences_iff`).
2. Of two lists one after the other, the second adds what the first one does not have
   (`eraseDups_append_eq`).
3. Repetitions may be taken out before each value is replaced by others, if they are taken out again
   in the end (`eraseDups_flatMap_eraseDups`).
-/

namespace SqlVocabulary

variable {α β : Type} [BEq α] [BEq β]

/-- The list `ys` has the values of `xs`, each once, in the order of their first places there. -/
structure FirstOccurrences (xs ys : List α) : Prop where
  nodup : ys.Nodup
  mem_iff : ∀ x, x ∈ ys ↔ x ∈ xs
  ordered : ys.Pairwise fun x y => xs.idxOf x < xs.idxOf y

namespace FirstOccurrences

variable {xs ys zs : List α}

theorem nil : FirstOccurrences ([] : List α) [] := ⟨List.nodup_nil, by simp, .nil⟩

theorem unique (hy : FirstOccurrences xs ys) (hz : FirstOccurrences xs zs) : ys = zs := by
  have hperm : ys.Perm zs := (List.perm_ext_iff_of_nodup hy.nodup hz.nodup).2 fun x =>
    (hy.mem_iff x).trans (hz.mem_iff x).symm
  refine hperm.eq_of_pairwise (fun x y _ _ hxy hyx => ?_) hy.ordered hz.ordered
  omega

variable [LawfulBEq α]

/-- Values that are there have their first places before all that is added. -/
theorem ordered_append (h : FirstOccurrences xs ys) (zs : List α) :
    ys.Pairwise fun x y => (xs ++ zs).idxOf x < (xs ++ zs).idxOf y := by
  refine h.ordered.imp_of_mem fun {x y} hx hy hlt => ?_
  rwa [List.idxOf_append_of_mem ((h.mem_iff x).1 hx), List.idxOf_append_of_mem ((h.mem_iff y).1 hy)]

theorem old (h : FirstOccurrences xs ys) {x : α} (hx : x ∈ xs) :
    FirstOccurrences (xs ++ [x]) ys where
  nodup := h.nodup
  mem_iff y := by
    rw [h.mem_iff, List.mem_append, List.mem_singleton]
    exact ⟨Or.inl, fun hy => hy.elim id fun heq => heq ▸ hx⟩
  ordered := h.ordered_append [x]

theorem new (h : FirstOccurrences xs ys) {x : α} (hx : x ∉ xs) :
    FirstOccurrences (xs ++ [x]) (ys ++ [x]) where
  nodup := by
    rw [← List.concat_eq_append]
    exact h.nodup.concat (mt (h.mem_iff x).1 hx)
  mem_iff y := by rw [List.mem_append, List.mem_append, h.mem_iff]
  ordered := by
    refine List.pairwise_append.2 ⟨h.ordered_append [x], List.pairwise_singleton _ x, ?_⟩
    intro y hy z hz
    obtain rfl := List.mem_singleton.1 hz
    have hold : y ∈ xs := (h.mem_iff y).1 hy
    have hlt : xs.idxOf y < xs.length := List.idxOf_lt_length_iff.2 hold
    rw [List.idxOf_append_of_mem hold, List.idxOf_append_of_notMem hx]
    omega

end FirstOccurrences

variable [LawfulBEq α] [LawfulBEq β]

theorem eraseDups_append_singleton (xs : List α) (x : α) :
    (xs ++ [x]).eraseDups = xs.eraseDups ++ if x ∈ xs then [] else [x] := by
  rw [List.eraseDups_append]
  congr 1
  by_cases h : x ∈ xs <;> simp [List.removeAll, List.eraseDups_cons, h]

theorem firstOccurrences_eraseDups (xs : List α) : FirstOccurrences xs xs.eraseDups := by
  induction xs using List.reverseRecOn with
  | nil => exact .nil
  | append_singleton xs x ih =>
    rw [eraseDups_append_singleton]
    split
    · rename_i hx
      rw [List.append_nil]
      exact ih.old hx
    · rename_i hx
      exact ih.new hx

theorem firstOccurrences_iff {xs ys : List α} : FirstOccurrences xs ys ↔ ys = xs.eraseDups := by
  constructor
  · exact fun h => h.unique (firstOccurrences_eraseDups xs)
  · rintro rfl
    exact firstOccurrences_eraseDups xs

theorem nodup_eraseDups (xs : List α) : xs.eraseDups.Nodup := (firstOccurrences_eraseDups xs).nodup

theorem eraseDups_append_eq (xs ys : List α) :
    (xs ++ ys).eraseDups = xs.eraseDups ++ ys.eraseDups.filter (· ∉ xs) := by
  induction ys using List.reverseRecOn with
  | nil => simp
  | append_singleton ys y ih =>
    rw [← List.append_assoc, eraseDups_append_singleton, ih, eraseDups_append_singleton,
      List.filter_append, List.append_assoc]
    congr 2
    by_cases hx : y ∈ xs <;> by_cases hy : y ∈ ys <;> simp [hx, hy]

/-- What is made of each value is made of its first occurrence. -/
theorem eraseDups_flatMap_eraseDups (f : α → List β) (xs : List α) :
    (xs.eraseDups.flatMap f).eraseDups = (xs.flatMap f).eraseDups := by
  have hmem : ∀ (xs : List α) (y : β), y ∈ xs.eraseDups.flatMap f ↔ y ∈ xs.flatMap f := by
    intro xs y
    simp only [List.mem_flatMap, List.mem_eraseDups]
  induction xs using List.reverseRecOn with
  | nil => rfl
  | append_singleton xs x ih =>
    rw [eraseDups_append_singleton, List.flatMap_append, List.flatMap_append,
      List.flatMap_singleton, eraseDups_append_eq (xs.flatMap f)]
    split
    · -- all that is made of `x` has been made before
      rename_i hx
      have hnothing : (f x).eraseDups.filter (· ∉ xs.flatMap f) = [] := by
        refine List.filter_eq_nil_iff.2 fun y hy => ?_
        have hold : y ∈ xs.flatMap f := List.mem_flatMap.2 ⟨x, hx, List.mem_eraseDups.1 hy⟩
        simpa using hold
      rw [hnothing, List.flatMap_nil, List.append_nil, List.append_nil, ih]
    · rw [List.flatMap_singleton, eraseDups_append_eq, ih]
      simp only [hmem]

end SqlVocabulary
