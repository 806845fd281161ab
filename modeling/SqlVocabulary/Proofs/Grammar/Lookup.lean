import Mathlib.Data.List.Nodup
import Mathlib.Data.List.Perm.Subperm
import SqlVocabulary.Grammar.Basic

/-!
# Looking rules up

A name in collapsed form is found as it stands exactly when its nonterminal is defined, so the two
ways in which a rule is looked up come to one (`get?_eq_body?`).

Where every name stands once, the order of the rules does not matter: a rule is found if and only if
it is there (`body?_eq_some_iff`), and grammars that are the same up to order have the same rules
(`mem_rules_of_same`).
-/

namespace SqlVocabulary

theorem Nonterminal.eq_of_name_eq {m n : Nonterminal} (h : m.name = n.name) : m = n := by
  cases m
  cases n
  cases h
  rfl

theorem Nonterminal.ofText_name (n : Nonterminal) : .ofText n.name = n :=
  eq_of_name_eq n.collapsed

namespace Grammar

theorem get?_eq_body? (g : Grammar) (t : Text) : g.get? t = g.body? (.ofText t) := by
  unfold get?
  split
  · rename_i r hr
    have hname : r.name.name = t := by simpa using List.find?_some hr
    have hpred : (fun q : Rule => q.name == Nonterminal.ofText t) =
        fun q => q.name.name == t := by
      funext q
      rw [← hname, r.name.ofText_name, Bool.eq_iff_iff, beq_iff_eq, beq_iff_eq]
      exact ⟨congrArg Nonterminal.name, Nonterminal.eq_of_name_eq⟩
    rw [body?, hpred, hr]
    rfl
  · rfl

theorem defines_iff {g : Grammar} {t : Text} :
    g.defines t = true ↔ ∃ body, g.body? (.ofText t) = some body := by
  rw [defines, get?_eq_body?, Option.isSome_iff_exists]

theorem mem_names_of_isSome {g : Grammar} {n : Nonterminal} (h : (g.body? n).isSome) :
    n ∈ g.rules.map (·.name) := by
  obtain ⟨r, hr, hn⟩ : ∃ r ∈ g.rules, r.name = n := by simpa [body?] using h
  exact List.mem_map.2 ⟨r, hr, hn⟩

theorem isSome_body?_iff {g : Grammar} {n : Nonterminal} :
    (g.body? n).isSome ↔ n ∈ g.rules.map (·.name) := by
  refine ⟨mem_names_of_isSome, fun h => ?_⟩
  obtain ⟨r, hr, rfl⟩ := List.mem_map.1 h
  unfold body?
  rw [Option.isSome_map, List.find?_isSome]
  exact ⟨r, hr, by simp⟩

theorem body?_define (g : Grammar) (n : Nonterminal) (body : Text) :
    (g.define n body).1.body? n = some body := by
  unfold define
  split
  · rename_i hknown
    have hpred : (fun r : Rule => r.name == n) ∘
        (fun r => if r.name = n then { r with body := body } else r) = fun r => r.name == n := by
      funext r
      by_cases hr : r.name = n <;> simp [hr]
    obtain ⟨r, hr⟩ : ∃ r, g.rules.find? (fun r => r.name == n) = some r := by
      simpa [body?, Option.isSome_iff_exists] using hknown
    have hname : r.name = n := by simpa using List.find?_some hr
    unfold body? replaceBody
    rw [List.find?_map, hpred, hr, Option.map_some, Option.map_some, if_pos hname]
  · rename_i hnew
    have hnone : g.rules.find? (fun r => r.name == n) = none := by simpa [body?] using hnew
    simp [body?, List.find?_append, hnone]

/-! ## Rules with different names -/

/-- No name stands twice. -/
def Distinct (g : Grammar) : Prop := (g.rules.map (·.name)).Nodup

theorem mem_rules_of_body? {g : Grammar} {n : Nonterminal} {body : Text}
    (h : g.body? n = some body) : ⟨n, body⟩ ∈ g.rules := by
  obtain ⟨r, hr, rfl⟩ := Option.map_eq_some_iff.1 h
  obtain rfl : r.name = n := by simpa using List.find?_some hr
  exact List.mem_of_find?_eq_some hr

theorem body?_eq_some_iff {g : Grammar} (hg : g.Distinct) {n : Nonterminal} {body : Text} :
    g.body? n = some body ↔ ⟨n, body⟩ ∈ g.rules := by
  refine ⟨mem_rules_of_body?, fun h => ?_⟩
  obtain ⟨body', hb⟩ : ∃ body', g.body? n = some body' :=
    Option.isSome_iff_exists.1 (isSome_body?_iff.2 (List.mem_map_of_mem h))
  have heq := List.inj_on_of_nodup_map hg (mem_rules_of_body? hb) h rfl
  rw [hb]
  exact congrArg (fun r => some r.body) heq

/-- Grammars that are the same up to the order of their rules have the same rules. -/
theorem mem_rules_of_same {g h : Grammar} (hg : g.Distinct) (hh : h.Distinct)
    (hsame : g.same h = true) (r : Rule) : r ∈ g.rules ↔ r ∈ h.rules := by
  unfold same at hsame
  simp only [Bool.and_eq_true, beq_iff_eq, List.all_eq_true] at hsame
  obtain ⟨⟨hlen, hall⟩, -⟩ := hsame
  have hsub : g.rules ⊆ h.rules := fun r hr => (body?_eq_some_iff hh).1 (hall r hr)
  -- as many different rules as there are in the other grammar are all of them
  have hperm := (List.subperm_of_subset hg.of_map hsub).perm_of_length_le (Nat.le_of_eq hlen.symm)
  exact hperm.mem_iff

end Grammar

end SqlVocabulary
