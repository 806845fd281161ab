import Mathlib.Data.List.Chain
import Mathlib.Data.List.Nodup
import Mathlib.Data.List.Perm.Subperm
import Mathlib.Logic.Relation
import SqlVocabulary.Proofs.Expansion.FreeWalk
import SqlVocabulary.Proofs.Grammar.Lookup

/-!
# Trails

The rules of a grammar form a graph: one leads to another if its body refers to it and a walk could
go on there (`Leads`). A trail is a path of different rules in this graph. A rule that can be
reached at all can be reached by a trail (`exists_trail`).

The free walk from a rule makes every trail from it that is no longer than a path may be, and no
other. What it yields is what the rules at the ends of these trails yield there
(`mem_freeExpand_iff`).
-/

namespace SqlVocabulary

open Relation

/-! ## The graph of a grammar -/

/-- A rule leads to another one if its body refers to it, and it is defined and not left to
implementors. -/
def Leads (g : Grammar) (m n : Nonterminal) : Prop :=
  ∃ body, g.body? m = some body ∧ RefersTo body n ∧ (g.body? n).isSome ∧ n.isPlaceholder = false

/-- The outcomes that a rule has of its own, wherever it stands. -/
inductive Own (g : Grammar) (p : Policy) (r : Nonterminal) : Outcome → Prop where
  | literal {body t : Text} (hb : g.body? r = some body) (ht : Spells p body t) :
      Own g p r (.literal t)
  | suppressed {body : Text} {n : Nonterminal} (hb : g.body? r = some body)
      (hn : RefersTo body n) (h : n.isPlaceholder = true) : Own g p r (.suppressed n)
  | undefined {body : Text} {n : Nonterminal} (hb : g.body? r = some body)
      (hn : RefersTo body n) (h : n.isPlaceholder = false) (hu : g.body? n = none) :
      Own g p r (.undefined n)

section Body

variable {g : Grammar} {p : Policy} {m : Nonterminal} {body : Text} (hb : g.body? m = some body)

include hb

theorem leads_iff {n : Nonterminal} :
    Leads g m n ↔ RefersTo body n ∧ (g.body? n).isSome ∧ n.isPlaceholder = false := by
  unfold Leads
  rw [hb]
  constructor
  · rintro ⟨_, ⟨⟩, h⟩
    exact h
  · intro h
    exact ⟨body, rfl, h⟩

theorem own_iff {o : Outcome} :
    Own g p m o ↔
      (∃ t, Spells p body t ∧ o = .literal t) ∨
      ∃ n, RefersTo body n ∧
        (n.isPlaceholder = true ∧ o = .suppressed n ∨
          n.isPlaceholder = false ∧ g.body? n = none ∧ o = .undefined n) := by
  constructor
  · rintro (⟨hb', ht⟩ | ⟨hb', hn, h⟩ | ⟨hb', hn, h, hu⟩) <;>
      obtain rfl := Option.some.inj (hb.symm.trans hb')
    · exact Or.inl ⟨_, ht, rfl⟩
    · exact Or.inr ⟨_, hn, Or.inl ⟨h, rfl⟩⟩
    · exact Or.inr ⟨_, hn, Or.inr ⟨h, hu, rfl⟩⟩
  · rintro (⟨t, ht, rfl⟩ | ⟨n, hn, ⟨h, rfl⟩ | ⟨h, hu, rfl⟩⟩)
    · exact .literal hb ht
    · exact .suppressed hb hn h
    · exact .undefined hb hn h hu

end Body

/-- `Trail g s path m`: the rules of `path`, last one first, are on the way from `s` to `m`, and
they and `m` are all different. -/
inductive Trail (g : Grammar) (s : Nonterminal) : List Nonterminal → Nonterminal → Prop where
  | root : Trail g s [] s
  | step {path : List Nonterminal} {m n : Nonterminal} (h : Trail g s path m) (hmn : Leads g m n)
      (hn : n ∉ m :: path) : Trail g s (m :: path) n

namespace Trail

variable {g : Grammar} {s m : Nonterminal} {path : List Nonterminal}

theorem nodup (h : Trail g s path m) : (m :: path).Nodup := by
  induction h with
  | root => simp
  | step _ _ hn ih => exact List.nodup_cons.2 ⟨hn, ih⟩

theorem reachable (h : Trail g s path m) : ReflTransGen (Leads g) s m := by
  induction h with
  | root => exact .refl
  | step _ hmn _ ih => exact ih.tail hmn

theorem isSome_body (h : Trail g s path m) (hs : (g.body? s).isSome) : (g.body? m).isSome := by
  cases h with
  | root => exact hs
  | step _ hmn _ =>
    obtain ⟨-, -, -, hd, -⟩ := hmn
    exact hd

theorem reachable_of_mem (h : Trail g s path m) {x : Nonterminal} (hx : x ∈ m :: path) :
    ReflTransGen (Leads g) x m := by
  induction h with
  | root =>
    rw [List.mem_singleton.1 hx]
  | step _ hmn _ ih =>
    rcases List.mem_cons.1 hx with rfl | hx
    · exact .refl
    · exact (ih hx).tail hmn

/-- A trail can be cut off at each of its rules. -/
theorem exists_of_mem (h : Trail g s path m) {x : Nonterminal} (hx : x ∈ m :: path) :
    ∃ path', Trail g s path' x := by
  induction h with
  | root =>
    rw [List.mem_singleton.1 hx]
    exact ⟨[], .root⟩
  | step h hmn hn ih =>
    rcases List.mem_cons.1 hx with rfl | hx
    · exact ⟨_, .step h hmn hn⟩
    · exact ih hx

theorem length_le (h : Trail g s path m) (hs : (g.body? s).isSome) :
    (m :: path).length ≤ g.rules.length := by
  have hsub : m :: path ⊆ g.rules.map (·.name) := by
    intro x hx
    obtain ⟨path', h'⟩ := h.exists_of_mem hx
    exact Grammar.mem_names_of_isSome (h'.isSome_body hs)
  have hle := (List.subperm_of_subset h.nodup hsub).length_le
  rwa [List.length_map] at hle

/-- A trail that is too long for a path leads on from a path that is full. -/
theorem exists_full (h : Trail g s path m) (hl : maxDepth ≤ path.length) :
    ∃ path' m' n, Trail g s path' m' ∧ path'.length + 1 = maxDepth ∧ Leads g m' n ∧
      n ∉ m' :: path' := by
  induction h with
  | root => exact absurd hl (by decide)
  | @step path m n h hmn hn ih =>
    -- the last step is one too many, or the trail was too long before it
    by_cases hlong : maxDepth ≤ path.length
    · exact ih hlong
    · rw [List.length_cons] at hl
      exact ⟨path, m, n, h, by omega, hmn, hn⟩

theorem isChain (h : Trail g s path m) : (m :: path).IsChain (fun a b => Leads g b a) := by
  induction h with
  | root => exact List.isChain_singleton s
  | step _ hmn _ ih => exact List.isChain_cons_cons.2 ⟨hmn, ih⟩

theorem getLast?_eq (h : Trail g s path m) : (m :: path).getLast? = some s := by
  induction h with
  | root => rfl
  | step _ _ _ ih => rwa [List.getLast?_cons_cons]

/-- A trail, read from its end, is a chain of rules that are all different. -/
theorem iff_isChain :
    Trail g s path m ↔
      (m :: path).IsChain (fun a b => Leads g b a) ∧ (m :: path).Nodup ∧
        (m :: path).getLast? = some s := by
  constructor
  · intro h
    exact ⟨h.isChain, h.nodup, h.getLast?_eq⟩
  · rintro ⟨hchain, hnodup, hlast⟩
    induction path generalizing m with
    | nil =>
      obtain rfl : m = s := by simpa using hlast
      exact .root
    | cons b path ih =>
      obtain ⟨hbm, hchain⟩ := List.isChain_cons_cons.1 hchain
      obtain ⟨hm, hnodup⟩ := List.nodup_cons.1 hnodup
      rw [List.getLast?_cons_cons] at hlast
      exact .step (ih hchain hnodup hlast) hbm hm

end Trail

/-- **Cutting loops.** Whatever can be reached can be reached by a trail. -/
theorem exists_trail {g : Grammar} {s m : Nonterminal} (h : ReflTransGen (Leads g) s m) :
    ∃ path, Trail g s path m := by
  induction h with
  | refl => exact ⟨[], .root⟩
  | @tail m n _ hmn ih =>
    obtain ⟨path, h⟩ := ih
    -- a rule that comes up again is reached by the beginning of the trail
    by_cases hn : n ∈ m :: path
    · exact h.exists_of_mem hn
    · exact ⟨_, .step h hmn hn⟩

/-! ## The free walk along trails -/

/-- What a rule yields at the end of a path of other rules. -/
inductive Yields (g : Grammar) (p : Policy) (path : List Nonterminal) (m : Nonterminal) :
    Outcome → Prop where
  | own {o : Outcome} (h : Own g p m o) : Yields g p path m o
  | cycle {n : Nonterminal} (h : Leads g m n) (hn : n ∈ m :: path) : Yields g p path m (.cycle n)
  | tooDeep {n : Nonterminal} (h : Leads g m n) (hn : n ∉ m :: path)
      (hl : maxDepth ≤ (m :: path).length) : Yields g p path m (.tooDeep n)

section FreeWalk

variable {g : Grammar} {p : Policy} {s : Nonterminal} {o : Outcome} (hp : p.followLeading = true)

include hp

/-- One step along a trail: the free walk from a body yields what its rule yields there, and what it
yields from the rules that this one leads to. -/
theorem mem_freeWalk_iff {path : List Nonterminal} {m : Nonterminal} {body : Text}
    (hb : g.body? m = some body) :
    o ∈ (freeWalk g p (m :: path) body).outcomes ↔
      Yields g p path m o ∨ ∃ n b, Leads g m n ∧ n ∉ m :: path ∧ (m :: path).length < maxDepth ∧
        g.body? n = some b ∧ o ∈ (freeWalk g p (n :: m :: path) b).outcomes := by
  rw [mem_freeWalk]
  simp only [yields_mem_read hp, follow_mem_read hp, leads_iff hb]
  constructor
  · rintro (ho | ⟨n, hn, ht | ⟨b, ht, ⟨hl, rfl⟩ | ⟨hl, ho⟩⟩⟩)
    · exact Or.inl (.own ((own_iff hb).2 (Or.inl ho)))
    · rcases target_eq_error.1 ht with h | h | ⟨hi, hd, hmem, rfl⟩
      · exact Or.inl (.own ((own_iff hb).2 (Or.inr ⟨n, hn, Or.inl h⟩)))
      · exact Or.inl (.own ((own_iff hb).2 (Or.inr ⟨n, hn, Or.inr h⟩)))
      · exact Or.inl (.cycle ((leads_iff hb).2 ⟨hn, hd, hi⟩) hmem)
    · obtain ⟨hi, hd, hmem⟩ := target_eq_ok.1 ht
      exact Or.inl (.tooDeep ((leads_iff hb).2 ⟨hn, by rw [hd]; rfl, hi⟩) hmem hl)
    · obtain ⟨hi, hd, hmem⟩ := target_eq_ok.1 ht
      exact Or.inr ⟨n, b, ⟨hn, by rw [hd]; rfl, hi⟩, hmem, hl, hd, ho⟩
  · rintro ((h | ⟨h, hmem⟩ | ⟨h, hmem, hl⟩) | ⟨n, b, ⟨hn, -, hi⟩, hmem, hl, hd, ho⟩)
    · rcases (own_iff hb).1 h with ho | ⟨n, hn, h | h⟩
      · exact Or.inl ho
      · exact Or.inr ⟨n, hn, Or.inl (target_eq_error.2 (Or.inl h))⟩
      · exact Or.inr ⟨n, hn, Or.inl (target_eq_error.2 (Or.inr (Or.inl h)))⟩
    · obtain ⟨hn, hd, hi⟩ := (leads_iff hb).1 h
      exact Or.inr ⟨_, hn, Or.inl (target_eq_error.2 (Or.inr (Or.inr ⟨hi, hd, hmem, rfl⟩)))⟩
    · obtain ⟨hn, hd, hi⟩ := (leads_iff hb).1 h
      obtain ⟨b, hd⟩ := Option.isSome_iff_exists.1 hd
      exact Or.inr ⟨_, hn, Or.inr ⟨b, target_eq_ok.2 ⟨hi, hd, hmem⟩, Or.inl ⟨hl, rfl⟩⟩⟩
    · exact Or.inr ⟨n, hn, Or.inr ⟨b, target_eq_ok.2 ⟨hi, hd, hmem⟩, Or.inr ⟨hl, ho⟩⟩⟩

theorem exists_trail_of_mem_freeWalk {path : List Nonterminal} {m : Nonterminal} {body : Text}
    (ht : Trail g s path m) (hl : path.length < maxDepth) (hb : g.body? m = some body)
    (ho : o ∈ (freeWalk g p (m :: path) body).outcomes) :
    ∃ path' m', Trail g s path' m' ∧ path'.length < maxDepth ∧ Yields g p path' m' o := by
  rcases (mem_freeWalk_iff hp hb).1 ho with h | ⟨n, b, hmn, hn, hl', hb', ho'⟩
  · exact ⟨path, m, ht, hl, h⟩
  · exact exists_trail_of_mem_freeWalk (.step ht hmn hn) hl' hb' ho'
termination_by maxDepth - path.length
decreasing_by rw [List.length_cons]; omega

/-- The free walk from the root of a trail goes through the free walk at its end. -/
theorem mem_freeWalk_of_trail {path : List Nonterminal} {m : Nonterminal}
    {root body : Text} (hs : g.body? s = some root) (ht : Trail g s path m)
    (hl : path.length < maxDepth) (hb : g.body? m = some body)
    (ho : o ∈ (freeWalk g p (m :: path) body).outcomes) : o ∈ (freeWalk g p [s] root).outcomes := by
  induction ht generalizing body with
  | root =>
    obtain rfl := Option.some.inj (hs.symm.trans hb)
    exact ho
  | @step path m n _ hmn hn ih =>
    have ⟨body', hb', _⟩ := hmn
    rw [List.length_cons] at hl
    refine ih (by omega) hb' ((mem_freeWalk_iff hp hb').2 (Or.inr ?_))
    exact ⟨n, body, hmn, hn, hl, hb, ho⟩

/-- **The outcomes along trails.** A free expansion yields what the rules at the ends of its trails
yield there. -/
theorem mem_freeExpand_iff {body : Text} (hs : g.body? s = some body) :
    o ∈ (freeExpand body g p [s]).outcomes ↔
      ∃ path m, Trail g s path m ∧ path.length < maxDepth ∧ Yields g p path m o := by
  constructor
  · intro ho
    exact exists_trail_of_mem_freeWalk hp .root (by decide) hs ho
  · rintro ⟨path, m, ht, hl, ho⟩
    obtain ⟨b, hb⟩ := Option.isSome_iff_exists.1 (ht.isSome_body (by rw [hs]; rfl))
    exact mem_freeWalk_of_trail hp hs ht hl hb ((mem_freeWalk_iff hp hb).2 (Or.inl ho))

end FreeWalk

end SqlVocabulary
