import Mathlib.Data.Set.Card
import Mathlib.Data.List.Nodup
import SqlVocabulary.Proofs.Expansion.Reachability

/-!
# Routes

A route from a rule is a sequence of alternatives, each given by its number in the body that it
stands in: the first leads from the rule to another one, the second leads on from there, and so on
(`Route`). Alternatives with the same text are different steps, so a trail may be the way of many
routes.

1. The free walk resolves one reference for every route that visits no rule twice and fits on a
   path. `onward` lists these routes in the order of the walk (`entries_freeResolve`,
   `mem_onward`, `nodup_onward`).
2. So the references that the expansion of a rule resolves are counted by the routes, up to the
   budget (`expandRule_routes`).
-/

namespace SqlVocabulary

/-! ## Routes of a grammar -/

/-- The alternative with number `i` of a rule leads to another rule: it is led by a reference to
that rule, in a body that some reference leads, and a walk could go on there. -/
def LeadsAt (g : Grammar) (m : Nonterminal) (i : Nat) (n : Nonterminal) : Prop :=
  ∃ body a, g.body? m = some body ∧ (leadingReference? body).isSome ∧
    (alternatives body)[i]? = some a ∧ leadingReference? a = some n ∧
    (g.body? n).isSome ∧ n.isPlaceholder = false

/-- `Route g m steps visited`: the alternatives `steps` lead, one after the other, from `m` to the
rules `visited`. -/
inductive Route (g : Grammar) : Nonterminal → List Nat → List Nonterminal → Prop where
  | stay (m : Nonterminal) : Route g m [] []
  | step {m n : Nonterminal} {i : Nat} {steps : List Nat} {visited : List Nonterminal}
      (h : LeadsAt g m i n) (hr : Route g n steps visited) :
      Route g m (i :: steps) (n :: visited)

/-- The routes of one step or more from a rule on which that rule and those visited are all
different, and no more than there may be on a path. -/
def simpleRoutes (g : Grammar) (s : Nonterminal) : Set (List Nat) :=
  {steps | steps ≠ [] ∧ ∃ visited, Route g s steps visited ∧
    (s :: visited).Nodup ∧ (s :: visited).length ≤ maxDepth}

/-- Different rules that are not on a path, and no more than there is room for. -/
structure Fits (room : Nat) (path visited : List Nonterminal) : Prop where
  nodup : visited.Nodup
  fresh : ∀ n ∈ visited, n ∉ path
  length_le : visited.length ≤ room

theorem fits_nil (room : Nat) (path : List Nonterminal) : Fits room path [] :=
  ⟨List.nodup_nil, by simp, Nat.zero_le room⟩

theorem fits_cons {room : Nat} {path visited : List Nonterminal} {n : Nonterminal} :
    Fits (room + 1) path (n :: visited) ↔ n ∉ path ∧ Fits room (n :: path) visited := by
  constructor
  · rintro ⟨hnodup, hfresh, hlen⟩
    obtain ⟨hn, hnodup⟩ := List.nodup_cons.1 hnodup
    obtain ⟨hpath, hfresh⟩ := List.forall_mem_cons.1 hfresh
    refine ⟨hpath, hnodup, fun x hx hmem => ?_, Nat.le_of_succ_le_succ hlen⟩
    rcases List.mem_cons.1 hmem with rfl | hmem
    · exact hn hx
    · exact hfresh x hx hmem
  · rintro ⟨hpath, hnodup, hfresh, hlen⟩
    refine ⟨List.nodup_cons.2 ⟨fun hn => hfresh n hn List.mem_cons_self, hnodup⟩,
      List.forall_mem_cons.2 ⟨hpath, fun x hx hmem => ?_⟩, Nat.succ_le_succ hlen⟩
    exact hfresh x hx (List.mem_cons_of_mem n hmem)

theorem mem_simpleRoutes {g : Grammar} {s : Nonterminal} {steps : List Nat} :
    steps ∈ simpleRoutes g s ↔
      steps ≠ [] ∧ ∃ visited, Route g s steps visited ∧ Fits (maxDepth - 1) [s] visited := by
  have hfits : ∀ visited, Fits (maxDepth - 1) [s] visited ↔
      (s :: visited).Nodup ∧ (s :: visited).length ≤ maxDepth := by
    intro visited
    have hroot : Fits (maxDepth - 1 + 1) [] (s :: visited) ↔ Fits (maxDepth - 1) [s] visited := by
      rw [fits_cons]
      simp
    rw [← hroot]
    exact ⟨fun h => ⟨h.nodup, h.length_le⟩, fun h => ⟨h.1, by simp, h.2⟩⟩
  simp only [hfits]
  rfl

/-! ## Routes in the order of the walk -/

/-- The routes that begin with one item of a body, where `onward` gives the ways to go on at a
reference. -/
def Item.routes (onward : Nonterminal → List (List Nat)) : Item × Nat → List (List Nat)
  | (.follow n, i) => (onward n).map (i :: ·)
  | (.nothing, _) | (.yields _, _) => []

/-- The routes that go on from a reference on a path that has room for so many more rules: none if
the reference cannot be resolved. -/
def onward (g : Grammar) (p : Policy) :
    (room : Nat) → (path : List Nonterminal) → Nonterminal → List (List Nat)
  | 0, _, _ => []
  | room + 1, path, n =>
    match g.target path n with
    | .error _ => []
    | .ok body =>
      [] :: (p.read body).zipIdx.flatMap (Item.routes (onward g p room (n :: path)))

/-- One reference is resolved for every route, if that is so at each reference of a body. -/
theorem resolved_freeItems {follow : Nonterminal → Expansion}
    {onward : Nonterminal → List (List Nat)} (h : ∀ n, (follow n).resolved = (onward n).length)
    (items : List Item) (k : Nat) :
    (freeItems follow items).resolved =
      ((items.zipIdx k).flatMap (Item.routes onward)).length := by
  induction items generalizing k with
  | nil => rfl
  | cons i items ih =>
    rw [freeItems_cons, Expansion.resolved_append, ih (k + 1), List.zipIdx_cons,
      List.flatMap_cons, List.length_append]
    congr 1
    cases i with
    | nothing => rfl
    | yields o => exact Expansion.resolved_ofOutcome o
    | follow n => simp [freeItem, Item.routes, h n]

theorem resolved_freeResolve (g : Grammar) (p : Policy) (room : Nat) (path : List Nonterminal)
    (n : Nonterminal) :
    (freeResolve g p room path n).resolved = (onward g p room path n).length := by
  induction room generalizing path n with
  | zero =>
    rcases ht : g.target path n with o | body
    · rw [freeResolve_of_target_error ht]
      exact Expansion.resolved_ofOutcome o
    · rw [freeResolve_of_no_room ht]
      rfl
  | succ room ih =>
    rcases ht : g.target path n with o | body
    · rw [freeResolve_of_target_error ht]
      simp [onward, ht]
    · rw [freeResolve_of_target ht, Expansion.resolved_append, Expansion.resolved_expanding,
        resolved_freeItems (ih (n :: path)) _ 0]
      simp [onward, ht, Nat.add_comm]

theorem mem_flatMap_routes {onward : Nonterminal → List (List Nat)} {items : List Item}
    {steps : List Nat} :
    steps ∈ items.zipIdx.flatMap (Item.routes onward) ↔
      ∃ i n rest, items[i]? = some (.follow n) ∧ rest ∈ onward n ∧ steps = i :: rest := by
  rw [List.mem_flatMap]
  constructor
  · rintro ⟨⟨item, i⟩, hi, hsteps⟩
    rw [List.mem_zipIdx_iff_getElem?] at hi
    cases item with
    | nothing => simp [Item.routes] at hsteps
    | yields o => simp [Item.routes] at hsteps
    | follow n =>
      obtain ⟨rest, hrest, rfl⟩ := List.mem_map.1 hsteps
      exact ⟨i, n, rest, hi, hrest, rfl⟩
  · rintro ⟨i, n, rest, hi, hrest, rfl⟩
    exact ⟨(.follow n, i), List.mem_zipIdx_iff_getElem?.2 hi, List.mem_map.2 ⟨rest, hrest, rfl⟩⟩

/-- Routes that begin with different alternatives are different. -/
theorem nodup_flatMap_routes {onward : Nonterminal → List (List Nat)}
    (h : ∀ n, (onward n).Nodup) (items : List Item) :
    (items.zipIdx.flatMap (Item.routes onward)).Nodup := by
  have hhead : ∀ {x : Item × Nat} {steps : List Nat}, steps ∈ Item.routes onward x →
      steps.head? = some x.2 := by
    rintro ⟨item, i⟩ steps hsteps
    cases item with
    | nothing => simp [Item.routes] at hsteps
    | yields o => simp [Item.routes] at hsteps
    | follow n =>
      obtain ⟨rest, -, rfl⟩ := List.mem_map.1 hsteps
      rfl
  refine List.nodup_flatMap.2 ⟨?_, ?_⟩
  · rintro ⟨item, i⟩ -
    cases item with
    | nothing => exact List.nodup_nil
    | yields o => exact List.nodup_nil
    | follow n => exact (h n).map List.cons_injective
  · have hindex : (items.zipIdx.map Prod.snd).Nodup := by
      rw [List.zipIdx_map_snd]
      exact List.nodup_range'
    refine (List.pairwise_map.1 hindex).imp fun hne => ?_
    refine List.disjoint_left.2 fun steps hx hy => hne ?_
    exact Option.some.inj ((hhead hx).symm.trans (hhead hy))

theorem nodup_onward (g : Grammar) (p : Policy) (room : Nat) (path : List Nonterminal)
    (n : Nonterminal) : (onward g p room path n).Nodup := by
  induction room generalizing path n with
  | zero => exact List.nodup_nil
  | succ room ih =>
    rcases ht : g.target path n with o | body
    · simp [onward, ht]
    · simp only [onward, ht]
      refine List.nodup_cons.2 ⟨fun hnil => ?_, nodup_flatMap_routes (ih (n :: path)) _⟩
      obtain ⟨i, m, rest, -, -, hsteps⟩ := mem_flatMap_routes.1 hnil
      cases hsteps

section Following

variable {g : Grammar} {p : Policy} (hp : p.followLeading = true)

include hp

theorem leadsAt_iff {m n : Nonterminal} {body : Text} (hb : g.body? m = some body) {i : Nat} :
    LeadsAt g m i n ↔
      (p.read body)[i]? = some (.follow n) ∧ (g.body? n).isSome ∧ n.isPlaceholder = false := by
  unfold LeadsAt
  rw [hb]
  rcases hl : leadingReference? body with _ | r
  · rw [read_of_not_led hp hl]
    constructor
    · rintro ⟨_, a, ⟨⟩, hled, -⟩
      simp [hl] at hled
    · rintro ⟨hi, -⟩
      cases i <;> simp at hi
  · rw [read_of_led (by rw [hl]; rfl), List.getElem?_map, Option.map_eq_some_iff]
    simp only [readAlternative_eq_follow hp]
    constructor
    · rintro ⟨_, a, ⟨⟩, -, ha, hn, hd, hi⟩
      have hne : a ≠ [] := by
        rintro rfl
        cases hn
      exact ⟨⟨a, ha, hne, hn⟩, hd, hi⟩
    · rintro ⟨⟨a, ha, -, hn⟩, hd, hi⟩
      exact ⟨body, a, rfl, by rw [hl]; rfl, ha, hn, hd, hi⟩

/-- A reference can be resolved where its rule fits on the path, and then the walk goes on along the
routes that fit behind it. -/
theorem mem_onward {room : Nat} {path : List Nonterminal} {n : Nonterminal} {steps : List Nat} :
    steps ∈ onward g p room path n ↔
      (g.body? n).isSome ∧ n.isPlaceholder = false ∧
        ∃ visited, Route g n steps visited ∧ Fits room path (n :: visited) := by
  induction room generalizing path n steps with
  | zero =>
    constructor
    · intro h
      cases h
    · rintro ⟨-, -, visited, -, hfits⟩
      exact absurd hfits.length_le (by simp)
  | succ room ih =>
    simp only [fits_cons]
    rcases ht : g.target path n with o | body
    · simp only [onward, ht]
      constructor
      · intro h
        cases h
      · rintro ⟨hd, hi, visited, -, hmem, -⟩
        obtain ⟨body, hd⟩ := Option.isSome_iff_exists.1 hd
        rw [target_eq_ok.2 ⟨hi, hd, hmem⟩] at ht
        cases ht
    · obtain ⟨hi, hd, hmem⟩ := target_eq_ok.1 ht
      simp only [onward, ht, List.mem_cons, mem_flatMap_routes, ih]
      constructor
      · rintro (rfl | ⟨i, m, rest, hread, ⟨hdm, him, visited, hr, hfits⟩, rfl⟩)
        · exact ⟨by rw [hd]; rfl, hi, [], .stay n, hmem, fits_nil _ _⟩
        · have hstep := (leadsAt_iff hp hd).2 ⟨hread, hdm, him⟩
          exact ⟨by rw [hd]; rfl, hi, m :: visited, .step hstep hr, hmem, hfits⟩
      · rintro ⟨-, -, visited, hr, -, hfits⟩
        cases hr with
        | stay => exact Or.inl rfl
        | @step _ m i rest visited hstep hr =>
          obtain ⟨hread, hdm, him⟩ := (leadsAt_iff hp hd).1 hstep
          exact Or.inr ⟨i, m, rest, hread, ⟨hdm, him, visited, hr, hfits⟩, rfl⟩

theorem mem_simpleRoutes_iff {s : Nonterminal} {body : Text} (hs : g.body? s = some body)
    {steps : List Nat} :
    steps ∈ simpleRoutes g s ↔
      steps ∈ (p.read body).zipIdx.flatMap (Item.routes (onward g p (maxDepth - 1) [s])) := by
  simp only [mem_simpleRoutes, mem_flatMap_routes, mem_onward hp]
  constructor
  · rintro ⟨hne, visited, hr, hfits⟩
    cases hr with
    | stay => exact absurd rfl hne
    | @step _ n i rest visited hstep hr =>
      obtain ⟨hread, hd, hi⟩ := (leadsAt_iff hp hs).1 hstep
      exact ⟨i, n, rest, hread, ⟨hd, hi, visited, hr, hfits⟩, rfl⟩
  · rintro ⟨i, n, rest, hread, ⟨hd, hi, visited, hr, hfits⟩, rfl⟩
    exact ⟨List.cons_ne_nil _ _, n :: visited, .step ((leadsAt_iff hp hs).2 ⟨hread, hd, hi⟩) hr,
      hfits⟩

/-- **Counting.** There are finitely many simple routes, and the free walk resolves a reference for
each of them. -/
theorem resolved_freeExpand {s : Nonterminal} {body : Text} (hs : g.body? s = some body) :
    (simpleRoutes g s).Finite ∧ (freeExpand body g p [s]).resolved = (simpleRoutes g s).ncard := by
  have hset : simpleRoutes g s =
      ((p.read body).zipIdx.flatMap (Item.routes (onward g p (maxDepth - 1) [s]))).toFinset := by
    ext steps
    rw [mem_simpleRoutes_iff hp hs]
    simp
  have hresolved : (freeExpand body g p [s]).resolved =
      ((p.read body).zipIdx.flatMap (Item.routes (onward g p (maxDepth - 1) [s]))).length :=
    resolved_freeItems (resolved_freeResolve g p (maxDepth - 1) [s]) _ 0
  rw [hset]
  refine ⟨Finset.finite_toSet _, ?_⟩
  rw [hresolved, Set.ncard_coe_finset,
    List.toFinset_card_of_nodup (nodup_flatMap_routes (nodup_onward g p (maxDepth - 1) [s]) _)]

end Following

/-! ## The budget of an expansion -/

theorem expandRule_events {g : Grammar} {selector body : Text} (p : Policy)
    (hs : g.body? (.ofText selector) = some body) :
    (g.expandRule selector p).events = (expand body g p [.ofText selector]).events := by
  unfold Grammar.expandRule Grammar.expandNonterminal
  rw [hs]
  exact List.append_nil _

/-- **The budget counts routes.** The references that the expansion of a rule resolves are as many
as the simple routes from it, up to the budget, and the expansion is stopped if and only if there
are more routes than that. -/
theorem expandRule_routes (g : Grammar) (selector : Text) (p : Policy)
    (hp : p.followLeading = true) (hs : g.defines selector = true) :
    (simpleRoutes g (.ofText selector)).Finite ∧
      (g.expandRule selector p).events.countP Event.isExpanding =
        min (simpleRoutes g (.ofText selector)).ncard maxReferences ∧
      ∃ e, (g.expandRule selector p).result = .ok e ∧
        ((∃ n, .stopped n ∈ e.outcomes) ↔
          maxReferences < (simpleRoutes g (.ofText selector)).ncard) := by
  obtain ⟨body, hs⟩ := Grammar.defines_iff.1 hs
  obtain ⟨hfin, hcount⟩ := resolved_freeExpand hp hs
  rw [← hcount]
  refine ⟨hfin, ?_, _, expandRule_result p hs, stopped_mem_expand body g p _⟩
  rw [expandRule_events p hs]
  exact resolved_expand body g p _

/-- A rule that leads to another one twice, and that one back to it and on to a third. -/
def fork : Grammar :=
  ⟨[⟨.ofText ['A'], "<B> | <B>".toList⟩, ⟨.ofText ['B'], "<A> | <C>".toList⟩,
    ⟨.ofText ['C'], "Z".toList⟩], []⟩

/-- The routes of a ladder with fifteen rungs are more than the budget, since each step has two
alternatives. -/
theorem ncard_simpleRoutes_ladder :
    (simpleRoutes (ladder 2 15) (.ofText (rung 0))).ncard = 32766 := by
  have hfoot := body?_ladder 2 (k := 0) (Nat.succ_pos 14)
  rw [← (resolved_freeExpand (p := .statements) rfl hfoot).2,
    resolved_freeExpand_ladder (p := .statements) rfl (Nat.succ_ne_zero 1)]
  decide +kernel

/-- On the fork each of the two alternatives is a route, and so is each with the step that follows.
These four do not meet the budget, but the routes of the ladder do. -/
theorem expandRule_routes_fork_ladder :
    (Policy.statements.followLeading = true ∧ fork.defines ['A'] = true ∧
      (ladder 2 15).defines (rung 0) = true) ∧
    ((simpleRoutes fork (.ofText ['A'])).ncard = 4 ∧
      ∃ e, (fork.expandRule ['A'] .statements).result = .ok e ∧ ∀ n, .stopped n ∉ e.outcomes) ∧
    ((ladder 2 15).expandRule (rung 0) .statements).events.countP Event.isExpanding =
      maxReferences ∧
    ∃ e, ((ladder 2 15).expandRule (rung 0) .statements).result = .ok e ∧
      ∃ n, .stopped n ∈ e.outcomes := by
  have hfoot : (ladder 2 15).defines (rung 0) = true :=
    Grammar.defines_iff.2 ⟨_, body?_ladder 2 (Nat.succ_pos 14)⟩
  refine ⟨⟨rfl, by decide, hfoot⟩, ?_, ?_⟩
  · obtain ⟨-, hcount, e, he, hstop⟩ := expandRule_routes fork ['A'] .statements rfl (by decide)
    have hfour : (fork.expandRule ['A'] .statements).events.countP Event.isExpanding = 4 := by
      decide +kernel
    have hroutes : (simpleRoutes fork (.ofText ['A'])).ncard = 4 := by
      rw [hfour, maxReferences] at hcount
      omega
    refine ⟨hroutes, e, he, fun n hn => ?_⟩
    have hlt := hstop.1 ⟨n, hn⟩
    rw [hroutes, maxReferences] at hlt
    omega
  · obtain ⟨-, hcount, e, he, hstop⟩ :=
      expandRule_routes (ladder 2 15) (rung 0) .statements rfl hfoot
    rw [ncard_simpleRoutes_ladder] at hcount hstop
    exact ⟨hcount, e, he, hstop.2 (by decide)⟩

end SqlVocabulary
