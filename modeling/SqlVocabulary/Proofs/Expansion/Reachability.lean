import Mathlib.Data.List.Range
import SqlVocabulary.Proofs.Expansion.Ladder

/-!
# What the expansion of a rule reaches

An expansion that follows leading references says what it knows of the graph of its grammar. It
lists the outcomes of the rules that can be reached, and all of them unless a bound was met
(`expandRule_own`); it finds a loop exactly where there is one (`expandRule_cycle`); and it meets
the bound of the path exactly on a chain of as many different rules (`expandRule_tooDeep`).
-/

namespace SqlVocabulary

open Relation

/-! ## Expanding a rule -/

section Root

variable {g : Grammar} {p : Policy} {s : Nonterminal} {body : Text} {o : Outcome}
  (hp : p.followLeading = true) (hs : g.body? s = some body)

include hp hs

theorem exists_trail_of_mem_expand (ho : o ∈ (expand body g p [s]).outcomes)
    (hne : ∀ n, o ≠ .stopped n) :
    ∃ path m, Trail g s path m ∧ path.length < maxDepth ∧ Yields g p path m o := by
  rcases mem_outcomes_freeExpand ho with ⟨n, hn⟩ | ho
  · exact absurd hn (hne n)
  · exact (mem_freeExpand_iff hp hs).1 ho

theorem mem_expand_of_trail (hstop : ∀ n, .stopped n ∉ (expand body g p [s]).outcomes)
    {path : List Nonterminal} {m : Nonterminal} (ht : Trail g s path m)
    (hl : path.length < maxDepth) (ho : Yields g p path m o) :
    o ∈ (expand body g p [s]).outcomes := by
  rw [expand_eq_freeExpand hstop]
  exact (mem_freeExpand_iff hp hs).2 ⟨path, m, ht, hl, ho⟩

/-- Where no bound is met, every trail fits on a path. -/
theorem length_lt_of_trail (hstop : ∀ n, .stopped n ∉ (expand body g p [s]).outcomes)
    (hdeep : ∀ n, .tooDeep n ∉ (expand body g p [s]).outcomes) {path : List Nonterminal}
    {m : Nonterminal} (ht : Trail g s path m) : path.length < maxDepth := by
  by_contra hl
  obtain ⟨path', m', n, ht', hl', hmn, hn⟩ := ht.exists_full (Nat.le_of_not_lt hl)
  exact hdeep n (mem_expand_of_trail hp hs hstop ht' (by omega)
    (.tooDeep hmn hn (by rw [List.length_cons]; omega)))

end Root

/-! ## Coverage -/

/-- **Coverage.** The literals, the suppressed and the undefined references that a rule expands to
belong to the rules that can be reached from it. If no bound was met, nothing of these rules is
missing. -/
theorem expandRule_own (g : Grammar) (selector : Text) (p : Policy)
    (hp : p.followLeading = true) (hs : g.defines selector = true) :
    ∃ e, (g.expandRule selector p).result = .ok e ∧
      (∀ o ∈ e.outcomes,
        ((∃ t, o = .literal t) ∨ (∃ n, o = .suppressed n) ∨ ∃ n, o = .undefined n) →
          ∃ r, ReflTransGen (Leads g) (.ofText selector) r ∧ Own g p r o) ∧
      ((∀ n, .tooDeep n ∉ e.outcomes) → (∀ n, .stopped n ∉ e.outcomes) →
        ∀ r, ReflTransGen (Leads g) (.ofText selector) r → ∀ o, Own g p r o → o ∈ e.outcomes) := by
  obtain ⟨body, hs⟩ := Grammar.defines_iff.1 hs
  refine ⟨_, expandRule_result p hs, ?_, ?_⟩
  · intro o ho hkind
    have hne : ∀ n, o ≠ .stopped n := by
      rintro n rfl
      simp at hkind
    obtain ⟨path, m, ht, -, hy⟩ := exists_trail_of_mem_expand hp hs ho hne
    cases hy with
    | own h => exact ⟨m, ht.reachable, h⟩
    | cycle => simp at hkind
    | tooDeep => simp at hkind
  · intro hdeep hstop r hr o ho
    obtain ⟨path, ht⟩ := exists_trail hr
    exact mem_expand_of_trail hp hs hstop ht (length_lt_of_trail hp hs hstop hdeep ht) (.own ho)

/-- Two rules that lead to each other, each with a word of its own. -/
def seesaw : Grammar :=
  ⟨[⟨.ofText ['A'], "<B> | X".toList⟩, ⟨.ofText ['B'], "<A> | Y".toList⟩], []⟩

theorem seesaw_leads :
    Leads seesaw (.ofText ['A']) (.ofText ['B']) ∧ Leads seesaw (.ofText ['B']) (.ofText ['A']) :=
  ⟨⟨_, rfl, ⟨by decide +kernel, "<B>".toList, by decide +kernel⟩, by decide, by decide +kernel⟩,
    ⟨_, rfl, ⟨by decide +kernel, "<A>".toList, by decide +kernel⟩, by decide, by decide +kernel⟩⟩

theorem seesaw_outcomes {e : Expansion}
    (he : (seesaw.expandRule ['A'] .statements).result = .ok e) :
    e.outcomes = [.cycle (.ofText ['A']), .literal ['Y'], .literal ['X']] := by
  have hs : seesaw.body? (.ofText ['A']) = some "<B> | X".toList := rfl
  rw [expandRule_result .statements hs] at he
  obtain rfl := Except.ok.inj he
  decide +kernel

theorem expandRule_own_seesaw :
    (Policy.statements.followLeading = true ∧ seesaw.defines ['A'] = true) ∧
      ∃ e, (seesaw.expandRule ['A'] .statements).result = .ok e ∧
        Own seesaw .statements (.ofText ['B']) (.literal ['Y']) ∧ .literal ['Y'] ∈ e.outcomes := by
  refine ⟨⟨rfl, by decide⟩, ?_⟩
  obtain ⟨e, he, -, hall⟩ := expandRule_own seesaw ['A'] .statements rfl (by decide)
  have hown : Own seesaw .statements (.ofText ['B']) (.literal ['Y']) :=
    .literal rfl (.alternative (by decide +kernel) (by decide +kernel) (by decide)
      (by decide +kernel))
  exact ⟨e, he, hown, hall (by simp [seesaw_outcomes he]) (by simp [seesaw_outcomes he]) _
    (.single seesaw_leads.1) _ hown⟩

/-! ## Loops -/

/-- If the rules at the ends of trails lead off the trails alone, then a trail grows on whatever its
end leads to. -/
theorem Trail.extend {g : Grammar} {s : Nonterminal}
    (hopen : ∀ path m n, Trail g s path m → Leads g m n → n ∉ m :: path)
    {path : List Nonterminal} {m n : Nonterminal} (ht : Trail g s path m)
    (hmn : TransGen (Leads g) m n) : ∃ path', Trail g s path' n ∧ m ∈ path' := by
  induction hmn with
  | single hmn => exact ⟨m :: path, .step ht hmn (hopen _ _ _ ht hmn), List.mem_cons_self⟩
  | tail _ hab ih =>
    obtain ⟨path', ht', hm⟩ := ih
    exact ⟨_, .step ht' hab (hopen _ _ _ ht' hab), List.mem_cons_of_mem _ hm⟩

/-- **First repeat.** A walk into a loop comes to a trail whose end leads back to the trail. -/
theorem exists_trail_back {g : Grammar} {s m : Nonterminal} (hsm : ReflTransGen (Leads g) s m)
    (hmm : TransGen (Leads g) m m) :
    ∃ path m' n, Trail g s path m' ∧ Leads g m' n ∧ n ∈ m' :: path := by
  by_contra hnone
  -- then a trail to `m` grows once around the loop, and has `m` on it twice
  have hopen : ∀ path m n, Trail g s path m → Leads g m n → n ∉ m :: path :=
    fun path m n ht hmn hn => hnone ⟨path, m, n, ht, hmn, hn⟩
  obtain ⟨path, ht⟩ := exists_trail hsm
  obtain ⟨path', ht', hm⟩ := ht.extend hopen hmm
  exact (List.nodup_cons.1 ht'.nodup).1 hm

/-- **Loops.** Every loop that is reported is one: its rule can be reached, and leads back to
itself. If no bound was met, a loop is reported if and only if there is one in reach. -/
theorem expandRule_cycle (g : Grammar) (selector : Text) (p : Policy)
    (hp : p.followLeading = true) (hs : g.defines selector = true) :
    ∃ e, (g.expandRule selector p).result = .ok e ∧
      (∀ n, .cycle n ∈ e.outcomes →
        ReflTransGen (Leads g) (.ofText selector) n ∧ TransGen (Leads g) n n) ∧
      ((∀ n, .tooDeep n ∉ e.outcomes) → (∀ n, .stopped n ∉ e.outcomes) →
        ((∃ n, .cycle n ∈ e.outcomes) ↔
          ∃ m, ReflTransGen (Leads g) (.ofText selector) m ∧ TransGen (Leads g) m m)) := by
  obtain ⟨body, hs⟩ := Grammar.defines_iff.1 hs
  have hsound : ∀ n, .cycle n ∈ (expand body g p [.ofText selector]).outcomes →
      ReflTransGen (Leads g) (.ofText selector) n ∧ TransGen (Leads g) n n := by
    intro n hn
    obtain ⟨path, m, ht, -, hy⟩ := exists_trail_of_mem_expand hp hs hn (by simp)
    cases hy with
    | own h => cases h
    | cycle hmn hmem =>
      exact ⟨ht.reachable.tail hmn, TransGen.tail' (ht.reachable_of_mem hmem) hmn⟩
  refine ⟨_, expandRule_result p hs, hsound, fun hdeep hstop => ⟨?_, ?_⟩⟩
  · rintro ⟨n, hn⟩
    exact ⟨n, hsound n hn⟩
  · rintro ⟨m, hsm, hmm⟩
    obtain ⟨path, m', n, ht, hmn, hmem⟩ := exists_trail_back hsm hmm
    exact ⟨n, mem_expand_of_trail hp hs hstop ht (length_lt_of_trail hp hs hstop hdeep ht)
      (.cycle hmn hmem)⟩

theorem expandRule_cycle_seesaw :
    (Policy.statements.followLeading = true ∧ seesaw.defines ['A'] = true) ∧
      ∃ e, (seesaw.expandRule ['A'] .statements).result = .ok e ∧
        (∃ n, .cycle n ∈ e.outcomes) ∧
        ∃ m, ReflTransGen (Leads seesaw) (.ofText ['A']) m ∧ TransGen (Leads seesaw) m m := by
  refine ⟨⟨rfl, by decide⟩, ?_⟩
  obtain ⟨e, he, -, hiff⟩ := expandRule_cycle seesaw ['A'] .statements rfl (by decide)
  have hloop : ∃ m, ReflTransGen (Leads seesaw) (.ofText ['A']) m ∧ TransGen (Leads seesaw) m m :=
    ⟨_, .refl, .tail (.single seesaw_leads.1) seesaw_leads.2⟩
  exact ⟨e, he, (hiff (by simp [seesaw_outcomes he]) (by simp [seesaw_outcomes he])).2 hloop, hloop⟩

/-! ## Depth -/

/-- As many different rules as there may be on a path, from `s` on, each of which leads to the next,
and one more, `n`, that the last of them leads to. -/
structure DeepChain (g : Grammar) (s n : Nonterminal) (chain : List Nonterminal) : Prop where
  length : chain.length = maxDepth
  starts : chain.head? = some s
  leads : (chain ++ [n]).IsChain (Leads g)
  distinct : (chain ++ [n]).Nodup

theorem deepChain_iff {g : Grammar} {s n : Nonterminal} {chain : List Nonterminal} :
    DeepChain g s n chain ↔ chain.length = maxDepth ∧ Trail g s chain.reverse n := by
  have hrev : n :: chain.reverse = (chain ++ [n]).reverse := by simp
  rw [Trail.iff_isChain, hrev, List.isChain_reverse, List.nodup_reverse, List.getLast?_reverse]
  constructor
  · rintro ⟨hlen, hhead, hchain, hnodup⟩
    exact ⟨hlen, hchain, hnodup, by simp [hhead]⟩
  · rintro ⟨hlen, hchain, hnodup, hhead⟩
    refine ⟨hlen, ?_, hchain, hnodup⟩
    cases chain with
    | nil => simp [maxDepth] at hlen
    | cons r chain => simpa using hhead

/-- **Depth.** The bound of the path is met exactly on the chains of different rules that do not fit
on a path, as long as the budget lasts. A grammar that has no more rules than fit on a path has no
such chain. -/
theorem expandRule_tooDeep (g : Grammar) (selector : Text) (p : Policy)
    (hp : p.followLeading = true) (hs : g.defines selector = true) :
    ∃ e, (g.expandRule selector p).result = .ok e ∧
      (∀ n, .tooDeep n ∈ e.outcomes → ∃ chain, DeepChain g (.ofText selector) n chain) ∧
      ((∀ m, .stopped m ∉ e.outcomes) →
        ∀ n chain, DeepChain g (.ofText selector) n chain → .tooDeep n ∈ e.outcomes) ∧
      (g.rules.length ≤ maxDepth → ∀ n, .tooDeep n ∉ e.outcomes) := by
  obtain ⟨body, hs⟩ := Grammar.defines_iff.1 hs
  have hsound : ∀ n, .tooDeep n ∈ (expand body g p [.ofText selector]).outcomes →
      ∃ chain, DeepChain g (.ofText selector) n chain := by
    intro n hn
    obtain ⟨path, m, ht, hl, hy⟩ := exists_trail_of_mem_expand hp hs hn (by simp)
    cases hy with
    | own h => cases h
    | tooDeep hmn hmem hfull =>
      rw [List.length_cons] at hfull
      refine ⟨(m :: path).reverse, deepChain_iff.2 ⟨?_, ?_⟩⟩
      · rw [List.length_reverse, List.length_cons]
        omega
      · rw [List.reverse_reverse]
        exact .step ht hmn hmem
  refine ⟨_, expandRule_result p hs, hsound, ?_, ?_⟩
  · intro hstop n chain hchain
    obtain ⟨hlen, ht⟩ := deepChain_iff.1 hchain
    rw [← List.length_reverse] at hlen
    generalize chain.reverse = path at hlen ht
    cases ht with
    | root => simp [maxDepth] at hlen
    | step ht hmn hmem =>
      rw [List.length_cons] at hlen
      exact mem_expand_of_trail hp hs hstop ht (by omega)
        (.tooDeep hmn hmem (by rw [List.length_cons]; omega))
  · intro hsize n hn
    obtain ⟨chain, hchain⟩ := hsound n hn
    obtain ⟨hlen, ht⟩ := deepChain_iff.1 hchain
    have hle := ht.length_le (by rw [hs]; rfl)
    rw [List.length_cons, List.length_reverse] at hle
    omega

theorem deepChain_ladder :
    DeepChain (ladder 1 (maxDepth + 1)) (.ofText (rung 0)) (.ofText (rung maxDepth))
      ((List.range maxDepth).map fun k => .ofText (rung k)) := by
  have hrungs : (List.range maxDepth).map (fun k => Nonterminal.ofText (rung k)) ++
      [.ofText (rung maxDepth)] =
        (List.range (maxDepth + 1)).map fun k => .ofText (rung k) := by
    rw [List.range_succ, List.map_append]
    rfl
  refine ⟨by simp, rfl, ?_, ?_⟩
  · rw [hrungs, List.isChain_map]
    refine (List.isChain_range_succ _ _).2 fun k hk => ?_
    exact leads_ladder Nat.one_ne_zero (Nat.succ_lt_succ hk)
  · rw [hrungs]
    exact List.nodup_range.map fun _ _ h => ofText_rung_inj.1 h

/-- The walk from the foot of that ladder meets the bound, and no other one. -/
theorem expandRule_tooDeep_ladder :
    (Policy.statements.followLeading = true ∧
      (ladder 1 (maxDepth + 1)).defines (rung 0) = true) ∧
      ∃ e, ((ladder 1 (maxDepth + 1)).expandRule (rung 0) .statements).result = .ok e ∧
        (∀ m, .stopped m ∉ e.outcomes) ∧ .tooDeep (.ofText (rung maxDepth)) ∈ e.outcomes := by
  have hfoot := body?_ladder 1 (k := 0) (Nat.succ_pos maxDepth)
  have hdefined : (ladder 1 (maxDepth + 1)).defines (rung 0) = true :=
    Grammar.defines_iff.2 ⟨_, hfoot⟩
  obtain ⟨e, he, -, hdeep, -⟩ :=
    expandRule_tooDeep (ladder 1 (maxDepth + 1)) (rung 0) .statements rfl hdefined
  have hstop : ∀ m, .stopped m ∉ e.outcomes := by
    intro m hm
    rw [expandRule_result .statements hfoot] at he
    obtain rfl := Except.ok.inj he
    have hlt := (stopped_mem_expand _ _ _ _).1 ⟨m, hm⟩
    rw [resolved_freeExpand_ladder (p := .statements) rfl Nat.one_ne_zero] at hlt
    exact absurd hlt (by decide +kernel)
  exact ⟨⟨rfl, hdefined⟩, e, he, hstop, hdeep hstop _ _ deepChain_ladder⟩

end SqlVocabulary
