import SqlVocabulary.Proofs.Expansion.FreeWalk

/-!
# The budget of a walk

The walk with a budget agrees with the free walk up to the first reference that finds the budget
spent. From there on it goes back through the bodies on its path, and of what is still to come in
them it keeps the texts alone.

1. `Curtails` says this of one stretch of both walks, with the budget before and after it. It holds
   of two stretches one after the other when it holds of each (`Curtails.append`).
2. It holds of every reference and of every body (`resolve_curtails`, `walkBody_curtails`), by
   induction on the room.
3. So an expansion is the free one if the budget suffices, and else a beginning of the free one, one
   mark, and some of the literals that are still to come (`expand_budgeted`).
-/

namespace SqlVocabulary

/-! ## Counting references -/

def Event.isExpanding : Event → Bool
  | .expanding _ _ => true
  | _ => false

theorem countP_events_outcome (o : Outcome) : o.events.countP Event.isExpanding = 0 := by
  cases o <;> rfl

namespace Expansion

/-- The number of references that an expansion resolves. -/
def resolved (e : Expansion) : Nat := e.events.countP Event.isExpanding

@[simp] theorem resolved_append (e f : Expansion) :
    (e ++ f).resolved = e.resolved + f.resolved := List.countP_append

@[simp] theorem resolved_ofOutcome (o : Outcome) : (ofOutcome o).resolved = 0 :=
  countP_events_outcome o

@[simp] theorem resolved_expanding (n : Nonterminal) (d : Nat) :
    (ofEvent (.expanding n d)).resolved = 1 := rfl

@[simp] theorem resolved_skipped : (ofEvent .skippedAlternative).resolved = 0 := rfl

theorem resolved_concat_replicate (e : Expansion) (k : Nat) :
    (concat (List.replicate k e)).resolved = k * e.resolved := by
  induction k with
  | zero => exact (Nat.zero_mul _).symm
  | succ k ih =>
    rw [List.replicate_succ, concat_cons, resolved_append, ih, Nat.succ_mul, Nat.add_comm]

end Expansion

/-! ## Walks that stop -/

/-- What is left of an expansion when no reference is resolved any more. -/
structure Remains (free e : Expansion) : Prop where
  outcomes : e.outcomes.Sublist free.outcomes
  literal : ∀ o ∈ e.outcomes, ∃ t, o = .literal t
  resolved : e.resolved = 0

namespace Remains

variable {free free₁ free₂ e e₁ e₂ : Expansion}

theorem empty (free : Expansion) : Remains free .empty := ⟨List.nil_sublist _, by simp, rfl⟩

theorem append (h₁ : Remains free₁ e₁) (h₂ : Remains free₂ e₂) :
    Remains (free₁ ++ free₂) (e₁ ++ e₂) := by
  refine ⟨h₁.outcomes.append h₂.outcomes, fun o ho => ?_, by simp [h₁.resolved, h₂.resolved]⟩
  rcases List.mem_append.1 ho with ho | ho
  · exact h₁.literal o ho
  · exact h₂.literal o ho

theorem literals (h : Remains free e) : e.literals.Sublist free.literals :=
  h.outcomes.filterMap Outcome.literal?

end Remains

/-- `Curtails b free e b'`: where the free walk comes to `free`, a walk that comes with the budget
`b` comes to `e` and leaves with `b'`. -/
inductive Curtails : Budget → Expansion → Expansion → Budget → Prop where
  /-- The budget suffices. -/
  | whole (free : Expansion) (k : Nat) : Curtails (.left (k + free.resolved)) free free (.left k)
  /-- One of the references finds the budget spent. -/
  | cut (before : Expansion) (n : Nonterminal) (d : Nat) {free after : Expansion}
      (h : Remains free after) :
      Curtails (.left before.resolved) (before ++ (.ofEvent (.expanding n d) ++ free))
        (before ++ (.ofOutcome (.stopped n) ++ after)) .spent
  /-- A reference has found the budget spent before. -/
  | spent {free after : Expansion} (h : Remains free after) : Curtails .spent free after .spent

namespace Curtails

/-- **Composition.** Two stretches of a walk, one after the other. -/
theorem append {b₁ b₂ b₃ : Budget} {free₁ free₂ e₁ e₂ : Expansion}
    (h₁ : Curtails b₁ free₁ e₁ b₂) (h₂ : Curtails b₂ free₂ e₂ b₃) :
    Curtails b₁ (free₁ ++ free₂) (e₁ ++ e₂) b₃ := by
  cases h₁ with
  | whole _ k =>
    cases h₂ with
    | whole _ k =>
      have := Curtails.whole (free₁ ++ free₂) k
      rwa [Expansion.resolved_append, Nat.add_comm free₁.resolved, ← Nat.add_assoc] at this
    | cut before n d h =>
      have := Curtails.cut (free₁ ++ before) n d h
      rwa [Expansion.resolved_append, Nat.add_comm, Expansion.append_assoc,
        Expansion.append_assoc] at this
  | cut before n d h =>
    cases h₂ with
    | spent h' =>
      simp only [Expansion.append_assoc]
      exact .cut before n d (h.append h')
  | spent h =>
    cases h₂ with
    | spent h' => exact .spent (h.append h')

theorem of_resolved_eq_zero {free : Expansion} (h : free.resolved = 0) (k : Nat) :
    Curtails (.left k) free free (.left k) := by
  have := Curtails.whole free k
  rwa [h] at this

/-- What a body comes to on its own is there with any budget. -/
theorem plain {e : Expansion} (h : Remains e e) (b : Budget) : Curtails b e e b := by
  cases b with
  | left k => exact of_resolved_eq_zero h.resolved k
  | spent => exact .spent h

theorem cases_left {k : Nat} {b : Budget} {free e : Expansion} (h : Curtails (.left k) free e b) :
    (free.resolved ≤ k ∧ e = free) ∨
      ∃ before n d rest after, before.resolved = k ∧
        free = before ++ (.ofEvent (.expanding n d) ++ rest) ∧
        e = before ++ (.ofOutcome (.stopped n) ++ after) ∧ Remains rest after := by
  cases h with
  | whole _ k => exact Or.inl ⟨Nat.le_add_left _ _, rfl⟩
  | cut before n d h => exact Or.inr ⟨before, n, d, _, _, rfl, rfl, rfl, h⟩

end Curtails

/-- The items of a body, when each reference is curtailed and all else is literal. -/
theorem walkItems_curtails {follow : Nonterminal → Budget → Expansion × Budget}
    {free : Nonterminal → Expansion}
    (h : ∀ n b, Curtails b (free n) (follow n b).1 (follow n b).2) (items : List Item)
    (hlit : ∀ o, .yields o ∈ items → ∃ t, o = .literal t) (b : Budget) :
    Curtails b (freeItems free items) (walkItems follow items b).1
      (walkItems follow items b).2 := by
  induction items generalizing b with
  | nil => exact .plain (.empty _) b
  | cons i items ih =>
    have hfirst : Curtails b (freeItem free i) (walkItem follow i b).1 (walkItem follow i b).2 := by
      cases i with
      | nothing => exact .plain ⟨List.Sublist.refl _, by simp [freeItem], rfl⟩ b
      | yields o =>
        obtain ⟨t, rfl⟩ := hlit o List.mem_cons_self
        exact .plain ⟨List.Sublist.refl _, by simp [freeItem], rfl⟩ b
      | follow n => exact h n b
    exact hfirst.append (ih (fun o ho => hlit o (List.mem_cons_of_mem i ho)) _)

theorem resolve_curtails {g : Grammar} {p : Policy} (hp : p.followLeading = true) (room : Nat)
    (path : List Nonterminal) (n : Nonterminal) (b : Budget) :
    Curtails b (freeResolve g p room path n) (resolve g p room path n b).1
      (resolve g p room path n b).2 := by
  refine resolve_induction
    (motive := fun room path n b r => Curtails b (freeResolve g p room path n) r.1 r.2)
    ?spent ?turnsBack ?noRoom ?noBudget ?resolved room path n b
  case spent => exact fun _ _ _ => .spent (.empty _)
  case turnsBack =>
    intro room path n k o ht
    rw [freeResolve_of_target_error ht]
    exact .of_resolved_eq_zero (Expansion.resolved_ofOutcome o) k
  case noRoom =>
    intro path n k body ht
    rw [freeResolve_of_no_room ht]
    exact .of_resolved_eq_zero (Expansion.resolved_ofOutcome _) k
  case noBudget =>
    intro room path n body ht
    rw [freeResolve_of_target ht]
    -- all of the free walk beyond this reference is lost
    exact .cut .empty n path.length (.empty _)
  case resolved =>
    intro room path n k body ht ih
    rw [freeResolve_of_target ht]
    have hentry := Curtails.whole (.ofEvent (.expanding n path.length)) k
    exact hentry.append (walkItems_curtails ih (p.read body) (literal_of_yields_mem_read hp) _)

theorem walkItems_of_no_follow (follow : Nonterminal → Budget → Expansion × Budget)
    (free : Nonterminal → Expansion) {items : List Item} (h : ∀ n, .follow n ∉ items)
    (b : Budget) :
    walkItems follow items b = (freeItems free items, b) ∧ (freeItems free items).resolved = 0 := by
  induction items with
  | nil => exact ⟨rfl, rfl⟩
  | cons i items ih =>
    obtain ⟨hwalk, hzero⟩ := ih fun n hn => h n (List.mem_cons_of_mem i hn)
    cases i with
    | nothing => exact ⟨by simp [walkItems, walkItem, freeItem, hwalk], by simp [freeItem, hzero]⟩
    | yields o => exact ⟨by simp [walkItems, walkItem, freeItem, hwalk], by simp [freeItem, hzero]⟩
    | follow n => exact absurd List.mem_cons_self (h n)

/-- **The walk from a body.** Under every policy it is its free walk, curtailed by the budget. -/
theorem walkBody_curtails (g : Grammar) (p : Policy) (path : List Nonterminal) (body : Text) :
    ∃ b, Curtails (.left maxReferences) (freeWalk g p path body) (walkBody g p path body) b := by
  unfold freeWalk walkBody
  cases hp : p.followLeading with
  | true =>
    exact ⟨_, walkItems_curtails (resolve_curtails hp _ path) (p.read body)
      (literal_of_yields_mem_read hp) _⟩
  | false =>
    obtain ⟨hwalk, hzero⟩ := walkItems_of_no_follow
      (resolve g p (maxDepth - path.length) path) (freeResolve g p (maxDepth - path.length) path)
      (follow_not_mem_read hp body) (.left maxReferences)
    rw [hwalk]
    exact ⟨_, .of_resolved_eq_zero hzero _⟩

/-! ## Expansions -/

/-- An expansion is free, or it is stopped at the first reference beyond its budget. -/
theorem expand_cases (body : Text) (g : Grammar) (p : Policy) (path : List Nonterminal) :
    ((freeExpand body g p path).resolved ≤ maxReferences ∧
      expand body g p path = freeExpand body g p path) ∨
    ∃ before n d rest after, before.resolved = maxReferences ∧
      freeExpand body g p path = before ++ (.ofEvent (.expanding n d) ++ rest) ∧
      expand body g p path = before ++ (.ofOutcome (.stopped n) ++ after) ∧
      Remains rest after := by
  obtain ⟨b, h⟩ := walkBody_curtails g p path.eraseDups body
  exact h.cases_left

section Expansions

variable {body : Text} {g : Grammar} {p : Policy} {path : List Nonterminal}

theorem expand_eq_freeExpand (h : ∀ n, .stopped n ∉ (expand body g p path).outcomes) :
    expand body g p path = freeExpand body g p path := by
  rcases expand_cases body g p path with ⟨-, heq⟩ | ⟨before, n, d, rest, after, -, -, heq, -⟩
  · exact heq
  · refine absurd ?_ (h n)
    rw [heq]
    simp

/-- Stopped or not, an expansion has no outcome but the mark that the free one has not. -/
theorem mem_outcomes_freeExpand {o : Outcome} (ho : o ∈ (expand body g p path).outcomes) :
    (∃ n, o = .stopped n) ∨ o ∈ (freeExpand body g p path).outcomes := by
  rcases expand_cases body g p path with ⟨-, heq⟩ | ⟨before, n, d, rest, after, -, hfree, heq, hrem⟩
  · exact Or.inr (heq ▸ ho)
  · rw [heq] at ho
    rw [hfree]
    rcases List.mem_append.1 ho with ho | ho
    · exact Or.inr (List.mem_append_left _ ho)
    · rcases List.mem_cons.1 ho with ho | ho
      · exact Or.inl ⟨n, ho⟩
      · exact Or.inr (List.mem_append_right _ (hrem.outcomes.subset ho))

end Expansions

theorem resolved_expand (body : Text) (g : Grammar) (p : Policy) (path : List Nonterminal) :
    (expand body g p path).resolved =
      min (freeExpand body g p path).resolved maxReferences := by
  rcases expand_cases body g p path with
    ⟨hle, heq⟩ | ⟨before, n, d, rest, after, hk, hfree, heq, hrem⟩
  · rw [heq, Nat.min_eq_left hle]
  · rw [hfree, heq]
    simp only [Expansion.resolved_append, Expansion.resolved_expanding,
      Expansion.resolved_ofOutcome, hrem.resolved]
    omega

theorem resolved_expand_le (body : Text) (g : Grammar) (p : Policy) (path : List Nonterminal) :
    (expand body g p path).resolved ≤ maxReferences := by
  rw [resolved_expand]
  exact Nat.min_le_right _ _

/-- An expansion is stopped if and only if the free one has more references than the budget. -/
theorem stopped_mem_expand (body : Text) (g : Grammar) (p : Policy) (path : List Nonterminal) :
    (∃ n, .stopped n ∈ (expand body g p path).outcomes) ↔
      maxReferences < (freeExpand body g p path).resolved := by
  rcases expand_cases body g p path with
    ⟨hle, heq⟩ | ⟨before, n, d, rest, after, hk, hfree, heq, -⟩
  · rw [heq]
    constructor
    · rintro ⟨n, hn⟩
      exact absurd hn (stopped_not_mem_freeExpand body g p path n)
    · intro hlt
      omega
  · rw [hfree, heq]
    constructor
    · intro _
      simp only [Expansion.resolved_append, Expansion.resolved_expanding]
      omega
    · intro _
      exact ⟨n, by simp⟩

theorem resolved_freeExpand_le {body : Text} {g : Grammar} {p : Policy} {path : List Nonterminal}
    (h : ∀ n, .stopped n ∉ (expand body g p path).outcomes) :
    (freeExpand body g p path).resolved ≤ maxReferences := by
  refine Nat.le_of_not_lt fun hlt => ?_
  obtain ⟨n, hn⟩ := (stopped_mem_expand body g p path).2 hlt
  exact h n hn

theorem expand_eq_freeExpand_of_le {body : Text} {g : Grammar} {p : Policy}
    {path : List Nonterminal} (h : (freeExpand body g p path).resolved ≤ maxReferences) :
    expand body g p path = freeExpand body g p path := by
  refine expand_eq_freeExpand fun n hn => ?_
  exact absurd h (Nat.not_le.2 ((stopped_mem_expand body g p path).1 ⟨n, hn⟩))

/-- **The budget.** An expansion whose references fit into the budget is the free one. Any other
resolves as many references as the budget holds and bears one mark: a beginning of the free outcomes
stands before it and literals alone after it, and all its literals are literals of the free
expansion in their order. -/
theorem expand_budgeted (body : Text) (g : Grammar) (p : Policy) (path : List Nonterminal) :
    ((freeExpand body g p path).resolved ≤ maxReferences →
      expand body g p path = freeExpand body g p path ∧
        ∀ n, .stopped n ∉ (expand body g p path).outcomes) ∧
    (maxReferences < (freeExpand body g p path).resolved →
      (expand body g p path).resolved = maxReferences ∧
        ∃ before n after,
          (expand body g p path).outcomes = before ++ .stopped n :: after ∧
          (∀ m, .stopped m ∉ before) ∧
          before <+: (freeExpand body g p path).outcomes ∧
          (∀ o ∈ after, ∃ t, o = .literal t) ∧
          (expand body g p path).literals.Sublist (freeExpand body g p path).literals) := by
  have hfree := stopped_not_mem_freeExpand body g p path
  rcases expand_cases body g p path with
    ⟨hle, heq⟩ | ⟨before, n, d, rest, after, hk, hfree', heq, hrem⟩
  · exact ⟨fun _ => ⟨heq, fun n => heq ▸ hfree n⟩, fun hlt => by omega⟩
  · rw [hfree'] at hfree ⊢
    rw [heq]
    constructor
    · intro hle
      simp only [Expansion.resolved_append, Expansion.resolved_expanding] at hle
      omega
    · intro _
      refine ⟨by simp [hk, hrem.resolved], before.outcomes, n, after.outcomes, rfl, ?_, by simp,
        hrem.literal, ?_⟩
      · intro m hm
        exact hfree m (List.mem_append_left _ hm)
      · simpa [Expansion.literals, Outcome.literal?, List.filterMap_cons] using hrem.literals

end SqlVocabulary
