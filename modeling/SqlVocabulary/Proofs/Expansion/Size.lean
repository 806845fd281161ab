import Mathlib.Data.List.MinMax
import SqlVocabulary.Proofs.Expansion.Budget
import SqlVocabulary.Proofs.Grammar.Lookup

/-!
# The size of an expansion

Every expansion ends, since a reference that is resolved takes room on its path. But references that
are not resolved cost nothing of the budget, and a body has as many of them as it likes, so the
budget alone does not bound what an expansion yields. Each of them stands in an alternative of its
own, though, in a body that the walk has come to by a reference that was resolved.

1. A body asks for no more than it has alternatives with something in them (`demand_read_le`), and
   for one text at least.
2. Each reference accounts for itself, and for the bodies that are come to from it
   (`productive_resolve_le`). So a body accounts for what it asks for and for those bodies
   (`productive_walkItems_le`).
3. So there are no more outcomes and resolved references together than the widest of the bodies has
   alternatives, times the number of bodies that are come to (`expand_size`).
-/

namespace SqlVocabulary

/-! ## Bodies -/

/-- The number of alternatives of a body that have something in them. -/
def width (body : Text) : Nat := (alternatives body).countP fun a => !a.isEmpty

/-- The greatest number of such alternatives in a body and in the rules of a grammar, and at least
one. -/
def Grammar.breadth (g : Grammar) (body : Text) : Nat :=
  max 1 (((body :: g.rules.map (·.body)).map width).foldr max 0)

theorem Grammar.one_le_breadth (g : Grammar) (body : Text) : 1 ≤ g.breadth body :=
  Nat.le_max_left _ _

theorem Grammar.width_le_breadth {g : Grammar} {body b : Text}
    (hb : b ∈ body :: g.rules.map (·.body)) : width b ≤ g.breadth body :=
  Nat.le_trans (List.le_max_of_le' 0 (List.mem_map_of_mem hb) (Nat.le_refl _))
    (Nat.le_max_right _ _)

def Item.isAsking : Item → Bool
  | .nothing => false
  | _ => true

def demand (items : List Item) : Nat := items.countP Item.isAsking

@[simp] theorem demand_cons_nothing (items : List Item) :
    demand (.nothing :: items) = demand items := List.countP_cons_of_neg (by simp [Item.isAsking])

@[simp] theorem demand_cons_yields (o : Outcome) (items : List Item) :
    demand (.yields o :: items) = demand items + 1 := List.countP_cons_of_pos rfl

@[simp] theorem demand_cons_follow (n : Nonterminal) (items : List Item) :
    demand (.follow n :: items) = demand items + 1 := List.countP_cons_of_pos rfl

theorem isAsking_readAlternative (p : Policy) (a : Text) :
    (p.readAlternative a).isAsking = !a.isEmpty := by
  unfold Policy.readAlternative
  split_ifs with hempty
  · rw [hempty]
    rfl
  all_goals rw [Bool.eq_false_iff.2 hempty]
  · cases leadingReference? a <;> rfl
  · rfl
  · rfl

/-- Every alternative with something in it asks for one thing, and a body that is a single text asks
for one thing whatever bars it holds. -/
theorem demand_read_le (p : Policy) (body : Text) : demand (p.read body) ≤ max 1 (width body) := by
  unfold Policy.read
  split_ifs
  · exact Nat.le_max_left _ _
  · have hwidth : demand ((alternatives body).map p.readAlternative) = width body := by
      unfold demand width
      rw [List.countP_map]
      exact List.countP_congr fun a _ => by simp [isAsking_readAlternative]
    rw [hwidth]
    exact Nat.le_max_right _ _

theorem demand_read_le_breadth (p : Policy) {g : Grammar} {body b : Text}
    (hb : b ∈ body :: g.rules.map (·.body)) : demand (p.read b) ≤ g.breadth body :=
  Nat.le_trans (demand_read_le p b)
    (Nat.max_le.2 ⟨g.one_le_breadth body, Grammar.width_le_breadth hb⟩)

/-! ## Walks -/

namespace Expansion

/-- The number of outcomes and of resolved references. -/
def productive (e : Expansion) : Nat := e.outcomes.length + e.resolved

@[simp] theorem productive_empty : empty.productive = 0 := rfl

@[simp] theorem productive_skipped : (ofEvent .skippedAlternative).productive = 0 := rfl

@[simp] theorem productive_ofOutcome (o : Outcome) : (ofOutcome o).productive = 1 := by
  simp [productive]

@[simp] theorem productive_expanding (n : Nonterminal) (d : Nat) :
    (ofEvent (.expanding n d)).productive = 1 := rfl

@[simp] theorem productive_append (e f : Expansion) :
    (e ++ f).productive = e.productive + f.productive := by
  simp only [productive, outcomes_append, List.length_append, resolved_append]
  omega

end Expansion

/-- A body accounts for what it asks for, and for the bodies come to from it, if each of its
references accounts for itself and for those. -/
theorem productive_walkItems_le {follow : Nonterminal → Budget → Expansion × Budget} {M : Nat}
    (h : ∀ n b, (follow n b).1.productive ≤ 1 + M * (follow n b).1.resolved) (items : List Item)
    (b : Budget) :
    (walkItems follow items b).1.productive ≤
      demand items + M * (walkItems follow items b).1.resolved := by
  induction items generalizing b with
  | nil => simp [walkItems]
  | cons i items ih =>
    have hrest := ih (walkItem follow i b).2
    simp only [walkItems, Expansion.productive_append, Expansion.resolved_append, Nat.mul_add]
    cases i with
    | nothing => simpa [walkItem] using hrest
    | yields o =>
      simp only [walkItem, Expansion.productive_ofOutcome, Expansion.resolved_ofOutcome,
        demand_cons_yields] at hrest ⊢
      omega
    | follow n =>
      have hfirst := h n b
      simp only [walkItem, demand_cons_follow] at hrest ⊢
      omega

theorem productive_resolve_le {g : Grammar} {p : Policy} {M : Nat}
    (hM : ∀ b ∈ g.rules.map (·.body), demand (p.read b) ≤ M) (room : Nat)
    (path : List Nonterminal) (n : Nonterminal) (b : Budget) :
    (resolve g p room path n b).1.productive ≤
      1 + M * (resolve g p room path n b).1.resolved := by
  refine resolve_induction
    (motive := fun _ _ _ _ r => r.1.productive ≤ 1 + M * r.1.resolved)
    ?spent ?turnsBack ?noRoom ?noBudget ?resolved room path n b
  case spent => exact fun _ _ _ => Nat.zero_le _
  case turnsBack =>
    intro room path n k o _
    simp
  case noRoom =>
    intro path n k body _
    simp
  case noBudget =>
    intro room path n body _
    simp
  case resolved =>
    intro room path n k body ht ih
    -- what the body asks for is paid for by the reference that led to it
    have hbody : demand (p.read body) ≤ M :=
      hM body (List.mem_map_of_mem (Grammar.mem_rules_of_body? (target_eq_ok.1 ht).2.1))
    have hwalk := productive_walkItems_le ih (p.read body) (.left k)
    simp only [Expansion.productive_append, Expansion.productive_expanding,
      Expansion.resolved_append, Expansion.resolved_expanding, Nat.mul_add, Nat.mul_one]
    omega

/-- **Size.** The outcomes and the resolved references of an expansion are together no more than
the widest body has alternatives, times the number of bodies that are come to: the first one, and
one for each of the references. So there is a bound on the outcomes that the budget and the widest
body give. -/
theorem expand_size (body : Text) (g : Grammar) (p : Policy) (path : List Nonterminal) :
    (expand body g p path).outcomes.length + (expand body g p path).resolved ≤
        g.breadth body * (1 + (expand body g p path).resolved) ∧
      (expand body g p path).outcomes.length ≤ (maxReferences + 1) * g.breadth body := by
  have hwidth : ∀ b ∈ g.rules.map (·.body), demand (p.read b) ≤ g.breadth body :=
    fun b hb => demand_read_le_breadth p (List.mem_cons_of_mem body hb)
  have hwalk := productive_walkItems_le
    (productive_resolve_le hwidth (maxDepth - path.eraseDups.length) path.eraseDups)
    (p.read body) (.left maxReferences)
  have hbody : demand (p.read body) ≤ g.breadth body :=
    demand_read_le_breadth p List.mem_cons_self
  have hsize : (expand body g p path).outcomes.length + (expand body g p path).resolved ≤
      g.breadth body * (1 + (expand body g p path).resolved) := by
    rw [Nat.mul_add, Nat.mul_one]
    exact Nat.le_trans hwalk (Nat.add_le_add_right hbody _)
  have hresolved := resolved_expand_le body g p path
  refine ⟨hsize, ?_⟩
  calc (expand body g p path).outcomes.length
      ≤ (expand body g p path).outcomes.length + (expand body g p path).resolved :=
        Nat.le_add_right _ _
    _ ≤ g.breadth body * (1 + (expand body g p path).resolved) := hsize
    _ ≤ g.breadth body * (1 + maxReferences) :=
        Nat.mul_le_mul_left _ (Nat.add_le_add_left hresolved 1)
    _ = (maxReferences + 1) * g.breadth body := by rw [Nat.mul_comm, Nat.add_comm 1]

/-- A bound that is met, by references that are not resolved. -/
example : (expand "<a> | <a> | X".toList .empty .statements []).outcomes.length =
    Grammar.empty.breadth "<a> | <a> | X".toList := by
  decide +kernel

end SqlVocabulary
