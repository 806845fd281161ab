import Mathlib.Tactic.SplitIfs
import SqlVocabulary.Expansion.Walk

/-!
# What a walk reads

A walk looks at two things. From a body it reads the texts that the body spells out and the rules
that it refers to (`yields_mem_read`, `follow_mem_read`). At a reference it finds the body of the
rule, or the outcome that the reference yields where it stands (`Grammar.target`). The walk itself
adds the room on the path and the budget (`resolve_of_target`), so what is to be shown of a walk is
shown case by case of these (`resolve_induction`).
-/

namespace SqlVocabulary

/-! ## Bodies -/

/-- A body refers to a rule if some reference leads the body, and one to that rule leads an
alternative of it. -/
def RefersTo (body : Text) (n : Nonterminal) : Prop :=
  (leadingReference? body).isSome ∧ ∃ a ∈ alternatives body, a ≠ [] ∧ leadingReference? a = some n

/-- The texts that a body spells out. A reference that does not lead is part of the text. -/
inductive Spells (p : Policy) (body : Text) : Text → Prop where
  /-- The body as a whole. -/
  | whole (h : leadingReference? body = none) : Spells p body body.collapse
  /-- One alternative of it. -/
  | alternative {a : Text} (h : (leadingReference? body).isSome) (ha : a ∈ alternatives body)
      (hne : a ≠ []) (hl : leadingReference? a = none) : Spells p body (p.layout.apply a)

section Following

variable {p : Policy} (hp : p.followLeading = true)

include hp

theorem readAlternative_of_some {a : Text} {n : Nonterminal} (hne : a ≠ [])
    (hl : leadingReference? a = some n) : p.readAlternative a = .follow n := by
  simp [Policy.readAlternative, hne, hp, hl]

theorem readAlternative_of_none {a : Text} (hne : a ≠ []) (hl : leadingReference? a = none) :
    p.readAlternative a = .yields (.literal (p.layout.apply a)) := by
  simp [Policy.readAlternative, hne, hp, hl]

theorem readAlternative_eq_follow {a : Text} {n : Nonterminal} :
    p.readAlternative a = .follow n ↔ a ≠ [] ∧ leadingReference? a = some n := by
  by_cases hne : a = []
  · simp [hne, Policy.readAlternative]
  · rcases hl : leadingReference? a with _ | m
    · simp [readAlternative_of_none hp hne hl]
    · simp [readAlternative_of_some hp hne hl, hne]

theorem readAlternative_eq_yields {a : Text} {o : Outcome} :
    p.readAlternative a = .yields o ↔
      a ≠ [] ∧ leadingReference? a = none ∧ o = .literal (p.layout.apply a) := by
  by_cases hne : a = []
  · simp [hne, Policy.readAlternative]
  · rcases hl : leadingReference? a with _ | m
    · simp [readAlternative_of_none hp hne hl, hne, eq_comm]
    · simp [readAlternative_of_some hp hne hl]

theorem read_of_not_led {body : Text} (h : leadingReference? body = none) :
    p.read body = [.yields (.literal body.collapse)] := by
  unfold Policy.read
  rw [hp, h]
  rfl

omit hp in
theorem read_of_led {body : Text} (h : (leadingReference? body).isSome) :
    p.read body = (alternatives body).map p.readAlternative := by
  unfold Policy.read
  rw [if_neg]
  simp [Option.isSome_iff_ne_none.1 h]

theorem follow_mem_read {body : Text} {n : Nonterminal} :
    .follow n ∈ p.read body ↔ RefersTo body n := by
  unfold RefersTo
  rcases hl : leadingReference? body with _ | m
  · rw [read_of_not_led hp hl]
    simp
  · rw [read_of_led (by rw [hl]; rfl), List.mem_map]
    simp only [readAlternative_eq_follow hp, Option.isSome_some, true_and]

theorem yields_mem_read {body : Text} {o : Outcome} :
    .yields o ∈ p.read body ↔ ∃ t, Spells p body t ∧ o = .literal t := by
  rcases hl : leadingReference? body with _ | m
  · rw [read_of_not_led hp hl]
    constructor
    · intro h
      exact ⟨_, .whole hl, by simpa using h⟩
    · rintro ⟨_, ⟨-⟩ | ⟨h, -⟩, rfl⟩
      · exact List.mem_cons_self
      · simp [hl] at h
  · have hsome : (leadingReference? body).isSome := by rw [hl]; rfl
    rw [read_of_led hsome, List.mem_map]
    constructor
    · rintro ⟨a, ha, h⟩
      obtain ⟨hne, hla, rfl⟩ := (readAlternative_eq_yields hp).1 h
      exact ⟨_, .alternative hsome ha hne hla, rfl⟩
    · rintro ⟨_, h | ⟨-, ha, hne, hla⟩, rfl⟩
      · simp [hl] at h
      · exact ⟨_, ha, (readAlternative_eq_yields hp).2 ⟨hne, hla, rfl⟩⟩

theorem literal_of_yields_mem_read {body : Text} (o : Outcome) (h : .yields o ∈ p.read body) :
    ∃ t, o = .literal t := by
  obtain ⟨t, -, ht⟩ := (yields_mem_read hp).1 h
  exact ⟨t, ht⟩

end Following

/-- Where leading references are not followed, a body asks for texts and for alternatives that
cannot be expanded. -/
theorem mem_read_of_not_following {p : Policy} (hp : p.followLeading = false) {body : Text}
    {i : Item} (h : i ∈ p.read body) :
    i = .nothing ∨ ∃ a, i = .yields (.unsupported a) ∨ i = .yields (.literal a) := by
  unfold Policy.read at h
  rw [hp] at h
  obtain ⟨a, -, rfl⟩ := List.mem_map.1 h
  unfold Policy.readAlternative
  simp only [hp, Bool.false_eq_true, if_false]
  split_ifs
  · exact Or.inl rfl
  · exact Or.inr ⟨a, Or.inl rfl⟩
  · exact Or.inr ⟨a, Or.inr rfl⟩

theorem follow_not_mem_read {p : Policy} (hp : p.followLeading = false) (body : Text)
    (n : Nonterminal) : .follow n ∉ p.read body := by
  intro h
  rcases mem_read_of_not_following hp h with h | ⟨a, h | h⟩ <;> cases h

theorem stopped_not_mem_read (p : Policy) (body : Text) (n : Nonterminal) :
    .yields (.stopped n) ∉ p.read body := by
  intro h
  cases hp : p.followLeading with
  | true =>
    obtain ⟨t, ht⟩ := literal_of_yields_mem_read hp _ h
    cases ht
  | false => rcases mem_read_of_not_following hp h with h | ⟨a, h | h⟩ <;> cases h

/-! ## References -/

/-- The body that a reference leads to from a path of rules, or the outcome that it yields there
however much room and budget there is. -/
def Grammar.target (g : Grammar) (path : List Nonterminal) (n : Nonterminal) :
    Except Outcome Text :=
  if n.isPlaceholder then .error (.suppressed n)
  else match g.body? n with
    | none => .error (.undefined n)
    | some body => if n ∈ path then .error (.cycle n) else .ok body

theorem target_eq_ok {g : Grammar} {path : List Nonterminal} {n : Nonterminal} {body : Text} :
    g.target path n = .ok body ↔
      n.isPlaceholder = false ∧ g.body? n = some body ∧ n ∉ path := by
  unfold Grammar.target
  cases n.isPlaceholder
  · rcases hb : g.body? n with _ | b
    · simp
    · by_cases hn : n ∈ path <;> simp [hn]
  · simp

theorem target_eq_error {g : Grammar} {path : List Nonterminal} {n : Nonterminal} {o : Outcome} :
    g.target path n = .error o ↔
      (n.isPlaceholder = true ∧ o = .suppressed n) ∨
      (n.isPlaceholder = false ∧ g.body? n = none ∧ o = .undefined n) ∨
      (n.isPlaceholder = false ∧ (g.body? n).isSome ∧ n ∈ path ∧ o = .cycle n) := by
  unfold Grammar.target
  cases n.isPlaceholder
  · rcases hb : g.body? n with _ | b
    · simpa using eq_comm
    · by_cases hn : n ∈ path
      · simpa [hn] using eq_comm
      · simp [hn]
  · simpa using eq_comm

section Resolve

variable {g : Grammar} {p : Policy} {room budget : Nat} {path : List Nonterminal}
  {n : Nonterminal} {o : Outcome} {body : Text}

theorem resolve_spent : resolve g p room path n .spent = (.empty, .spent) := by
  cases room <;> rfl

theorem resolve_of_target_error (h : g.target path n = .error o) :
    resolve g p room path n (.left budget) = (.ofOutcome o, .left budget) := by
  rcases target_eq_error.1 h with ⟨hp, rfl⟩ | ⟨hp, hb, rfl⟩ | ⟨hp, hb, hn, rfl⟩
  · simp [resolve, hp]
  · simp [resolve, hp, hb]
  · obtain ⟨b, hb⟩ := Option.isSome_iff_exists.1 hb
    simp [resolve, hp, hb, hn]

theorem resolve_of_no_room (h : g.target path n = .ok body) :
    resolve g p 0 path n (.left budget) = (.ofOutcome (.tooDeep n), .left budget) := by
  obtain ⟨hp, hb, hn⟩ := target_eq_ok.1 h
  simp [resolve, hp, hb, hn]

theorem resolve_of_no_budget (h : g.target path n = .ok body) :
    resolve g p (room + 1) path n (.left 0) = (.ofOutcome (.stopped n), .spent) := by
  obtain ⟨hp, hb, hn⟩ := target_eq_ok.1 h
  simp [resolve, hp, hb, hn]

theorem resolve_of_target (h : g.target path n = .ok body) :
    resolve g p (room + 1) path n (.left (budget + 1)) =
      (.ofEvent (.expanding n path.length) ++
          (walkItems (resolve g p room (n :: path)) (p.read body) (.left budget)).1,
        (walkItems (resolve g p room (n :: path)) (p.read body) (.left budget)).2) := by
  obtain ⟨hp, hb, hn⟩ := target_eq_ok.1 h
  simp [resolve, hp, hb, hn]

end Resolve

/-! ## Induction over a walk -/

/-- What holds of the parts of an expansion, wherever they come from, holds of the items of a body
if it holds of the references among them. -/
theorem walkItems_induction {motive : Expansion → Prop} (empty : motive .empty)
    (skipped : motive (.ofEvent .skippedAlternative)) (outcome : ∀ o, motive (.ofOutcome o))
    (append : ∀ e f, motive e → motive f → motive (e ++ f))
    {follow : Nonterminal → Budget → Expansion × Budget}
    (reference : ∀ n b, motive (follow n b).1) (items : List Item) (b : Budget) :
    motive (walkItems follow items b).1 := by
  induction items generalizing b with
  | nil => exact empty
  | cons i items ih =>
    refine append _ _ ?_ (ih _)
    cases i with
    | nothing => exact skipped
    | yields o => exact outcome o
    | follow n => exact reference n b

/-- **Induction over references.** Something holds of what comes of every reference and of the
budget that is left if it holds where the budget is spent, where the reference yields an outcome of
its own, where there is no room or no budget left for it, and of a reference that is resolved if it
holds of all references on the longer path. -/
theorem resolve_induction {g : Grammar} {p : Policy}
    {motive : Nat → List Nonterminal → Nonterminal → Budget → Expansion × Budget → Prop}
    (spent : ∀ room path n, motive room path n .spent (.empty, .spent))
    (turnsBack : ∀ room path n k o, g.target path n = .error o →
      motive room path n (.left k) (.ofOutcome o, .left k))
    (noRoom : ∀ path n k body, g.target path n = .ok body →
      motive 0 path n (.left k) (.ofOutcome (.tooDeep n), .left k))
    (noBudget : ∀ room path n body, g.target path n = .ok body →
      motive (room + 1) path n (.left 0) (.ofOutcome (.stopped n), .spent))
    (resolved : ∀ room path n k body, g.target path n = .ok body →
      (∀ m b, motive room (n :: path) m b (resolve g p room (n :: path) m b)) →
      motive (room + 1) path n (.left (k + 1))
        (.ofEvent (.expanding n path.length) ++
            (walkItems (resolve g p room (n :: path)) (p.read body) (.left k)).1,
          (walkItems (resolve g p room (n :: path)) (p.read body) (.left k)).2))
    (room : Nat) (path : List Nonterminal) (n : Nonterminal) (b : Budget) :
    motive room path n b (resolve g p room path n b) := by
  cases b with
  | spent =>
    rw [resolve_spent]
    exact spent room path n
  | left k =>
    rcases ht : g.target path n with o | body
    · rw [resolve_of_target_error ht]
      exact turnsBack room path n k o ht
    · cases room with
      | zero =>
        rw [resolve_of_no_room ht]
        exact noRoom path n k body ht
      | succ room =>
        cases k with
        | zero =>
          rw [resolve_of_no_budget ht]
          exact noBudget room path n body ht
        | succ k =>
          rw [resolve_of_target ht]
          exact resolved room path n k body ht
            (resolve_induction spent turnsBack noRoom noBudget resolved room (n :: path))
termination_by room

end SqlVocabulary
