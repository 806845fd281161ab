import SqlVocabulary.Proofs.Expansion.Reading

/-!
# The free walk

The free walk follows every reference: it is the walk without a budget, bounded by the path alone.
Its outcomes are those that the items of a body yield, together with those of the references among
them (`mem_freeWalk`).
-/

namespace SqlVocabulary

/-! ## Expansions one after the other -/

namespace Expansion

def concat (es : List Expansion) : Expansion := es.foldr (· ++ ·) empty

@[simp] theorem concat_cons (e : Expansion) (es : List Expansion) :
    concat (e :: es) = e ++ concat es := rfl

theorem concat_append (es fs : List Expansion) : concat (es ++ fs) = concat es ++ concat fs := by
  induction es with
  | nil => rfl
  | cons e es ih => rw [List.cons_append, concat_cons, ih, concat_cons, append_assoc]

@[simp] theorem outcomes_concat (es : List Expansion) :
    (concat es).outcomes = es.flatMap outcomes := by
  induction es with
  | nil => rfl
  | cons e es ih => rw [concat_cons, outcomes_append, ih, List.flatMap_cons]

end Expansion

/-! ## Walking without a budget -/

/-- What comes of one item of a body, where `follow` gives what comes of a reference. -/
def freeItem (follow : Nonterminal → Expansion) : Item → Expansion
  | .nothing => .ofEvent .skippedAlternative
  | .yields o => .ofOutcome o
  | .follow n => follow n

/-- What comes of the items of a body, one after the other. -/
def freeItems (follow : Nonterminal → Expansion) (items : List Item) : Expansion :=
  .concat (items.map (freeItem follow))

/-- What comes of a leading reference on a path of rules that has room for so many more, when
references cost nothing. -/
def freeResolve (g : Grammar) (p : Policy) :
    (room : Nat) → (path : List Nonterminal) → Nonterminal → Expansion
  | room, path, n =>
    if n.isPlaceholder then .ofOutcome (.suppressed n)
    else match g.body? n with
      | none => .ofOutcome (.undefined n)
      | some body =>
        if n ∈ path then .ofOutcome (.cycle n)
        else match room with
          | 0 => .ofOutcome (.tooDeep n)
          | room + 1 =>
            .ofEvent (.expanding n path.length) ++
              freeItems (freeResolve g p room (n :: path)) (p.read body)

/-- The free walk from a body that a path of different rules has led to. -/
def freeWalk (g : Grammar) (p : Policy) (path : List Nonterminal) (body : Text) : Expansion :=
  freeItems (freeResolve g p (maxDepth - path.length) path) (p.read body)

/-- Expands a body along its free walk. -/
def freeExpand (body : Text) (g : Grammar) (p : Policy) (path : List Nonterminal) : Expansion :=
  freeWalk g p path.eraseDups body

@[simp] theorem freeItems_cons (follow : Nonterminal → Expansion) (i : Item) (items : List Item) :
    freeItems follow (i :: items) = freeItem follow i ++ freeItems follow items := rfl

theorem freeItems_append (follow : Nonterminal → Expansion) (items items' : List Item) :
    freeItems follow (items ++ items') = freeItems follow items ++ freeItems follow items' := by
  rw [freeItems, List.map_append, Expansion.concat_append]
  rfl

/-! ## References -/

section Resolve

variable {g : Grammar} {p : Policy} {room : Nat} {path : List Nonterminal} {n : Nonterminal}
  {o : Outcome} {body : Text}

theorem freeResolve_of_target_error (h : g.target path n = .error o) :
    freeResolve g p room path n = .ofOutcome o := by
  rcases target_eq_error.1 h with ⟨hp, rfl⟩ | ⟨hp, hb, rfl⟩ | ⟨hp, hb, hn, rfl⟩
  · simp [freeResolve, hp]
  · simp [freeResolve, hp, hb]
  · obtain ⟨b, hb⟩ := Option.isSome_iff_exists.1 hb
    simp [freeResolve, hp, hb, hn]

theorem freeResolve_of_no_room (h : g.target path n = .ok body) :
    freeResolve g p 0 path n = .ofOutcome (.tooDeep n) := by
  obtain ⟨hp, hb, hn⟩ := target_eq_ok.1 h
  simp [freeResolve, hp, hb, hn]

theorem freeResolve_of_target (h : g.target path n = .ok body) :
    freeResolve g p (room + 1) path n = .ofEvent (.expanding n path.length) ++
      freeItems (freeResolve g p room (n :: path)) (p.read body) := by
  obtain ⟨hp, hb, hn⟩ := target_eq_ok.1 h
  simp [freeResolve, hp, hb, hn]

theorem freeResolve_of_lt (h : g.target path n = .ok body) (hl : path.length < maxDepth) :
    freeResolve g p (maxDepth - path.length) path n =
      .ofEvent (.expanding n path.length) ++ freeWalk g p (n :: path) body := by
  have hroom : maxDepth - path.length = maxDepth - (n :: path).length + 1 := by
    rw [List.length_cons]
    omega
  rw [hroom, freeResolve_of_target h]
  rfl

theorem freeResolve_of_le (h : g.target path n = .ok body) (hl : maxDepth ≤ path.length) :
    freeResolve g p (maxDepth - path.length) path n = .ofOutcome (.tooDeep n) := by
  rw [Nat.sub_eq_zero_of_le hl, freeResolve_of_no_room h]

end Resolve

/-! ## Outcomes -/

theorem mem_outcomes_freeItems {follow : Nonterminal → Expansion} {items : List Item}
    {o : Outcome} :
    o ∈ (freeItems follow items).outcomes ↔
      .yields o ∈ items ∨ ∃ n, .follow n ∈ items ∧ o ∈ (follow n).outcomes := by
  rw [freeItems, Expansion.outcomes_concat, List.flatMap_map, List.mem_flatMap]
  constructor
  · rintro ⟨i, hi, ho⟩
    cases i with
    | nothing => cases ho
    | yields o' =>
      obtain rfl := List.mem_singleton.1 ho
      exact Or.inl hi
    | follow n => exact Or.inr ⟨n, hi, ho⟩
  · rintro (ho | ⟨n, hn, ho⟩)
    · exact ⟨_, ho, List.mem_singleton_self o⟩
    · exact ⟨_, hn, ho⟩

/-- **The outcomes of a free walk**, one body at a time. -/
theorem mem_freeWalk {g : Grammar} {p : Policy} {path : List Nonterminal} {body : Text}
    {o : Outcome} :
    o ∈ (freeWalk g p path body).outcomes ↔
      .yields o ∈ p.read body ∨ ∃ n, .follow n ∈ p.read body ∧
        (g.target path n = .error o ∨ ∃ b, g.target path n = .ok b ∧
          (maxDepth ≤ path.length ∧ o = .tooDeep n ∨
            path.length < maxDepth ∧ o ∈ (freeWalk g p (n :: path) b).outcomes)) := by
  have hstep : ∀ n, o ∈ (freeResolve g p (maxDepth - path.length) path n).outcomes ↔
      g.target path n = .error o ∨ ∃ b, g.target path n = .ok b ∧
        (maxDepth ≤ path.length ∧ o = .tooDeep n ∨
          path.length < maxDepth ∧ o ∈ (freeWalk g p (n :: path) b).outcomes) := by
    intro n
    rcases ht : g.target path n with o' | b
    · rw [freeResolve_of_target_error ht]
      simp [eq_comm]
    · rcases Nat.lt_or_ge path.length maxDepth with hl | hl
      · rw [freeResolve_of_lt ht hl]
        simp [hl, Nat.not_le.2 hl]
      · rw [freeResolve_of_le ht hl]
        simp [hl, Nat.not_lt.2 hl]
  rw [freeWalk, mem_outcomes_freeItems]
  simp only [hstep]

/-- The outcomes with which a free walk turns back at a reference. -/
inductive Outcome.TurnsBack : Outcome → Prop where
  | suppressed (n : Nonterminal) : TurnsBack (.suppressed n)
  | undefined (n : Nonterminal) : TurnsBack (.undefined n)
  | cycle (n : Nonterminal) : TurnsBack (.cycle n)
  | tooDeep (n : Nonterminal) : TurnsBack (.tooDeep n)

/-- Whatever a free walk yields, some body asks for it, or the walk turns back with it. -/
theorem yields_or_turnsBack {g : Grammar} {p : Policy} {path : List Nonterminal} {body : Text}
    {o : Outcome} (h : o ∈ (freeWalk g p path body).outcomes) :
    (∃ b, .yields o ∈ p.read b) ∨ o.TurnsBack := by
  rcases mem_freeWalk.1 h with h | ⟨n, -, h | ⟨b, -, ⟨-, rfl⟩ | ⟨hl, h⟩⟩⟩
  · exact Or.inl ⟨body, h⟩
  · rcases target_eq_error.1 h with ⟨-, rfl⟩ | ⟨-, -, rfl⟩ | ⟨-, -, -, rfl⟩
    · exact Or.inr (.suppressed n)
    · exact Or.inr (.undefined n)
    · exact Or.inr (.cycle n)
  · exact Or.inr (.tooDeep n)
  · exact yields_or_turnsBack h
termination_by maxDepth - path.length
decreasing_by rw [List.length_cons]; omega

theorem stopped_not_mem_freeWalk (g : Grammar) (p : Policy) (path : List Nonterminal)
    (body : Text) (m : Nonterminal) : .stopped m ∉ (freeWalk g p path body).outcomes := by
  intro h
  rcases yields_or_turnsBack h with ⟨b, h⟩ | h
  · exact stopped_not_mem_read p b m h
  · cases h

theorem stopped_not_mem_freeExpand (body : Text) (g : Grammar) (p : Policy)
    (path : List Nonterminal) (n : Nonterminal) :
    .stopped n ∉ (freeExpand body g p path).outcomes := stopped_not_mem_freeWalk g p _ body n

end SqlVocabulary
