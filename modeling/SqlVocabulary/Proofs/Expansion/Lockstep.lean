import SqlVocabulary.Proofs.Expansion.FreeWalk

/-!
# Walks in lockstep

A walk sees of a grammar what its bodies ask for. So two walks, of two grammars and under two
policies, go in step if the bodies that they come to ask for the same rules in the same order, and
for texts that differ in wording alone (`Abreast`). They look up the same rules, resolve the same
references and stop at the same place, and their outcomes differ in wording alone
(`expand_lockstep`).

Not all bodies need to agree, but only those of a set of rules that the walks do not leave: the
bodies that agree refer to rules of the set again.
-/

namespace SqlVocabulary

/-! ## Wording -/

/-- An outcome with its text, if it has one, in another wording. -/
def Outcome.reword (φ : Text → Text) : Outcome → Outcome
  | .literal t => .literal (φ t)
  | .unsupported t => .unsupported (φ t)
  | o => o

/-- An item with its outcome in another wording. -/
def Item.reword (φ : Text → Text) : Item → Item
  | .yields o => .yields (o.reword φ)
  | i => i

@[simp] theorem Outcome.reword_id : Outcome.reword id = id := by
  funext o
  cases o <;> rfl

@[simp] theorem Item.reword_id : Item.reword id = id := by
  funext i
  cases i <;> simp [Item.reword]

/-- `Alike φ ψ e e'`: the two expansions are put together alike, from the same events and from
outcomes that are the same in the wordings `φ` and `ψ`. -/
inductive Alike (φ ψ : Text → Text) : Expansion → Expansion → Prop where
  | empty : Alike φ ψ .empty .empty
  | event (e : Event) : Alike φ ψ (.ofEvent e) (.ofEvent e)
  | outcome {o o' : Outcome} (h : o.reword φ = o'.reword ψ) :
      Alike φ ψ (.ofOutcome o) (.ofOutcome o')
  | append {e e' f f' : Expansion} (h : Alike φ ψ e e') (h' : Alike φ ψ f f') :
      Alike φ ψ (e ++ f) (e' ++ f')

namespace Alike

variable {φ ψ : Text → Text} {e e' : Expansion}

theorem outcomes (h : Alike φ ψ e e') :
    e.outcomes.map (Outcome.reword φ) = e'.outcomes.map (Outcome.reword ψ) := by
  induction h with
  | empty => rfl
  | event e => rfl
  | outcome h => exact congrArg (fun o => [o]) h
  | append _ _ ih ih' =>
    rw [Expansion.outcomes_append, Expansion.outcomes_append, List.map_append, List.map_append, ih,
      ih']

/-- Where no wording is changed, the expansions are the same, and so are their logs. -/
theorem eq (h : Alike id id e e') : e = e' := by
  induction h with
  | empty => rfl
  | event e => rfl
  | outcome h =>
    rw [Outcome.reword_id] at h
    exact congrArg Expansion.ofOutcome h
  | append _ _ ih ih' => rw [ih, ih']

end Alike

/-! ## Items -/

/-- Two stretches of a walk come to the same but for the wording, and leave the same budget. -/
structure InStep (φ ψ : Text → Text) (x y : Expansion × Budget) : Prop where
  alike : Alike φ ψ x.1 y.1
  budget : x.2 = y.2

section Items

variable {φ ψ : Text → Text} {follow follow' : Nonterminal → Budget → Expansion × Budget}

theorem walkItem_inStep {i i' : Item} (h : i.reword φ = i'.reword ψ)
    (hfollow : ∀ n, i = .follow n → ∀ b, InStep φ ψ (follow n b) (follow' n b)) (b : Budget) :
    InStep φ ψ (walkItem follow i b) (walkItem follow' i' b) := by
  cases i with
  | nothing =>
    cases i' with
    | nothing => exact ⟨.event _, rfl⟩
    | _ => cases h
  | yields o =>
    cases i' with
    | yields o' => exact ⟨.outcome (Item.yields.inj h), rfl⟩
    | _ => cases h
  | follow n =>
    cases i' with
    | follow m =>
      obtain rfl := Item.follow.inj h
      exact hfollow n rfl b
    | _ => cases h

/-- Items that are the same but for the wording are walked in step, if the references among them
are. -/
theorem walkItems_inStep {items items' : List Item}
    (h : items.map (Item.reword φ) = items'.map (Item.reword ψ))
    (hfollow : ∀ n, .follow n ∈ items → ∀ b, InStep φ ψ (follow n b) (follow' n b)) (b : Budget) :
    InStep φ ψ (walkItems follow items b) (walkItems follow' items' b) := by
  induction items generalizing items' b with
  | nil =>
    obtain rfl := List.map_eq_nil_iff.1 h.symm
    exact ⟨.empty, rfl⟩
  | cons i items ih =>
    cases items' with
    | nil => cases h
    | cons i' items' =>
      obtain ⟨hi, hitems⟩ := List.cons.inj h
      have hfirst := walkItem_inStep hi
        (fun n hn b => hfollow n (hn ▸ List.mem_cons_self) b) b
      have hrest := ih hitems (fun n hn => hfollow n (List.mem_cons_of_mem i hn))
        (walkItem follow i b).2
      simp only [walkItems, ← hfirst.budget]
      exact ⟨hfirst.alike.append hrest.alike, hrest.budget⟩

end Items

/-! ## Bodies that ask for the same -/

/-- Two bodies ask for the same rules in the same order, all of them in `S`, and for texts that are
the same in the wordings `φ` and `ψ`. -/
structure Abreast (p p' : Policy) (φ ψ : Text → Text) (S : Nonterminal → Prop)
    (body body' : Text) : Prop where
  read_eq : (p.read body).map (Item.reword φ) = (p'.read body').map (Item.reword ψ)
  mem : ∀ n, .follow n ∈ p.read body → S n

/-- A reference to a rule that both grammars define, or neither, leads two walks on, or it yields
the same outcome in both. No wording matters to this outcome. -/
theorem target_lockstep {g g' : Grammar} {R : Text → Text → Prop} {n : Nonterminal}
    (h : Option.Rel R (g.body? n) (g'.body? n)) (path : List Nonterminal) :
    (∃ o, g.target path n = .error o ∧ g'.target path n = .error o ∧ ∀ φ, o.reword φ = o) ∨
      ∃ body body', g.target path n = .ok body ∧ g'.target path n = .ok body' ∧ R body body' := by
  unfold Grammar.target
  cases n.isPlaceholder with
  | true => exact Or.inl ⟨_, rfl, rfl, fun _ => rfl⟩
  | false =>
    rcases hb : g.body? n with _ | body <;> rcases hb' : g'.body? n with _ | body' <;>
      rw [hb, hb'] at h
    · exact Or.inl ⟨_, rfl, rfl, fun _ => rfl⟩
    · cases h
    · cases h
    · obtain ⟨h⟩ := h
      by_cases hn : n ∈ path
      · exact Or.inl ⟨.cycle n, by simp [hn], by simp [hn], fun _ => rfl⟩
      · exact Or.inr ⟨body, body', by simp [hn], by simp [hn], h⟩

section Lockstep

variable {g g' : Grammar} {p p' : Policy} {φ ψ : Text → Text} {S : Nonterminal → Prop}
  (hg : ∀ n, S n → Option.Rel (Abreast p p' φ ψ S) (g.body? n) (g'.body? n))

theorem Abreast.inStep {body body' : Text} (h : Abreast p p' φ ψ S body body')
    {follow follow' : Nonterminal → Budget → Expansion × Budget}
    (hfollow : ∀ n, S n → ∀ b, InStep φ ψ (follow n b) (follow' n b)) (b : Budget) :
    InStep φ ψ (walkItems follow (p.read body) b) (walkItems follow' (p'.read body') b) :=
  walkItems_inStep h.read_eq (fun n hn => hfollow n (h.mem n hn)) b

include hg

/-- **References in lockstep.** A reference to a rule of the set is resolved in both walks or in
neither, and leaves the same budget. -/
theorem resolve_inStep (room : Nat) (path : List Nonterminal) {n : Nonterminal} (hn : S n)
    (b : Budget) :
    InStep φ ψ (resolve g p room path n b) (resolve g' p' room path n b) := by
  cases b with
  | spent =>
    rw [resolve_spent, resolve_spent]
    exact ⟨.empty, rfl⟩
  | left k =>
    rcases target_lockstep (hg n hn) path with ⟨o, ho, ho', hφ⟩ | ⟨body, body', ht, ht', h⟩
    · rw [resolve_of_target_error ho, resolve_of_target_error ho']
      exact ⟨.outcome ((hφ φ).trans (hφ ψ).symm), rfl⟩
    · cases room with
      | zero =>
        rw [resolve_of_no_room ht, resolve_of_no_room ht']
        exact ⟨.outcome rfl, rfl⟩
      | succ room =>
        cases k with
        | zero =>
          rw [resolve_of_no_budget ht, resolve_of_no_budget ht']
          exact ⟨.outcome rfl, rfl⟩
        | succ k =>
          have hwalk := h.inStep
            (fun m hm b => resolve_inStep room (n :: path) hm b) (.left k)
          rw [resolve_of_target ht, resolve_of_target ht']
          exact ⟨.append (.event _) hwalk.alike, hwalk.budget⟩
termination_by room

/-- **Expansions in lockstep.** Two bodies that ask for the same expand alike. -/
theorem expand_lockstep {body body' : Text} (h : Abreast p p' φ ψ S body body')
    (path : List Nonterminal) : Alike φ ψ (expand body g p path) (expand body' g' p' path) :=
  (h.inStep (fun _ hn b => resolve_inStep hg _ _ hn b) _).alike

theorem outcomes_lockstep {body body' : Text} (h : Abreast p p' φ ψ S body body')
    (path : List Nonterminal) :
    (expand body g p path).outcomes.map (Outcome.reword φ) =
      (expand body' g' p' path).outcomes.map (Outcome.reword ψ) :=
  (expand_lockstep hg h path).outcomes

end Lockstep

end SqlVocabulary
