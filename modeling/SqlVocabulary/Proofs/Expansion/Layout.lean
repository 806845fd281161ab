import SqlVocabulary.Proofs.Expansion.Budget
import SqlVocabulary.Proofs.Expansion.Spacing

/-!
# The two layouts of literals

A policy says whether a literal that stands in an alternative keeps its blanks. This bears on the
texts of these literals and on nothing else (`expand_layout`): the two walks go in lockstep, and a
body that is a literal as a whole is collapsed in both.
-/

namespace SqlVocabulary

/-- An outcome, with another text if it is a literal. -/
def Outcome.mapLiteral (φ : Text → Text) : Outcome → Outcome
  | .literal t => .literal (φ t)
  | o => o

theorem rel_body?_self {R : Text → Text → Prop} (hR : ∀ b, R b b) (g : Grammar) (n : Nonterminal) :
    Option.Rel R (g.body? n) (g.body? n) := by
  rcases g.body? n with _ | b
  · exact .none
  · exact .some (hR b)

section Following

variable {p p' : Policy} (hp : p.followLeading = true) (hp' : p'.followLeading = true)

include hp

theorem unsupported_not_mem_expand (body : Text) (g : Grammar) (path : List Nonterminal)
    (a : Text) : .unsupported a ∉ (expand body g p path).outcomes := by
  intro h
  rcases mem_outcomes_freeExpand h with ⟨n, hn⟩ | h
  · cases hn
  · rcases yields_or_turnsBack h with ⟨b, hb⟩ | h
    · obtain ⟨t, ht⟩ := literal_of_yields_mem_read hp _ hb
      cases ht
    · cases h

include hp'

/-- What is asked for under two policies that follow references differs in the layout of texts
alone. -/
theorem map_reword_read_congr (body : Text) :
    (p.read body).map (Item.reword Text.collapse) =
      (p'.read body).map (Item.reword Text.collapse) := by
  have halternative : ∀ a : Text, (p.readAlternative a).reword Text.collapse =
      (p'.readAlternative a).reword Text.collapse := by
    intro a
    by_cases ha : a = []
    · simp [ha, Policy.readAlternative]
    · rcases hl : leadingReference? a with _ | n
      · simp [readAlternative_of_none hp ha hl, readAlternative_of_none hp' ha hl, Item.reword,
          Outcome.reword, collapse_layout]
      · rw [readAlternative_of_some hp ha hl, readAlternative_of_some hp' ha hl]
  rcases hl : leadingReference? body with _ | n
  · rw [read_of_not_led hp hl, read_of_not_led hp' hl]
  · have hsome : (leadingReference? body).isSome := by rw [hl]; rfl
    rw [read_of_led hsome, read_of_led hsome, List.map_map, List.map_map]
    exact List.map_congr_left fun a _ => halternative a

theorem outcomes_of_collapsed (hl : p'.layout = .collapsed) (body : Text) (g : Grammar)
    (path : List Nonterminal) :
    (expand body g p' path).outcomes =
      (expand body g p path).outcomes.map (Outcome.mapLiteral Text.collapse) := by
  have habreast : ∀ b : Text, Abreast p p' Text.collapse id (fun _ => True) b b := by
    intro b
    refine ⟨?_, fun _ _ => trivial⟩
    rw [Item.reword_id, List.map_id, ← map_reword_read_of_collapsed hp' hl b]
    exact map_reword_read_congr hp hp' b
  have houtcomes := outcomes_lockstep (fun n _ => rel_body?_self habreast g n) (habreast body) path
  rw [Outcome.reword_id, List.map_id] at houtcomes
  rw [← houtcomes]
  refine List.map_congr_left fun o ho => ?_
  cases o with
  | unsupported a => exact absurd ho (unsupported_not_mem_expand hp body g path a)
  | _ => rfl

end Following

theorem outcomes_of_not_following {p p' : Policy} (hp : p.followLeading = false)
    (hp' : p'.followLeading = false) (body : Text) (g : Grammar) (path : List Nonterminal) :
    (expand body g p path).outcomes = (expand body g p' path).outcomes := by
  have halternative : p.readAlternative = p'.readAlternative := by
    funext a
    unfold Policy.readAlternative
    rw [hp, hp']
    rfl
  have hread : ∀ b : Text, p.read b = p'.read b := by
    intro b
    unfold Policy.read
    rw [hp, hp', halternative]
  have habreast : ∀ b : Text, Abreast p p' id id (fun _ => True) b b :=
    fun b => ⟨by rw [hread b], fun _ _ => trivial⟩
  have houtcomes := outcomes_lockstep (fun n _ => rel_body?_self habreast g n) (habreast body) path
  simpa using houtcomes

/-- **Layouts.** Under a policy that follows leading references, collapsing the literals of the
alternatives gives the outcomes of keeping them, in the same places, with each literal collapsed and
all else as it was, the marks of the limits included. Under a policy that follows none, it gives the
same outcomes. -/
theorem expand_layout (body : Text) (g : Grammar) (p : Policy) (path : List Nonterminal) :
    (expand body g { p with layout := .collapsed } path).outcomes =
      if p.followLeading then
        (expand body g { p with layout := .kept } path).outcomes.map
          (Outcome.mapLiteral Text.collapse)
      else (expand body g { p with layout := .kept } path).outcomes := by
  cases hp : p.followLeading with
  | true =>
    have hkept : { p with layout := .kept }.followLeading = true := hp
    have hcollapsed : { p with layout := .collapsed }.followLeading = true := hp
    simpa [hp] using outcomes_of_collapsed hkept hcollapsed rfl body g path
  | false =>
    have hkept : { p with layout := .kept }.followLeading = false := hp
    have hcollapsed : { p with layout := .collapsed }.followLeading = false := hp
    simpa [hp] using outcomes_of_not_following hcollapsed hkept body g path

end SqlVocabulary
