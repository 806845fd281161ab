import SqlVocabulary.Proofs.Expansion.Budget
import SqlVocabulary.Proofs.Grammar.Spacing

/-!
# Expansions and bars

A bar separates what a body asks for before it from what it asks for after it.

1. Two bodies that are joined by a bar ask for what the first one asks for, and then for what the
   second one does, unless leading references are followed and there is none in one of them
   (`read_append`). So their free walks follow one another (`freeExpand_append`), and so do their
   expansions if the budget suffices for both (`expand_append`).
2. Where no reference is followed, a body asks for texts alone, so its expansion looks at no grammar
   (`expand_of_not_following`). Its outcomes are those of the texts between its bars
   (`expand_pieces`).
-/

namespace SqlVocabulary

/-! ## Two bodies -/

section Joined

variable {p : Policy} {b₁ b₂ : Text}

theorem read_of_not_following (hp : p.followLeading = false) (body : Text) :
    p.read body = (alternatives body).map p.readAlternative := by
  unfold Policy.read
  simp [hp]

theorem read_append (h : p.followLeading = true →
      (leadingReference? b₁).isSome ∧ (leadingReference? b₂).isSome) :
    p.read (b₁ ++ '|' :: b₂) = p.read b₁ ++ p.read b₂ := by
  cases hp : p.followLeading with
  | false =>
    rw [read_of_not_following hp, read_of_not_following hp, read_of_not_following hp,
      alternatives_append, List.map_append]
  | true =>
    obtain ⟨h₁, h₂⟩ := h hp
    have hled : (leadingReference? (b₁ ++ '|' :: b₂)).isSome := by
      rwa [leadingReference?_append h₁]
    rw [read_of_led hled, read_of_led h₁, read_of_led h₂, alternatives_append, List.map_append]

variable (g : Grammar) (path : List Nonterminal)

theorem freeExpand_append (h : p.read (b₁ ++ '|' :: b₂) = p.read b₁ ++ p.read b₂) :
    freeExpand (b₁ ++ '|' :: b₂) g p path = freeExpand b₁ g p path ++ freeExpand b₂ g p path := by
  unfold freeExpand freeWalk
  rw [h, freeItems_append]

/-- A budget that suffices for both bodies suffices for each of them. -/
theorem expand_append (h : p.read (b₁ ++ '|' :: b₂) = p.read b₁ ++ p.read b₂)
    (hwhole : ∀ n, .stopped n ∉ (expand (b₁ ++ '|' :: b₂) g p path).outcomes) :
    expand (b₁ ++ '|' :: b₂) g p path = expand b₁ g p path ++ expand b₂ g p path := by
  have hfree := freeExpand_append g path h
  have hbudget := resolved_freeExpand_le hwhole
  have hresolved : (freeExpand (b₁ ++ '|' :: b₂) g p path).resolved =
      (freeExpand b₁ g p path).resolved + (freeExpand b₂ g p path).resolved := by
    rw [hfree, Expansion.resolved_append]
  rw [expand_eq_freeExpand hwhole, hfree,
    expand_eq_freeExpand_of_le (show (freeExpand b₁ g p path).resolved ≤ _ by omega),
    expand_eq_freeExpand_of_le (show (freeExpand b₂ g p path).resolved ≤ _ by omega)]

end Joined

/-! ## Without following -/

section NotFollowing

variable {p : Policy} (hp : p.followLeading = false)

include hp

/-- Where no reference is followed, neither the grammar nor the path is looked at, and nothing of
the budget is spent. -/
theorem expand_of_not_following (body : Text) (g : Grammar) (path : List Nonterminal) :
    expand body g p path = freeItems (fun _ => .empty) (p.read body) := by
  unfold expand walkBody
  rw [(walkItems_of_no_follow _ (fun _ => .empty) (follow_not_mem_read hp body) _).1]

theorem stopped_not_mem_of_not_following (body : Text) (g : Grammar) (path : List Nonterminal)
    (n : Nonterminal) : .stopped n ∉ (expand body g p path).outcomes := by
  rw [expand_of_not_following hp, mem_outcomes_freeItems]
  rintro (h | ⟨m, hm, -⟩)
  · exact stopped_not_mem_read p body n h
  · exact follow_not_mem_read hp body m hm

end NotFollowing

/-- **Joined bodies.** The outcomes of two bodies that are joined by a bar are those of the first
one, and then those of the second one: always, if no reference is followed, and if leading
references are followed, whenever one leads each of the two bodies and the expansion is not
stopped. -/
theorem outcomes_joined (b₁ b₂ : Text) (g : Grammar) (p : Policy) (path : List Nonterminal) :
    (p.followLeading = false →
      (expand (b₁ ++ '|' :: b₂) g p path).outcomes =
        (expand b₁ g p path).outcomes ++ (expand b₂ g p path).outcomes) ∧
    (p.followLeading = true →
      (leadingReference? b₁).isSome → (leadingReference? b₂).isSome →
      (∀ n, .stopped n ∉ (expand (b₁ ++ '|' :: b₂) g p path).outcomes) →
      (expand (b₁ ++ '|' :: b₂) g p path).outcomes =
        (expand b₁ g p path).outcomes ++ (expand b₂ g p path).outcomes) := by
  constructor
  · intro hp
    have hread : p.read (b₁ ++ '|' :: b₂) = p.read b₁ ++ p.read b₂ :=
      read_append fun h => by simp [hp] at h
    rw [expand_append g path hread (stopped_not_mem_of_not_following hp _ g path)]
    exact Expansion.outcomes_append _ _
  · intro _ h₁ h₂ hwhole
    rw [expand_append g path (read_append fun _ => ⟨h₁, h₂⟩) hwhole]
    exact Expansion.outcomes_append _ _

/-- A body that ends with an opening bracket and a word. -/
def openEnded : Text := "<a> | <x".toList

/-- A body that ends with a closing bracket. -/
def closeEnded : Text := " <b> | Y>".toList

/-- Two rules, one of which leads to the other one. -/
def couple : Grammar := ⟨[⟨.ofText ['a'], ['P']⟩, ⟨.ofText ['b'], "<a> | Q".toList⟩], []⟩

/-- The bracket that is open before the bar is not closed behind it. -/
theorem outcomes_joined_openEnded :
    ((leadingReference? openEnded).isSome ∧ (leadingReference? closeEnded).isSome ∧
      (expand (openEnded ++ '|' :: closeEnded) couple .statements []).outcomes =
        [.literal ['P'], .literal ['<', 'x'], .literal ['P'], .literal ['Q'],
          .literal ['Y', '>']]) ∧
      (expand (openEnded ++ '|' :: closeEnded) couple .statements []).outcomes =
        (expand openEnded couple .statements []).outcomes ++
          (expand closeEnded couple .statements []).outcomes ∧
      (expand (openEnded ++ '|' :: closeEnded) couple .words []).outcomes =
        (expand openEnded couple .words []).outcomes ++
          (expand closeEnded couple .words []).outcomes := by
  have hopen : (leadingReference? openEnded).isSome := by decide +kernel
  have hclose : (leadingReference? closeEnded).isSome := by decide +kernel
  have houtcomes : (expand (openEnded ++ '|' :: closeEnded) couple .statements []).outcomes =
      [.literal ['P'], .literal ['<', 'x'], .literal ['P'], .literal ['Q'],
        .literal ['Y', '>']] := by decide +kernel
  have hwhole : ∀ n, .stopped n ∉
      (expand (openEnded ++ '|' :: closeEnded) couple .statements []).outcomes := by
    intro n
    rw [houtcomes]
    simp
  refine ⟨⟨hopen, hclose, houtcomes⟩, ?_, ?_⟩
  · exact (outcomes_joined openEnded closeEnded couple .statements []).2 rfl hopen hclose hwhole
  · exact (outcomes_joined openEnded closeEnded couple .words []).1 rfl

/-! ## The texts between the bars -/

/-- Whether a text has something in brackets can be told by scanning it. -/
instance : DecidablePred Refers := fun _ => decidable_of_iff _ hasReference_iff

/-- What a text between two bars yields where no reference is followed: it cannot be expanded if
some opening bracket in it is closed around something, without brackets and bars in between. -/
def pieceOutcome (t : Text) : Outcome := if Refers t then .unsupported t else .literal t

/-- What a body yields when it is cut at every bar, the pieces trimmed and the empty ones left
out. -/
def pieceOutcomes (body : Text) : List Outcome :=
  (((Text.pieces (· == '|') body).map Text.trim).filter (· ≠ [])).map pieceOutcome

theorem readAlternative_of_not_following {p : Policy} (hp : p.followLeading = false) {a : Text}
    (hne : a ≠ []) : p.readAlternative a = .yields (pieceOutcome a) := by
  unfold Policy.readAlternative pieceOutcome
  by_cases ha : hasReference a = true
  · simp [hne, hp, ha, hasReference_iff.1 ha]
  · simp [hne, hp, ha, mt hasReference_iff.2 ha]

theorem outcomes_readAlternatives {p : Policy} (hp : p.followLeading = false)
    (follow : Nonterminal → Expansion) (as : List Text) :
    (freeItems follow (as.map p.readAlternative)).outcomes =
      (as.filter (· ≠ [])).map pieceOutcome := by
  induction as with
  | nil => rfl
  | cons a as ih =>
    rw [List.map_cons, freeItems_cons, Expansion.outcomes_append, ih]
    by_cases ha : a = []
    · subst ha
      rfl
    · rw [readAlternative_of_not_following hp ha, List.filter_cons_of_pos (by simpa using ha)]
      rfl

/-- **Cutting at the bars.** Where no reference is followed, a body expands to what its text yields
when it is cut at every bar, whatever brackets there are in it, and whatever the grammar and the
path are. -/
theorem expand_pieces (body : Text) (g : Grammar) (p : Policy) (path : List Nonterminal)
    (hp : p.followLeading = false) : (expand body g p path).outcomes = pieceOutcomes body := by
  rw [expand_of_not_following hp, read_of_not_following hp, outcomes_readAlternatives hp,
    alternatives_eq]
  rfl

/-- A body with brackets that are closed behind a bar, around a blank, around nothing, and within a
text. -/
def oddBrackets : Text := "<a | b> | < > |  | <> | C <d>e".toList

/-- The bars count in brackets too, and the rule on the path does not matter. -/
theorem expand_pieces_oddBrackets :
    Policy.words.followLeading = false ∧
      (expand oddBrackets couple .words [.ofText ['d']]).outcomes =
        [.literal "<a".toList, .literal "b>".toList, .unsupported "< >".toList,
          .literal "<>".toList, .unsupported "C <d>e".toList] := by
  refine ⟨rfl, (expand_pieces oddBrackets couple .words [.ofText ['d']] rfl).trans ?_⟩
  decide +kernel

end SqlVocabulary
