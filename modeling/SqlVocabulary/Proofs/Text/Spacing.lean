import SqlVocabulary.Proofs.Text.Parts

/-!
# Texts that differ in their blanks alone

Two texts collapse to one if they can be made equal in three ways: by dropping a blank at the start,
by dropping one at the end, and by writing every run of blanks as one space (`squeeze`). A function
on texts that sees none of these changes ignores the layout of a text (`IgnoresLayout`), and has the
same value for all texts with the same words (`IgnoresLayout.congr`).

A character other than a blank stands in a text where it stands in the squeezed text, with the parts
before and after it squeezed (`splitsAt_squeeze`, `pieces_squeeze`).
-/

namespace SqlVocabulary.Text

/-! ## Runs of blanks -/

/-- A text with each run of blanks written as one space, none being written for a run that goes on
from before the text. -/
def squeezeFrom (inRun : Bool) : Text → Text
  | [] => []
  | c :: cs =>
    if isSpace c then
      if inRun then squeezeFrom true cs else ' ' :: squeezeFrom true cs
    else c :: squeezeFrom false cs

/-- A text with each run of blanks written as one space. -/
def squeeze (t : Text) : Text := squeezeFrom false t

theorem squeezeFrom_cons_of_not_isSpace {c : Char} (hc : isSpace c = false) (inRun : Bool)
    (t : Text) : squeezeFrom inRun (c :: t) = c :: squeeze t := by
  simp [squeezeFrom, squeeze, hc]

theorem squeeze_cons_of_isSpace {c : Char} (hc : isSpace c = true) (t : Text) :
    squeeze (c :: t) = ' ' :: squeezeFrom true t := by
  simp [squeeze, squeezeFrom, hc]

theorem squeezeFrom_true_cons_of_isSpace {c : Char} (hc : isSpace c = true) (t : Text) :
    squeezeFrom true (c :: t) = squeezeFrom true t := by
  simp [squeezeFrom, hc]

/-- A character other than a blank separates what stands before it from what stands after it. -/
theorem squeezeFrom_append_cons {c : Char} (hc : isSpace c = false) (inRun : Bool) (s t : Text) :
    squeezeFrom inRun (s ++ c :: t) = squeezeFrom inRun s ++ c :: squeeze t := by
  induction s generalizing inRun with
  | nil => exact squeezeFrom_cons_of_not_isSpace hc inRun t
  | cons d s ih =>
    rw [List.cons_append]
    cases hd : isSpace d with
    | false =>
      rw [squeezeFrom_cons_of_not_isSpace hd, squeezeFrom_cons_of_not_isSpace hd, squeeze, ih]
      rfl
    | true => cases inRun <;> simp [squeezeFrom, hd, ih]

theorem squeeze_append_cons {c : Char} (hc : isSpace c = false) (s t : Text) :
    squeeze (s ++ c :: t) = squeeze s ++ c :: squeeze t := squeezeFrom_append_cons hc false s t

/-- And it does so in a text that was squeezed only where it did so before. -/
theorem squeezeFrom_eq_append_cons {c : Char} (hc : isSpace c = false) {inRun : Bool}
    {s t u : Text} :
    squeezeFrom inRun u = s ++ c :: t ↔
      ∃ s' t', u = s' ++ c :: t' ∧ squeezeFrom inRun s' = s ∧ squeeze t' = t := by
  constructor
  · intro h
    induction u generalizing inRun s with
    | nil => simp [squeezeFrom] at h
    | cons d u ih =>
      cases hd : isSpace d with
      | false =>
        rw [squeezeFrom_cons_of_not_isSpace hd] at h
        rcases List.cons_eq_append_iff.1 h with ⟨rfl, heq⟩ | ⟨s, rfl, heq⟩
        · obtain ⟨rfl, rfl⟩ := List.cons.inj heq
          exact ⟨[], u, rfl, rfl, rfl⟩
        · obtain ⟨s', t', rfl, rfl, rfl⟩ := ih heq
          exact ⟨d :: s', t', rfl, squeezeFrom_cons_of_not_isSpace hd inRun s', rfl⟩
      | true =>
        cases inRun with
        | true =>
          rw [squeezeFrom_true_cons_of_isSpace hd] at h
          obtain ⟨s', t', rfl, rfl, rfl⟩ := ih h
          exact ⟨d :: s', t', rfl, squeezeFrom_true_cons_of_isSpace hd s', rfl⟩
        | false =>
          change squeeze (d :: u) = _ at h
          rw [squeeze_cons_of_isSpace hd] at h
          rcases List.cons_eq_append_iff.1 h with ⟨rfl, heq⟩ | ⟨s, rfl, heq⟩
          · obtain ⟨rfl, -⟩ := List.cons.inj heq
            cases hc
          · obtain ⟨s', t', rfl, rfl, rfl⟩ := ih heq
            exact ⟨d :: s', t', rfl, squeeze_cons_of_isSpace hd s', rfl⟩
  · rintro ⟨s', t', rfl, rfl, rfl⟩
    exact squeezeFrom_append_cons hc inRun s' t'

theorem squeeze_eq_append_cons {c : Char} (hc : isSpace c = false) {s t u : Text} :
    squeeze u = s ++ c :: t ↔ ∃ s' t', u = s' ++ c :: t' ∧ squeeze s' = s ∧ squeeze t' = t :=
  squeezeFrom_eq_append_cons hc

@[simp] theorem squeeze_eq_nil {t : Text} : squeeze t = [] ↔ t = [] := by
  cases t with
  | nil => simp [squeeze, squeezeFrom]
  | cons c t => cases hc : isSpace c <;> simp [squeeze, squeezeFrom, hc]

theorem mem_squeeze {c : Char} (hc : isSpace c = false) {t : Text} : c ∈ squeeze t ↔ c ∈ t := by
  rw [List.mem_iff_append, List.mem_iff_append]
  simp only [squeeze_eq_append_cons hc]
  constructor
  · rintro ⟨-, -, s', t', h, -, -⟩
    exact ⟨s', t', h⟩
  · rintro ⟨s', t', h⟩
    exact ⟨_, _, s', t', h, rfl, rfl⟩

theorem forall_isSpace_squeeze {t : Text} :
    (∀ c ∈ squeeze t, isSpace c = true) ↔ ∀ c ∈ t, isSpace c = true := by
  have hcontra : ∀ u : Text, (∀ c ∈ u, isSpace c = true) ↔ ∀ c, isSpace c = false → c ∉ u := by
    intro u
    refine forall_congr' fun c => ?_
    cases isSpace c <;> simp
  rw [hcontra, hcontra]
  exact forall_congr' fun c => imp_congr_right fun hc => not_congr (mem_squeeze hc)

theorem squeezeFrom_append {w : Text} (hw : ∀ c ∈ w, isSpace c = false) (inRun : Bool) (t : Text) :
    squeezeFrom inRun (w ++ t) = w ++ squeezeFrom (inRun && w.isEmpty) t := by
  induction w generalizing inRun with
  | nil => simp
  | cons c w ih =>
    obtain ⟨hc, hw⟩ := List.forall_mem_cons.1 hw
    rw [List.cons_append, squeezeFrom_cons_of_not_isSpace hc, squeeze, ih hw]
    simp

theorem words_squeezeFrom (inRun : Bool) (t : Text) : words (squeezeFrom inRun t) = words t := by
  induction t using pieces_induction (p := isSpace) generalizing inRun with
  | last w hw =>
    have hlast := squeezeFrom_append hw inRun []
    rw [List.append_nil] at hlast
    rw [hlast]
    simp [squeezeFrom]
  | piece w c t hw hc ih =>
    rw [squeezeFrom_append hw, words_append_cons hc]
    cases hrun : inRun && w.isEmpty with
    | true =>
      obtain rfl : w = [] := by simpa using (Bool.and_eq_true_iff.1 hrun).2
      rw [squeezeFrom_true_cons_of_isSpace hc, List.nil_append, ih]
      rfl
    | false =>
      change words (w ++ squeeze (c :: t)) = _
      rw [squeeze_cons_of_isSpace hc, words_append_cons rfl, ih]

@[simp] theorem collapse_squeeze (t : Text) : collapse (squeeze t) = collapse t :=
  collapse_eq_iff.2 (words_squeezeFrom false t)

/-! ## The collapsed form -/

theorem words_of_not_isSpace {w : Text} (hne : w ≠ []) (hw : ∀ c ∈ w, isSpace c = false) :
    words w = [w] := by
  unfold words
  rw [pieces_of_not_p hw]
  simp [hne]

theorem words_cons_of_isSpace {c : Char} (hc : isSpace c = true) (t : Text) :
    words (c :: t) = words t := words_append_cons hc [] t

theorem collapse_of_not_isSpace {w : Text} (hw : ∀ c ∈ w, isSpace c = false) : collapse w = w := by
  unfold collapse words
  rw [pieces_of_not_p hw]
  cases w <;> rfl

theorem collapse_append_cons {w : Text} {c : Char} (hw : ∀ d ∈ w, isSpace d = false)
    (hne : w ≠ []) (hc : isSpace c = true) (t : Text) :
    collapse (w ++ c :: t) = if words t = [] then w else w ++ ' ' :: collapse t := by
  rw [collapse, words_append_cons hc, words_of_not_isSpace hne hw, collapse]
  cases words t with
  | nil => rfl
  | cons v vs => simp [join]

@[simp] theorem collapse_cons_of_isSpace {c : Char} (hc : isSpace c = true) (t : Text) :
    collapse (c :: t) = collapse t :=
  collapse_eq_iff.2 (words_cons_of_isSpace hc t)

/-- Within a run of blanks, squeezing is collapsing, but for blanks at the end. -/
theorem squeezeFrom_true_eq (t : Text) :
    ∃ e, squeezeFrom true t = collapse t ++ e ∧ ∀ c ∈ e, isSpace c = true := by
  induction t using pieces_induction (p := isSpace) with
  | last w hw =>
    have hlast := squeezeFrom_append hw true []
    rw [List.append_nil] at hlast
    refine ⟨[], ?_, by simp⟩
    rw [hlast, collapse_of_not_isSpace hw]
    simp [squeezeFrom]
  | piece w c t hw hc ih =>
    obtain ⟨e, heq, he⟩ := ih
    rw [squeezeFrom_append hw]
    by_cases hne : w = []
    · subst hne
      refine ⟨e, ?_, he⟩
      simpa [squeezeFrom_true_cons_of_isSpace hc, hc] using heq
    · have hrun : (true && w.isEmpty) = false := by simpa using hne
      have hstep : squeezeFrom false (c :: t) = ' ' :: squeezeFrom true t :=
        squeeze_cons_of_isSpace hc t
      rw [hrun, hstep, heq, collapse_append_cons hw hne hc]
      by_cases hwords : words t = []
      · -- no word follows, so the space is at the end
        have hnil : collapse t = [] := by rw [collapse, hwords]; rfl
        rw [if_pos hwords, hnil]
        exact ⟨' ' :: e, rfl, List.forall_mem_cons.2 ⟨rfl, he⟩⟩
      · rw [if_neg hwords]
        exact ⟨e, by simp, he⟩

/-! ## Functions that ignore the layout -/

/-- The value of a function does not depend on the blanks at the two ends of a text. -/
structure IgnoresEnds {β : Type} (F : Text → β) : Prop where
  first : ∀ c t, isSpace c = true → F (c :: t) = F t
  last : ∀ t c, isSpace c = true → F (t ++ [c]) = F t

/-- Nor does it depend on the blanks in a run, as long as there is one. -/
structure IgnoresLayout {β : Type} (F : Text → β) : Prop extends IgnoresEnds F where
  run : ∀ t, F (squeeze t) = F t

section Ignores

variable {β : Type} {F : Text → β}

theorem IgnoresEnds.append (h : IgnoresEnds F) (t : Text) {e : Text}
    (he : ∀ c ∈ e, isSpace c = true) : F (t ++ e) = F t := by
  induction e generalizing t with
  | nil => rw [List.append_nil]
  | cons c e ih =>
    obtain ⟨hc, he⟩ := List.forall_mem_cons.1 he
    rw [List.append_cons, ih _ he, h.last t c hc]

theorem IgnoresEnds.dropWhile (h : IgnoresEnds F) (t : Text) : F (t.dropWhile isSpace) = F t := by
  induction t with
  | nil => rfl
  | cons c t ih =>
    cases hc : isSpace c with
    | true => rw [List.dropWhile_cons_of_pos hc, ih, h.first c t hc]
    | false => rw [List.dropWhile_cons_of_neg (by simp [hc])]

theorem IgnoresEnds.trim (h : IgnoresEnds F) (t : Text) : F t.trim = F t := by
  obtain ⟨e, heq, he⟩ := exists_eq_dropEndWhile_append isSpace (t.dropWhile isSpace)
  have happend := h.append (Text.trim t) he
  change t.dropWhile isSpace = Text.trim t ++ e at heq
  rw [← happend, ← heq, h.dropWhile]

theorem IgnoresLayout.collapse (h : IgnoresLayout F) (t : Text) : F t.collapse = F t := by
  obtain ⟨e, heq, he⟩ := squeezeFrom_true_eq t
  calc F t.collapse = F (t.collapse ++ e) := (h.append _ he).symm
    _ = F (' ' :: squeezeFrom true t) := by rw [h.first ' ' _ rfl, heq]
    _ = F (squeeze (' ' :: t)) := by rw [squeeze_cons_of_isSpace rfl]
    _ = F t := by rw [h.run, h.first ' ' t rfl]

/-- **Layout.** A function that ignores the layout has one value for all texts that collapse to
one. -/
theorem IgnoresLayout.congr (h : IgnoresLayout F) {s t : Text} (hst : s.collapse = t.collapse) :
    F s = F t := by
  rw [← h.collapse s, hst, h.collapse t]

theorem IgnoresLayout.of_imp {γ : Type} {G : Text → γ} (h : IgnoresLayout F)
    (hG : ∀ s t, F s = F t → G s = G t) : IgnoresLayout G where
  first c t hc := hG _ _ (h.first c t hc)
  last t c hc := hG _ _ (h.last t c hc)
  run t := hG _ _ (h.run t)

end Ignores

theorem ignoresLayout_collapse : IgnoresLayout collapse where
  first _ t hc := collapse_cons_of_isSpace hc t
  last t c hc := collapse_eq_iff.2 (by rw [words_append_cons hc]; exact List.append_nil _)
  run := collapse_squeeze

@[simp] theorem collapse_trim (t : Text) : collapse t.trim = collapse t :=
  ignoresLayout_collapse.trim t

/-! ## Trimming -/

theorem ignoresEnds_trim : IgnoresEnds trim where
  first _ _ hc := congrArg trimEnd (List.dropWhile_cons_of_pos hc)
  last t c hc := by
    unfold trim trimEnd
    cases hblank : t.dropWhile isSpace with
    | nil => simp [List.dropWhile_append, hblank, hc]
    | cons d u =>
      rw [List.dropWhile_append, hblank]
      exact List.rdropWhile_concat_pos isSpace (d :: u) c hc

theorem trim_eq_nil {t : Text} : t.trim = [] ↔ ∀ c ∈ t, isSpace c = true := by
  constructor
  · intro h
    have hblank : ∀ c ∈ t.dropWhile isSpace, isSpace c = true := dropEndWhile_eq_nil.1 h
    by_contra hword
    have hne : t.dropWhile isSpace ≠ [] := fun hnil => hword (List.dropWhile_eq_nil_iff.1 hnil)
    have hhead := List.head_dropWhile_not isSpace hne
    rw [hblank _ (List.head_mem hne)] at hhead
    cases hhead
  · exact ignoresEnds_trim.append []

theorem trim_eq_nil_iff_collapse {t : Text} : t.trim = [] ↔ t.collapse = [] := by
  have hblank : IgnoresLayout fun t => t.trim = [] :=
    { first := fun c t hc => by rw [ignoresEnds_trim.first c t hc]
      last := fun t c hc => by rw [ignoresEnds_trim.last t c hc]
      run := fun t => by rw [trim_eq_nil, trim_eq_nil, forall_isSpace_squeeze] }
  constructor
  · intro h
    rw [← collapse_trim, h]
    rfl
  · intro h
    rw [← hblank.collapse t, h]
    rfl

/-! ## Parts of a text -/

/-- Squeezing squeezes both parts, if it leaves the character between them. -/
theorem splitsAt_squeeze {d : Char} (hd : isSpace d = false) {R : Text → Text → Prop} {t : Text} :
    SplitsAt d R (squeeze t) ↔ SplitsAt d (fun s u => R (squeeze s) (squeeze u)) t := by
  constructor
  · rintro ⟨s, u, heq, h⟩
    obtain ⟨s', u', rfl, rfl, rfl⟩ := (squeeze_eq_append_cons hd).1 heq
    exact ⟨s', u', rfl, h⟩
  · rintro ⟨s, u, rfl, h⟩
    exact ⟨_, _, squeeze_append_cons hd s u, h⟩

section Pieces

variable {p : Char → Bool} (hp : ∀ c, isSpace c = true → p c = false) {β : Type} {F : Text → β}

include hp

theorem pieces_squeeze (t : Text) : pieces p (squeeze t) = (pieces p t).map squeeze := by
  have hspace : ∀ {c}, p c = true → isSpace c = false := by
    intro c hc
    refine Bool.eq_false_iff.2 fun hblank => ?_
    rw [hp c hblank] at hc
    cases hc
  have hfree : ∀ {w : Text}, (∀ c ∈ w, p c = false) → ∀ c ∈ squeeze w, p c = false := by
    intro w hw c hc
    refine Bool.eq_false_iff.2 fun hpc => ?_
    rw [hw c ((mem_squeeze (hspace hpc)).1 hc)] at hpc
    cases hpc
  induction t using pieces_induction (p := p) with
  | last w hw => rw [pieces_of_not_p hw, pieces_of_not_p (hfree hw)]; rfl
  | piece w c t hw hc ih =>
    rw [squeeze_append_cons (hspace hc), pieces_append_cons _ (hfree hw) hc,
      pieces_append_cons _ hw hc, ih]
    rfl

theorem IgnoresEnds.map_pieces (h : IgnoresEnds F) :
    IgnoresEnds fun t => (pieces p t).map F where
  first c t hc := by
    cases hw : pieces p t with
    | nil => exact absurd hw (pieces_ne_nil p t)
    | cons w ws => simp [pieces, hp c hc, hw, h.first c w hc]
  last t c hc := by
    have hend := pieces_of_not_p (p := p) (w := [c]) (by simpa using hp c hc)
    induction t using pieces_induction (p := p) with
    | last w hw =>
      have hconcat : ∀ d ∈ w ++ [c], p d = false := by
        simpa [or_imp, forall_and, hp c hc] using hw
      simp [pieces_of_not_p hw, pieces_of_not_p hconcat, h.last w c hc]
    | piece w d t hw hd ih =>
      rw [List.append_assoc, List.cons_append, pieces_append_cons _ hw hd,
        pieces_append_cons _ hw hd, List.map_cons, List.map_cons, ih]

theorem IgnoresLayout.map_pieces (h : IgnoresLayout F) :
    IgnoresLayout fun t => (pieces p t).map F where
  toIgnoresEnds := h.toIgnoresEnds.map_pieces hp
  run t := by
    rw [pieces_squeeze hp, List.map_map]
    exact List.map_congr_left fun w _ => h.run w

end Pieces

end SqlVocabulary.Text
