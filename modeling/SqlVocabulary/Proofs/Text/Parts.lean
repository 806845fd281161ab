import SqlVocabulary.Proofs.Text.Lines

/-!
# Taking a text apart

The readers of headers and references strip what they expect at the two ends of a text. Each of them
undoes an append, and gives nothing where there is none to undo.

What a reader expects around a character is a relation between the parts before and after it
(`SplitsAt`).
-/

namespace SqlVocabulary.Text

theorem stripEnd?_eq_some {ending t s : Text} : stripEnd? ending t = some s ↔ t = s ++ ending := by
  unfold stripEnd?
  constructor
  · intro h
    split at h
    · rename_i hsuffix
      obtain ⟨r, rfl⟩ := List.isSuffixOf_iff_suffix.1 hsuffix
      rw [List.length_append, Nat.add_sub_cancel, List.take_left] at h
      rw [Option.some.inj h]
    · cases h
  · rintro rfl
    rw [if_pos (List.isSuffixOf_iff_suffix.2 (List.suffix_append s ending)), List.length_append,
      Nat.add_sub_cancel, List.take_left]

theorem unwrap?_eq_some {first last : Char} {t s : Text} :
    unwrap? first last t = some s ↔ t = first :: (s ++ [last]) := by
  cases t with
  | nil => simp [unwrap?]
  | cons c cs =>
    rw [unwrap?]
    constructor
    · intro h
      split at h
      · rename_i hends
        obtain ⟨rfl, hlast⟩ := hends
        obtain ⟨r, rfl⟩ := List.getLast?_eq_some_iff.1 hlast
        rw [List.dropLast_concat] at h
        rw [Option.some.inj h]
      · cases h
    · intro h
      obtain ⟨rfl, rfl⟩ := List.cons.inj h
      simp

/-! ## The two parts at a character -/

/-- A text splits at a character into two parts that are related. -/
def SplitsAt (d : Char) (R : Text → Text → Prop) (t : Text) : Prop :=
  ∃ s u, t = s ++ d :: u ∧ R s u

section SplitsAt

variable {c d : Char} {R : Text → Text → Prop} {t : Text}

theorem not_splitsAt_nil : ¬SplitsAt d R [] := by
  rintro ⟨s, u, h, -⟩
  simp at h

theorem splitsAt_cons_self :
    SplitsAt d R (d :: t) ↔ R [] t ∨ SplitsAt d (fun s u => R (d :: s) u) t := by
  constructor
  · rintro ⟨s, u, heq, h⟩
    cases s with
    | nil =>
      obtain rfl := (List.cons.inj heq).2
      exact Or.inl h
    | cons e s =>
      obtain ⟨rfl, rfl⟩ := List.cons.inj heq
      exact Or.inr ⟨s, u, rfl, h⟩
  · rintro (h | ⟨s, u, rfl, h⟩)
    · exact ⟨[], t, rfl, h⟩
    · exact ⟨d :: s, u, rfl, h⟩

theorem splitsAt_cons (hc : c ≠ d) :
    SplitsAt d R (c :: t) ↔ SplitsAt d (fun s u => R (c :: s) u) t := by
  constructor
  · rintro ⟨s, u, heq, h⟩
    cases s with
    | nil => exact absurd (List.cons.inj heq).1 hc
    | cons e s =>
      obtain ⟨rfl, rfl⟩ := List.cons.inj heq
      exact ⟨s, u, rfl, h⟩
  · rintro ⟨s, u, rfl, h⟩
    exact ⟨c :: s, u, rfl, h⟩

theorem splitsAt_concat (hc : c ≠ d) :
    SplitsAt d R (t ++ [c]) ↔ SplitsAt d (fun s u => R s (u ++ [c])) t := by
  constructor
  · rintro ⟨s, u, heq, h⟩
    rcases List.eq_nil_or_concat u with rfl | ⟨u, e, rfl⟩
    · exact absurd (by simpa using (List.append_inj' heq rfl).2) hc
    · rw [List.concat_eq_append] at heq h
      rw [← List.cons_append, ← List.append_assoc] at heq
      obtain ⟨rfl, hce⟩ := List.append_inj' heq rfl
      obtain rfl : c = e := by simpa using hce
      exact ⟨s, u, rfl, h⟩
  · rintro ⟨s, u, rfl, h⟩
    exact ⟨s, u ++ [c], by simp, h⟩

end SplitsAt

theorem beq_eq_false_of_not_mem {d : Char} {t : Text} (h : d ∉ t) :
    ∀ c ∈ t, (c == d) = false := by
  intro c hc
  simpa using ne_of_mem_of_not_mem hc h

/-- The first of a kind of character in a text has one part before it and one behind it. -/
theorem append_cons_inj {d : Char} {s s' u u' : Text} (hs : d ∉ s) (hs' : d ∉ s')
    (h : s ++ d :: u = s' ++ d :: u') : s = s' ∧ u = u' := by
  have hpieces : ∀ {w : Text} (rest : Text), d ∉ w →
      (pieces (· == d) (w ++ d :: rest)).head? = some w := by
    intro w rest hw
    rw [pieces_append_cons rest (beq_eq_false_of_not_mem hw) (beq_self_eq_true d)]
    rfl
  have hsame : s = s' := by
    have hhead := hpieces u hs
    rw [h, hpieces u' hs'] at hhead
    exact (Option.some.inj hhead).symm
  subst hsame
  exact ⟨rfl, (List.cons.inj (List.append_cancel_left h)).2⟩

/-! ## The end of a text -/

theorem exists_eq_dropEndWhile_append (p : Char → Bool) (t : Text) :
    ∃ e, t = dropEndWhile p t ++ e ∧ ∀ c ∈ e, p c = true :=
  ⟨t.rtakeWhile p, List.rdropWhile_append_rtakeWhile.symm, fun _ => List.mem_rtakeWhile_imp⟩

/-- Trimming gives `s` if no more than `s` is left, and `s` ends with a character that stays. -/
theorem dropEndWhile_concat_append {p : Char → Bool} {c : Char} {e : Text} (s : Text)
    (hc : p c = false) (he : ∀ d ∈ e, p d = true) :
    dropEndWhile p (s ++ [c] ++ e) = s ++ [c] := by
  rw [dropEndWhile_append_of_eq_nil _ (dropEndWhile_eq_nil.2 he)]
  exact List.rdropWhile_concat_neg p s c (by simp [hc])

/-! ## The size of a text -/

@[simp] theorem byteSize_append (s t : Text) : byteSize (s ++ t) = s.byteSize + t.byteSize := by
  induction s with
  | nil => exact (Nat.zero_add _).symm
  | cons c s ih =>
    show c.utf8Size + byteSize (s ++ t) = c.utf8Size + byteSize s + t.byteSize
    rw [ih, Nat.add_assoc]

/-! ## The characters of a text -/

theorem ne_of_isSpace {c d : Char} (hc : isSpace c = true) (hd : isSpace d = false) : c ≠ d := by
  rintro rfl
  rw [hc] at hd
  cases hd

theorem mem_of_mem_pieces {p : Char → Bool} {t w : Text} (hw : w ∈ pieces p t) {c : Char}
    (hc : c ∈ w) : c ∈ t := by
  induction t generalizing w with
  | nil => simp_all [pieces]
  | cons d ds ih =>
    unfold pieces at hw
    split at hw
    · rcases List.mem_cons.1 hw with rfl | hw
      · cases hc
      · exact List.mem_cons_of_mem d (ih hw hc)
    · split at hw
      · rename_i hnil
        exact absurd hnil (pieces_ne_nil p ds)
      · rename_i v vs hvs
        rcases List.mem_cons.1 hw with rfl | hw
        · rcases List.mem_cons.1 hc with rfl | hc
          · exact List.mem_cons_self
          · exact List.mem_cons_of_mem d (ih (hvs ▸ List.mem_cons_self) hc)
        · exact List.mem_cons_of_mem d (ih (hvs ▸ List.mem_cons_of_mem v hw) hc)

theorem mem_join {sep : Text} {ws : List Text} {c : Char} (h : c ∈ join sep ws) :
    c ∈ sep ∨ ∃ w ∈ ws, c ∈ w := by
  induction ws with
  | nil => cases h
  | cons w ws ih =>
    cases ws with
    | nil => exact Or.inr ⟨w, List.mem_cons_self, h⟩
    | cons v vs =>
      rw [join] at h
      rcases List.mem_append.1 h with h | h
      · rcases List.mem_append.1 h with h | h
        · exact Or.inr ⟨w, List.mem_cons_self, h⟩
        · exact Or.inl h
      · rcases ih h with h | ⟨u, hu, h⟩
        · exact Or.inl h
        · exact Or.inr ⟨u, List.mem_cons_of_mem w hu, h⟩
      · simp

theorem mem_of_mem_collapse {t : Text} {c : Char} (h : c ∈ t.collapse) : c = ' ' ∨ c ∈ t := by
  rcases mem_join h with h | ⟨w, hw, h⟩
  · exact Or.inl (List.mem_singleton.1 h)
  · exact Or.inr (mem_of_mem_pieces (List.mem_filter.1 hw).1 h)

theorem eq_space_of_mem_collapse {t : Text} {c : Char} (h : c ∈ t.collapse)
    (hc : isSpace c = true) : c = ' ' := by
  rcases mem_join h with h | ⟨w, hw, h⟩
  · exact List.mem_singleton.1 h
  · rw [(of_mem_words hw).2 c h] at hc
    cases hc

theorem newline_not_mem_collapse (t : Text) : '\n' ∉ t.collapse := by
  intro h
  have hspace := eq_space_of_mem_collapse h rfl
  revert hspace
  decide

end SqlVocabulary.Text
