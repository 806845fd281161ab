import SqlVocabulary.Proofs.Text.Parts

/-!
# What is taken off a line

The lines of a text make it up, and the offset of a line is the size of what stands above it. The
content of a line is what is left when the line ends at its end are taken off.

1. A line is ended by its only line feed. The last line of a text may have none
   (`isEnded_or_last`).
2. What is taken off a line is some number of carriage returns, and then the line feed that ends it,
   if there is one (`exists_returns`).
3. That is one terminator, a line feed with or without a carriage return, unless there are more
   returns than a terminator has: two before a line feed, or any without one (`isTerminator_iff`).
-/

namespace SqlVocabulary.Text

/-! ## Offsets -/

theorem utf8ByteSize_ofList (t : Text) : (String.ofList t).utf8ByteSize = t.byteSize := by
  induction t with
  | nil => rfl
  | cons c t ih =>
    rw [← List.singleton_append, String.ofList_append, String.utf8ByteSize_append, ih,
      ← String.singleton_eq_ofList, String.utf8ByteSize_singleton]
    rfl

theorem map_snd_located (start : Nat) (ps : List Text) :
    (located start ps).map Prod.snd = ps := by
  induction ps generalizing start with
  | nil => rfl
  | cons p ps ih => rw [located, List.map_cons, ih]

/-- The offset of a piece is the size of the pieces above it. -/
theorem offset_of_located_eq_append {start offset : Nat} {ps : List Text} {p : Text}
    {above below : List (Nat × Text)}
    (h : located start ps = above ++ (offset, p) :: below) :
    offset = start + byteSize (above.map Prod.snd).flatten := by
  induction above generalizing start ps with
  | nil =>
    cases ps with
    | nil => cases h
    | cons q ps =>
      obtain ⟨hfirst, -⟩ := List.cons.inj h
      obtain ⟨rfl, -⟩ := Prod.mk.inj hfirst
      rfl
  | cons a above ih =>
    cases ps with
    | nil => cases h
    | cons q ps =>
      obtain ⟨rfl, hrest⟩ := List.cons.inj h
      rw [ih hrest, List.map_cons, List.flatten_cons, byteSize_append, Nat.add_assoc]

/-! ## Ended lines and the last line -/

theorem lines_eq_singleton_iff {l : Text} : lines l = [l] ↔ l.IsEnded ∨ l ≠ [] ∧ '\n' ∉ l := by
  constructor
  · intro h
    cases l using line_induction with
    | last w hw =>
      refine Or.inr ⟨?_, hw⟩
      rintro rfl
      cases h
    | line w t hw =>
      rw [lines_line hw] at h
      obtain ⟨hline, -⟩ := List.cons.inj h
      exact Or.inl ⟨w, hline.symm, hw⟩
  · rintro (⟨w, rfl, hw⟩ | ⟨hne, hl⟩)
    · exact lines_line hw []
    · exact lines_of_not_mem hl hne

theorem isEnded_or_last {t line : Text} {above below : List Text}
    (h : lines t = above ++ line :: below) :
    line.IsEnded ∨ below = [] ∧ line ≠ [] ∧ '\n' ∉ line := by
  by_cases hlast : below = []
  · subst hlast
    have hline := lines_flatten_of_lines_eq_append h
    rw [List.flatten_singleton] at hline
    exact (lines_eq_singleton_iff.1 hline).imp_right fun hfree => ⟨rfl, hfree⟩
  · rw [List.append_cons] at h
    exact Or.inl (isEnded_of_lines_eq_append h hlast line (by simp))

/-! ## Carriage returns at the end of a line -/

theorem exists_returns_of_not_mem {w : Text} (hw : '\n' ∉ w) :
    ∃ k, w = w.lineContent ++ List.replicate k '\r' := by
  obtain ⟨e, he, hends⟩ := exists_eq_dropEndWhile_append isLineEnd w
  change w = w.lineContent ++ e at he
  have hreturns : ∀ c ∈ e, c = '\r' := by
    intro c hc
    have hmem : c ∈ w := he ▸ List.mem_append_right _ hc
    have hne : c ≠ '\n' := ne_of_mem_of_not_mem hmem hw
    simpa [isLineEnd, hne] using hends c hc
  exact ⟨e.length, List.eq_replicate_of_mem hreturns ▸ he⟩

/-- Carriage returns and, below an ended line, its line feed are all that is taken off. -/
theorem exists_returns {line : Text} (h : line.IsEnded ∨ '\n' ∉ line) :
    ∃ k feed, line = line.lineContent ++ (List.replicate k '\r' ++ feed) ∧
      (feed = [] ∨ feed = ['\n']) := by
  rcases h with ⟨w, rfl, hw⟩ | hfree
  · obtain ⟨k, hk⟩ := exists_returns_of_not_mem hw
    refine ⟨k, ['\n'], ?_, Or.inr rfl⟩
    rw [lineContent_append_newline, ← List.append_assoc, ← hk]
  · obtain ⟨k, hk⟩ := exists_returns_of_not_mem hfree
    exact ⟨k, [], by rwa [List.append_nil], Or.inl rfl⟩

theorem replicate_suffix_iff {s : Text} {d : Char} (hs : ∀ c ∈ s.getLast?, c ≠ d) {m k : Nat} :
    List.replicate m d <:+ s ++ List.replicate k d ↔ m ≤ k := by
  constructor
  · intro h
    by_contra hlt
    obtain ⟨n, rfl⟩ : ∃ n, m = n + 1 + k := ⟨m - k - 1, by omega⟩
    rw [← List.replicate_append_replicate, List.suffix_append_self_iff,
      ← List.replicate_append_replicate] at h
    have hlast : [d] <:+ s := (List.suffix_append _ _).trans h
    exact hs d (List.singleton_suffix_iff_getLast?_eq_some.1 hlast) rfl
  · intro h
    obtain ⟨n, rfl⟩ : ∃ n, k = n + m := ⟨k - m, by omega⟩
    rw [← List.replicate_append_replicate, ← List.append_assoc]
    exact List.suffix_append _ _

/-! ## Terminators -/

/-- What may end a line: nothing, a line feed, or a carriage return and a line feed. -/
def IsTerminator (e : Text) : Prop := e = [] ∨ e = ['\n'] ∨ e = ['\r', '\n']

theorem isTerminator_returns {k : Nat} : IsTerminator (List.replicate k '\r') ↔ k = 0 := by
  constructor
  · rintro (h | h | h)
    · simpa using h
    all_goals
      have hmem : '\n' ∈ List.replicate k '\r' := by simp [h]
      exact absurd (List.eq_of_mem_replicate hmem) (by decide)
  · rintro rfl
    exact Or.inl rfl

theorem isTerminator_returns_newline {k : Nat} :
    IsTerminator (List.replicate k '\r' ++ ['\n']) ↔ k ≤ 1 := by
  constructor
  · rintro (h | h | h)
    all_goals
      have hlength := congrArg List.length h
      simp only [List.length_append, List.length_replicate, List.length_cons, List.length_nil]
        at hlength
      omega
  · intro h
    obtain rfl | rfl : k = 0 ∨ k = 1 := by omega
    · exact Or.inr (Or.inl rfl)
    · exact Or.inr (Or.inr rfl)

theorem not_newline_suffix {s : Text} (hs : ∀ c ∈ s.getLast?, isLineEnd c = false) {k : Nat} :
    ¬['\n'] <:+ s ++ List.replicate k '\r' := by
  intro h
  have hlast := List.singleton_suffix_iff_getLast?_eq_some.1 h
  cases k with
  | zero =>
    rw [List.replicate_zero, List.append_nil] at hlast
    cases hs _ hlast
  | succ k =>
    rw [List.replicate_succ', ← List.append_assoc, List.getLast?_concat] at hlast
    exact absurd (Option.some.inj hlast) (by decide)

/-- What is taken off a line with the content `s` is a terminator if and only if the line ends
neither with a carriage return nor with two of them and a line feed. -/
theorem isTerminator_iff {s : Text} (hs : ∀ c ∈ s.getLast?, isLineEnd c = false) {k : Nat}
    {feed : Text} (hfeed : feed = [] ∨ feed = ['\n']) :
    IsTerminator (List.replicate k '\r' ++ feed) ↔
      ¬['\r'] <:+ s ++ (List.replicate k '\r' ++ feed) ∧
        ¬['\r', '\r', '\n'] <:+ s ++ (List.replicate k '\r' ++ feed) := by
  have hreturn : ∀ c ∈ s.getLast?, c ≠ '\r' := by
    rintro c hc rfl
    cases hs _ hc
  have hone : ['\r'] <:+ s ++ List.replicate k '\r' ↔ 1 ≤ k :=
    replicate_suffix_iff (m := 1) hreturn
  have htwo : ['\r', '\r'] <:+ s ++ List.replicate k '\r' ↔ 2 ≤ k :=
    replicate_suffix_iff (m := 2) hreturn
  rcases hfeed with rfl | rfl
  · have hnewline : ¬['\r', '\r', '\n'] <:+ s ++ List.replicate k '\r' :=
      fun h => not_newline_suffix hs ((List.suffix_append ['\r', '\r'] ['\n']).trans h)
    rw [List.append_nil, isTerminator_returns, hone, and_iff_left hnewline]
    omega
  · have hlone : ¬['\r'] <:+ s ++ List.replicate k '\r' ++ ['\n'] := by
      intro h
      exact absurd (List.singleton_suffix_append_singleton_iff.1 h) (by decide)
    have hpair : ['\r', '\r', '\n'] <:+ s ++ List.replicate k '\r' ++ ['\n'] ↔ 2 ≤ k :=
      (List.suffix_append_self_iff : ['\r', '\r'] ++ ['\n'] <:+ _ ↔ _).trans htwo
    rw [← List.append_assoc, isTerminator_returns_newline, and_iff_right hlone, hpair]
    omega

/-- **Lines.** The lines of a text make it up. The offset of a line is the size in UTF-8 of the
lines above it. No line holds a line feed but the one that ends it, which only the last may lack.
The content of a line does not end with a line end, and what was taken off is carriage returns with
at most one line feed below them. This is one terminator if and only if the line ends neither with a
carriage return nor with two of them and a line feed. -/
theorem located_lines (t : Text) :
    ((located 0 t.lines).map Prod.snd).flatten = t ∧
    ∀ (above : List (Nat × Text)) (offset : Nat) (line : Text) (below : List (Nat × Text)),
      located 0 t.lines = above ++ (offset, line) :: below →
      offset = (String.ofList (above.map Prod.snd).flatten).utf8ByteSize ∧
      ((∃ w, line = w ++ ['\n'] ∧ '\n' ∉ w) ∨ below = [] ∧ line ≠ [] ∧ '\n' ∉ line) ∧
      (∀ c ∈ line.lineContent.getLast?, isLineEnd c = false) ∧
      ∃ e, line = line.lineContent ++ e ∧
        (∃ k, e = List.replicate k '\r' ∨ e = List.replicate k '\r' ++ ['\n']) ∧
        (IsTerminator e ↔ ¬['\r'] <:+ line ∧ ¬['\r', '\r', '\n'] <:+ line) := by
  refine ⟨by rw [map_snd_located, flatten_lines], ?_⟩
  intro above offset line below h
  have hlines : t.lines = above.map Prod.snd ++ line :: below.map Prod.snd := by
    rw [← map_snd_located 0 t.lines, h, List.map_append, List.map_cons]
  have hline := isEnded_or_last hlines
  have hcontent : ∀ c ∈ line.lineContent.getLast?, isLineEnd c = false :=
    lineContent_eq_self_iff.1 (lineContent_lineContent line)
  refine ⟨?_, ?_, hcontent, ?_⟩
  · rw [utf8ByteSize_ofList, offset_of_located_eq_append h, Nat.zero_add]
  · rwa [List.map_eq_nil_iff] at hline
  · obtain ⟨k, feed, htaken, hfeed⟩ := exists_returns (hline.imp_right fun hlast => hlast.2.2)
    have hiff := isTerminator_iff hcontent (k := k) hfeed
    rw [← htaken] at hiff
    refine ⟨_, htaken, ⟨k, ?_⟩, hiff⟩
    rcases hfeed with rfl | rfl
    · exact Or.inl (List.append_nil _)
    · exact Or.inr rfl

/-- A text with a line ended by two carriage returns and a line feed, and a return at its end. -/
def returning : Text := "é\r\n\r\r\nb\r".toList

/-- More than a terminator is taken off its second line. -/
theorem located_lines_returning :
    located 0 returning.lines =
      [(0, "é\r\n".toList)] ++ (4, "\r\r\n".toList) :: [(7, "b\r".toList)] ∧
    4 = (String.ofList "é\r\n".toList).utf8ByteSize ∧
    ∃ e, "\r\r\n".toList = lineContent "\r\r\n".toList ++ e ∧ ¬IsTerminator e := by
  have hlocated : located 0 returning.lines =
      [(0, "é\r\n".toList)] ++ (4, "\r\r\n".toList) :: [(7, "b\r".toList)] := by
    decide +kernel
  obtain ⟨hoffset, -, -, e, he, -, hiff⟩ := (located_lines returning).2 _ _ _ _ hlocated
  refine ⟨hlocated, hoffset, e, he, ?_⟩
  intro hterminator
  exact (hiff.1 hterminator).2 (by decide)

/-- So not every line is its content and a terminator. -/
theorem overtrimmed_line :
    ¬∀ t line : Text, line ∈ t.lines → ∃ e, IsTerminator e ∧ line = line.lineContent ++ e := by
  intro h
  obtain ⟨e, he, hline⟩ := h "a\r\r\n".toList "a\r\r\n".toList (by decide)
  have hcontent : lineContent "a\r\r\n".toList = ['a'] := by decide
  rw [hcontent] at hline
  obtain rfl : ['\r', '\r', '\n'] = e := (List.cons.inj hline).2
  revert he
  unfold IsTerminator
  decide

end SqlVocabulary.Text
