import SqlVocabulary.Grammar.Alternative
import SqlVocabulary.Proofs.Grammar.Reference

/-!
# What the scanner finds

The scanner takes one character at a time. A character is added to what is pending, or completes it
to a reference, or starts a new lexeme; what follows in each case is said once (`Lexeme.Pushed`).
Two facts about the scan of a whole text come from it by induction.

1. A text has a reference if and only if some opening bracket in it is closed around something
   (`hasReference_iff`).
2. Nothing is lost (`Lexeme.flatMap_text_scan`), and every bar is a lexeme of its own. So the texts
   between the bars that are found are those between the bars of the text (`betweenBars_scan`).
-/

namespace SqlVocabulary

/-! ## References anywhere in a text -/

/-- Some opening bracket in the text is closed around something, be it blanks alone. -/
def Refers : Text → Prop := Text.SplitsAt '<' fun _ rest => Closes (· ≠ []) rest

theorem not_refers_nil : ¬Refers [] := Text.not_splitsAt_nil

theorem refers_cons {c : Char} {t : Text} :
    Refers (c :: t) ↔ (c = '<' ∧ Closes (· ≠ []) t) ∨ Refers t := by
  unfold Refers
  by_cases hc : c = '<'
  · subst hc
    rw [Text.splitsAt_cons_self, and_iff_right rfl]
  · rw [Text.splitsAt_cons hc, or_iff_right (fun h => hc h.1)]

namespace Lexeme

/-! ## One more character -/

def Pending.text : Pending → Text
  | .none => []
  | .blank run | .word run => run.reverse
  | .angle run => '<' :: run.reverse

/-- A text goes on in such a way that what is pending becomes a reference. -/
def Pending.Completed : Pending → Text → Prop
  | .angle run, t => Closes (fun inner => run.reverse ++ inner ≠ []) t
  | _, _ => False

def isReference (l : Lexeme) : Bool := l.kind == .reference

/-- A lexeme is the bar, or there is no bar in its text. -/
def Proper (l : Lexeme) : Prop := l = ⟨.bar, ['|']⟩ ∨ l.kind ≠ .bar ∧ '|' ∉ l.text

/-- What a character can start. -/
inductive Started (c : Char) : List Lexeme × Pending → Prop where
  /-- A lexeme that is pending, and may become a reference after an opening bracket. -/
  | pending {q : Pending} (htext : q.text = [c]) (hbar : c ≠ '|')
      (hq : ∀ t, q.Completed t ↔ c = '<' ∧ Closes (· ≠ []) t) : Started c ([], q)
  /-- A lexeme that is complete. -/
  | complete {l : Lexeme} (htext : l.text = [c]) (hproper : l.Proper) (hl : l.isReference = false)
      (hopen : c ≠ '<') : Started c ([l], .none)

/-- What one more character can do to what is pending. -/
inductive Pushed (p : Pending) (c : Char) : List Lexeme × Pending → Prop where
  /-- It is added to it. -/
  | grow {q : Pending} (htext : q.text = p.text ++ [c]) (hbar : c ≠ '|') (hopen : c ≠ '<')
      (hq : ∀ t, q.Completed t ↔ p.Completed (c :: t)) : Pushed p c ([], q)
  /-- It completes a reference. -/
  | complete (hclose : c = '>') (hp : ∀ t, p.Completed (c :: t)) :
      Pushed p c ([⟨.reference, p.text ++ [c]⟩], .none)
  /-- It starts a new lexeme. -/
  | restart (hp : ∀ t, ¬p.Completed (c :: t)) : Pushed p c (p.restart c)

theorem started (c : Char) : Started c (Pending.start c) := by
  unfold Pending.start
  split_ifs with hopen hclose hbar
  · exact .pending (by rw [hopen]; rfl) (by simp [hopen]) fun t => by rw [and_iff_right hopen]; rfl
  · exact .complete (by rw [hclose]) (Or.inr (by decide)) rfl hopen
  · exact .complete (by rw [hbar]) (Or.inl rfl) rfl hopen
  · exact .pending rfl hbar fun t => (iff_false_right fun h => hopen h.1).2 id
  · exact .pending rfl hbar fun t => (iff_false_right fun h => hopen h.1).2 id

theorem pushed (p : Pending) (c : Char) : Pushed p c (p.push c) := by
  cases p with
  | none => exact .restart fun _ => id
  | blank run =>
    rw [Pending.push]
    split_ifs with hc
    · exact .grow (by simp [Pending.text]) (Text.ne_of_isSpace hc rfl) (Text.ne_of_isSpace hc rfl)
        fun _ => Iff.rfl
    · exact .restart fun _ => id
  | word run =>
    rw [Pending.push]
    split_ifs with hc
    · have hne : c ≠ '<' ∧ c ≠ '|' := by
        simp only [Pending.isWord, Bool.and_eq_true, bne_iff_ne] at hc
        exact ⟨hc.1.1.1, hc.1.2⟩
      exact .grow (by simp [Pending.text]) hne.2 hne.1 fun _ => Iff.rfl
    · exact .restart fun _ => id
  | angle run =>
    rw [Pending.push]
    split_ifs with hclose hempty hmark
    · -- brackets around nothing are no reference
      refine .restart fun t => ?_
      rw [Pending.Completed, hclose, closes_close]
      simpa using hempty
    · have hcompleted : ∀ t, (Pending.angle run).Completed (c :: t) := by
        intro t
        rw [Pending.Completed, hclose, closes_close]
        simpa using hempty
      have hpushed := Pushed.complete hclose hcompleted
      rwa [hclose] at hpushed ⊢
    · refine .restart fun t => ?_
      rw [Pending.Completed, closes_cons hclose]
      exact fun h => not_or.2 h.1 hmark
    · obtain ⟨hopen, hbar⟩ := not_or.1 hmark
      refine .grow (by simp [Pending.text]) hbar hopen fun t => ?_
      rw [Pending.Completed, Pending.Completed, closes_cons hclose, and_iff_right ⟨hopen, hbar⟩]
      simp

/-! ## The references of a text -/

theorem any_isReference_close (p : Pending) : p.close.any isReference = false := by
  cases p <;> rfl

theorem not_completed_nil (p : Pending) : ¬p.Completed [] := by
  cases p with
  | angle run => exact not_closes_nil _
  | _ => exact id

/-- After one more character there is a reference, or one to be completed, if there was one to be
completed, or if the character opens a bracket that is closed. -/
theorem completed_push (p : Pending) (c : Char) (t : Text) :
    ((p.push c).1.any isReference = true ∨ (p.push c).2.Completed t) ↔
      p.Completed (c :: t) ∨ (c = '<' ∧ Closes (· ≠ []) t) := by
  have hpushed := pushed p c
  generalize p.push c = x at hpushed
  cases hpushed with
  | grow htext hbar hopen hq => simp [hq, hopen]
  | complete hclose hp => simp [hp, isReference]
  | restart hp =>
    rw [or_iff_right (hp t), Pending.restart, List.any_append, any_isReference_close]
    have hstarted := started c
    generalize Pending.start c = y at hstarted ⊢
    cases hstarted with
    | pending htext hbar hq => simpa using hq t
    | complete htext hproper hl hopen => simp [hl, hopen, Pending.Completed]

theorem any_isReference_scanFrom {p : Pending} {t : Text} :
    (scanFrom p t).any isReference = true ↔ p.Completed t ∨ Refers t := by
  induction t generalizing p with
  | nil =>
    rw [scanFrom, any_isReference_close]
    simp [not_completed_nil, not_refers_nil]
  | cons c t ih =>
    rw [scanFrom_cons, List.any_append, Bool.or_eq_true, ih, ← or_assoc, completed_push,
      refers_cons, or_assoc]

/-! ## The texts of the lexemes -/

theorem flatMap_text_close (p : Pending) : p.close.flatMap Lexeme.text = p.text := by
  cases p <;> simp [Pending.close, Pending.text]

theorem proper_of_mem_close {p : Pending} (hp : '|' ∉ p.text) : ∀ l ∈ p.close, l.Proper := by
  intro l hl
  cases p with
  | none => cases hl
  | _ =>
    obtain rfl := List.mem_singleton.1 hl
    exact Or.inr ⟨by simp, hp⟩

/-- Some lexemes and what is pending after them are a text, with its bars as lexemes. -/
structure Covers (x : List Lexeme × Pending) (t : Text) : Prop where
  text_eq : x.1.flatMap Lexeme.text ++ x.2.text = t
  proper : ∀ l ∈ x.1, l.Proper
  unbarred : '|' ∉ x.2.text

theorem covers_start (c : Char) : Covers (Pending.start c) [c] := by
  have hstarted := started c
  generalize Pending.start c = x at hstarted ⊢
  cases hstarted with
  | pending htext hbar hq => exact ⟨htext, by simp, by simpa [htext] using hbar.symm⟩
  | complete htext hproper hl hopen =>
    exact ⟨by simp [htext, Pending.text], by simpa using hproper, by simp [Pending.text]⟩

theorem covers_push {p : Pending} (hp : '|' ∉ p.text) (c : Char) :
    Covers (p.push c) (p.text ++ [c]) := by
  have hpushed := pushed p c
  generalize p.push c = x at hpushed ⊢
  cases hpushed with
  | grow htext hbar hopen hq => exact ⟨htext, by simp, by simp [htext, hp, hbar.symm]⟩
  | complete hclose hcompleted =>
    subst hclose
    exact ⟨by simp [Pending.text], by simp [Proper, hp], by simp [Pending.text]⟩
  | restart hcompleted =>
    obtain ⟨htext, hproper, hbar⟩ := covers_start c
    refine ⟨?_, List.forall_mem_append.2 ⟨proper_of_mem_close hp, hproper⟩, hbar⟩
    rw [Pending.restart, List.flatMap_append, flatMap_text_close, List.append_assoc, htext]

theorem scanFrom_spec {p : Pending} (hp : '|' ∉ p.text) (t : Text) :
    (scanFrom p t).flatMap Lexeme.text = p.text ++ t ∧ ∀ l ∈ scanFrom p t, l.Proper := by
  induction t generalizing p with
  | nil => exact ⟨by rw [scanFrom, flatMap_text_close, List.append_nil], proper_of_mem_close hp⟩
  | cons c t ih =>
    obtain ⟨htext, hproper, hbar⟩ := covers_push hp c
    obtain ⟨htexts, hpropers⟩ := ih hbar
    rw [scanFrom_cons]
    refine ⟨?_, List.forall_mem_append.2 ⟨hproper, hpropers⟩⟩
    rw [List.flatMap_append, htexts, ← List.append_assoc, htext, List.append_assoc]
    rfl

/-- **Nothing is lost.** The texts of the lexemes, written one after the other, are the text. -/
theorem flatMap_text_scan (t : Text) : (scan t).flatMap Lexeme.text = t :=
  (scanFrom_spec (p := .none) (by simp [Pending.text]) t).1

theorem proper_of_mem_scan (t : Text) : ∀ l ∈ scan t, l.Proper :=
  (scanFrom_spec (p := .none) (by simp [Pending.text]) t).2

end Lexeme

/-! ## Tokens -/

theorem any_place (K : TokenKind) (ls : List Lexeme) (start : Nat) :
    (Token.place start ls).any (fun tok => tok.kind == K) = ls.any fun l => l.kind == K := by
  induction ls generalizing start with
  | nil => rfl
  | cons l ls ih => rw [Token.place, List.any_cons, List.any_cons, ih]

/-- **References.** A text has a reference if and only if some opening bracket in it is closed
around something, without brackets and bars in between. -/
theorem hasReference_iff {t : Text} : hasReference t = true ↔ Refers t := by
  unfold hasReference Token.scan
  rw [any_place]
  exact Lexeme.any_isReference_scanFrom.trans (or_iff_right id)

theorem betweenBars_cons {tok : Token} (htok : tok.kind ≠ .bar) {ts : List Token}
    (hts : betweenBars ts ≠ []) :
    betweenBars (tok :: ts) = (betweenBars ts).modifyHead (tok.text ++ ·) := by
  rw [betweenBars]
  cases hw : betweenBars ts with
  | nil => exact absurd hw hts
  | cons w ws => cases hkind : tok.kind <;> first | rfl | exact absurd hkind htok

theorem betweenBars_place {ls : List Lexeme} (h : ∀ l ∈ ls, l.Proper) (start : Nat) :
    betweenBars (Token.place start ls) = Text.pieces (· == '|') (ls.flatMap Lexeme.text) := by
  induction ls generalizing start with
  | nil => rfl
  | cons l ls ih =>
    obtain ⟨hl, hls⟩ := List.forall_mem_cons.1 h
    rw [Token.place, List.flatMap_cons]
    rcases hl with rfl | ⟨hkind, hbar⟩
    · exact congrArg ([] :: ·) (ih hls _)
    · have hne : betweenBars (Token.place (start + l.text.byteSize) ls) ≠ [] := by
        rw [ih hls]
        exact Text.pieces_ne_nil _ _
      rw [betweenBars_cons hkind hne, ih hls,
        Text.pieces_append_of_not_p (Text.beq_eq_false_of_not_mem hbar)]

/-- **Bars.** The texts between the bars that the scanner finds are those between the bars of the
text. -/
theorem betweenBars_scan (t : Text) : betweenBars (Token.scan t) = Text.pieces (· == '|') t := by
  rw [Token.scan, betweenBars_place (Lexeme.proper_of_mem_scan t), Lexeme.flatMap_text_scan]

end SqlVocabulary
