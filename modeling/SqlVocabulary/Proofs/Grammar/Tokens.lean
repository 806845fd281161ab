import SqlVocabulary.Proofs.Grammar.Scanning

/-!
# The tokens of a text

The scanner cuts a text into tokens, and nothing that stands before a bar or a closed pair of
brackets can keep it from finding them.

1. An opening bracket or a bar ends whatever is pending, so the text before it and the text that it
   starts are scanned apart (`Lexeme.scan_append_cons`). So wherever a bar or a closed pair of
   brackets stands, it is a lexeme of its own (`Lexeme.scan_append_bar`,
   `Lexeme.scan_append_reference`).
2. There are no other bars and references, since each lexeme has a text of its kind
   (`Lexeme.Shaped`). None of these texts is empty.
3. The offset of a token is the size of what stands before it (`Token.offset_eq`). So the texts
   between the bars are what stands between the offsets of the bars (`Token.forall₂_barRanges`).
4. The tokens take the text apart (`Token.Partition`), and `hasReference` tells whether one of them
   is a reference (`Token.scan_partition`).
-/

namespace SqlVocabulary

/-- An opening bracket and a closing one, around something without brackets and bars. -/
def Bracketed (w : Text) : Prop :=
  ∃ inner, w = '<' :: (inner ++ ['>']) ∧ inner ≠ [] ∧ Unmarked inner

namespace Lexeme

/-! ## Bars and closed brackets -/

theorem push_of_mark {c : Char} (hc : c = '<' ∨ c = '|') (p : Pending) :
    p.push c = p.restart c := by
  cases p with
  | none => rfl
  | _ => rcases hc with rfl | rfl <;> rfl

theorem scanFrom_append_cons {c : Char} (hc : c = '<' ∨ c = '|') (p : Pending) (s t : Text) :
    scanFrom p (s ++ c :: t) = scanFrom p s ++ scan (c :: t) := by
  induction s generalizing p with
  | nil =>
    show (p.push c).1 ++ scanFrom (p.push c).2 t = p.close ++ scan (c :: t)
    rw [push_of_mark hc, Pending.restart, List.append_assoc]
    rfl
  | cons d s ih =>
    rw [List.cons_append, scanFrom_cons, scanFrom_cons, ih, List.append_assoc]

/-- **Context.** What stands before an opening bracket or a bar does not matter from there on. -/
theorem scan_append_cons {c : Char} (hc : c = '<' ∨ c = '|') (s t : Text) :
    scan (s ++ c :: t) = scan s ++ scan (c :: t) := scanFrom_append_cons hc .none s t

theorem scan_append_bar (s u : Text) :
    scan (s ++ '|' :: u) = scan s ++ ⟨.bar, ['|']⟩ :: scan u := scan_append_cons (Or.inr rfl) s u

/-- After an opening bracket and the text `run` in reverse, what closes the bracket completes a
reference. -/
theorem scanFrom_angle {run inner : Text} (hne : run ≠ [] ∨ inner ≠ []) (h : Unmarked inner)
    (u : Text) :
    scanFrom (.angle run) (inner ++ '>' :: u) =
      ⟨.reference, '<' :: (run.reverse ++ inner ++ ['>'])⟩ :: scan u := by
  induction inner generalizing run with
  | nil =>
    have hrun : run.isEmpty = false := by simpa using hne
    rw [List.nil_append, scanFrom_cons, List.append_nil]
    simp only [Pending.push, hrun, if_true, Bool.false_eq_true, if_false]
    rfl
  | cons c inner ih =>
    obtain ⟨hopen, hclose, hbar, hfree⟩ := unmarked_cons.1 h
    have hpush : (Pending.angle run).push c = ([], .angle (c :: run)) := by
      simp [Pending.push, hopen, hclose, hbar]
    rw [List.cons_append, scanFrom_cons, hpush, List.nil_append, ih (Or.inl (by simp)) hfree]
    simp

theorem scan_append_reference {w : Text} (hw : Bracketed w) (s u : Text) :
    scan (s ++ w ++ u) = scan s ++ ⟨.reference, w⟩ :: scan u := by
  obtain ⟨inner, rfl, hne, hfree⟩ := hw
  have hassoc : s ++ '<' :: (inner ++ ['>']) ++ u = s ++ '<' :: (inner ++ '>' :: u) := by simp
  rw [hassoc, scan_append_cons (Or.inl rfl)]
  exact congrArg (scan s ++ ·) (scanFrom_angle (Or.inr hne) hfree u)

/-! ## Texts of lexemes -/

/-- What the texts of lexemes are like. -/
inductive Shaped : Lexeme → Prop where
  | reference {w : Text} (h : Bracketed w) : Shaped ⟨.reference, w⟩
  | bar : Shaped ⟨.bar, ['|']⟩
  | blank {w : Text} (hne : w ≠ []) (h : ∀ c ∈ w, Text.isSpace c = true) : Shaped ⟨.blank, w⟩
  | word {w : Text} (hne : w ≠ []) (h : ∀ c ∈ w, Pending.isWord c = true) : Shaped ⟨.text, w⟩
  /-- A closing bracket that closes nothing. -/
  | unopened : Shaped ⟨.text, ['>']⟩
  /-- An opening bracket that is not closed, with what stands behind it. -/
  | unclosed {w : Text} (h : Unmarked w) : Shaped ⟨.text, '<' :: w⟩

/-- What the text of a pending lexeme is like. -/
def Pending.Shaped : Pending → Prop
  | .none => True
  | .blank run => run ≠ [] ∧ ∀ c ∈ run, Text.isSpace c = true
  | .word run => run ≠ [] ∧ ∀ c ∈ run, Pending.isWord c = true
  | .angle run => Unmarked run

theorem unmarked_reverse {t : Text} : Unmarked t.reverse ↔ Unmarked t := by
  unfold Unmarked
  simp only [List.mem_reverse]

theorem shaped_close {p : Pending} (hp : p.Shaped) : ∀ l ∈ p.close, l.Shaped := by
  intro l hl
  cases p with
  | none => cases hl
  | blank run =>
    obtain rfl := List.mem_singleton.1 hl
    exact .blank (by simpa using hp.1) (by simpa using hp.2)
  | word run =>
    obtain rfl := List.mem_singleton.1 hl
    exact .word (by simpa using hp.1) (by simpa using hp.2)
  | angle run =>
    obtain rfl := List.mem_singleton.1 hl
    exact .unclosed (unmarked_reverse.2 hp)

theorem shaped_start (c : Char) :
    (∀ l ∈ (Pending.start c).1, l.Shaped) ∧ (Pending.start c).2.Shaped := by
  unfold Pending.start
  split_ifs with hopen hclose hbar hspace
  · exact ⟨by simp, by simp [Pending.Shaped, Unmarked]⟩
  · exact ⟨by simpa using Shaped.unopened, trivial⟩
  · exact ⟨by simpa using Shaped.bar, trivial⟩
  · exact ⟨by simp, by simpa [Pending.Shaped] using hspace⟩
  · have hword : Pending.isWord c = true := by
      simp [Pending.isWord, hopen, hclose, hbar, Bool.eq_false_iff.2 hspace]
    exact ⟨by simp, by simpa [Pending.Shaped] using hword⟩

theorem shaped_restart {p : Pending} (hp : p.Shaped) (c : Char) :
    (∀ l ∈ (p.restart c).1, l.Shaped) ∧ (p.restart c).2.Shaped :=
  ⟨List.forall_mem_append.2 ⟨shaped_close hp, (shaped_start c).1⟩, (shaped_start c).2⟩

theorem shaped_push {p : Pending} (hp : p.Shaped) (c : Char) :
    (∀ l ∈ (p.push c).1, l.Shaped) ∧ (p.push c).2.Shaped := by
  cases p with
  | none => exact shaped_start c
  | blank run =>
    rw [Pending.push]
    split_ifs with hc
    · exact ⟨by simp, by simp, List.forall_mem_cons.2 ⟨hc, hp.2⟩⟩
    · exact shaped_restart hp c
  | word run =>
    rw [Pending.push]
    split_ifs with hc
    · exact ⟨by simp, by simp, List.forall_mem_cons.2 ⟨hc, hp.2⟩⟩
    · exact shaped_restart hp c
  | angle run =>
    rw [Pending.push]
    split_ifs with hclose hempty hmark
    · exact shaped_restart hp c
    · have hbracketed : Bracketed ('<' :: (run.reverse ++ ['>'])) :=
        ⟨run.reverse, rfl, by simpa using hempty, unmarked_reverse.2 hp⟩
      exact ⟨by simpa using Shaped.reference hbracketed, trivial⟩
    · exact shaped_restart hp c
    · obtain ⟨hopen, hbar⟩ := not_or.1 hmark
      exact ⟨by simp, unmarked_cons.2 ⟨hopen, hclose, hbar, hp⟩⟩

theorem shaped_scanFrom {p : Pending} (hp : p.Shaped) (t : Text) :
    ∀ l ∈ scanFrom p t, l.Shaped := by
  induction t generalizing p with
  | nil => exact shaped_close hp
  | cons c t ih =>
    obtain ⟨hlexemes, hpending⟩ := shaped_push hp c
    rw [scanFrom_cons]
    exact List.forall_mem_append.2 ⟨hlexemes, ih hpending⟩

/-- **Shapes.** Every lexeme of a scan has a text of its kind. -/
theorem shaped_of_mem_scan {t : Text} {l : Lexeme} (h : l ∈ scan t) : l.Shaped :=
  shaped_scanFrom (p := .none) trivial t l h

theorem Shaped.text_ne_nil {l : Lexeme} (h : l.Shaped) : l.text ≠ [] := by
  cases h with
  | reference h =>
    obtain ⟨inner, rfl, -⟩ := h
    simp
  | blank hne h => exact hne
  | word hne h => exact hne
  | _ => simp

end Lexeme

/-! ## Tokens in their places -/

namespace Token

/-- A token without its place. -/
def lexeme (tok : Token) : Lexeme := ⟨tok.kind, tok.text⟩

def texts (toks : List Token) : Text := toks.flatMap (·.text)

/-- Some tokens have one of a kind with the text `w`, between the texts `s` and `u`. -/
def HasAt (toks : List Token) (kind : TokenKind) (s w u : Text) : Prop :=
  ∃ before after, toks = before ++ ⟨kind, w, s.byteSize⟩ :: after ∧ texts before = s ∧
    texts after = u

theorem map_lexeme_place (start : Nat) (ls : List Lexeme) : (place start ls).map lexeme = ls := by
  induction ls generalizing start with
  | nil => rfl
  | cons l ls ih => rw [place, List.map_cons, ih]; rfl

theorem flatMap_text_map_lexeme (toks : List Token) :
    (toks.map lexeme).flatMap Lexeme.text = texts toks := by
  rw [List.flatMap_map]
  rfl

theorem texts_place (start : Nat) (ls : List Lexeme) :
    texts (place start ls) = ls.flatMap Lexeme.text := by
  rw [← flatMap_text_map_lexeme, map_lexeme_place]

theorem place_append (start : Nat) (ls ms : List Lexeme) :
    place start (ls ++ ms) =
      place start ls ++ place (start + Text.byteSize (ls.flatMap Lexeme.text)) ms := by
  induction ls generalizing start with
  | nil => rfl
  | cons l ls ih =>
    rw [List.cons_append, place, place, ih, List.flatMap_cons, Text.byteSize_append, Nat.add_assoc]
    rfl

theorem offset_eq {start : Nat} {ls : List Lexeme} {before after : List Token} {tok : Token}
    (h : place start ls = before ++ tok :: after) :
    tok.offset = start + (texts before).byteSize := by
  induction before generalizing start ls with
  | nil =>
    cases ls with
    | nil => cases h
    | cons l ls =>
      obtain ⟨rfl, -⟩ := List.cons.inj h
      rfl
  | cons b before ih =>
    cases ls with
    | nil => cases h
    | cons l ls =>
      obtain ⟨rfl, hrest⟩ := List.cons.inj h
      have hsize : (texts (⟨l.kind, l.text, start⟩ :: before)).byteSize =
          l.text.byteSize + (texts before).byteSize := Text.byteSize_append _ _
      rw [ih hrest, hsize, Nat.add_assoc]

theorem hasAt_scan {t : Text} {kind : TokenKind} {s w u : Text} :
    HasAt (scan t) kind s w u ↔
      ∃ ls ms, Lexeme.scan t = ls ++ ⟨kind, w⟩ :: ms ∧ ls.flatMap Lexeme.text = s ∧
        ms.flatMap Lexeme.text = u := by
  constructor
  · rintro ⟨before, after, h, rfl, rfl⟩
    have hlexemes := congrArg (List.map lexeme) h
    rw [scan, map_lexeme_place, List.map_append, List.map_cons] at hlexemes
    exact ⟨before.map lexeme, after.map lexeme, hlexemes, flatMap_text_map_lexeme before,
      flatMap_text_map_lexeme after⟩
  · rintro ⟨ls, ms, h, rfl, rfl⟩
    have hplace : scan t = place 0 ls ++
        ⟨kind, w, Text.byteSize (ls.flatMap Lexeme.text)⟩ ::
          place (Text.byteSize (ls.flatMap Lexeme.text) + w.byteSize) ms := by
      rw [scan, h, place_append, Nat.zero_add]
      rfl
    exact ⟨place 0 ls, _, hplace, texts_place 0 ls, texts_place _ ms⟩

section HasAt

variable {t s w u : Text} {kind : TokenKind}

theorem HasAt.eq_append (h : HasAt (scan t) kind s w u) : t = s ++ w ++ u := by
  obtain ⟨ls, ms, hscan, rfl, rfl⟩ := hasAt_scan.1 h
  rw [← Lexeme.flatMap_text_scan t, hscan, List.flatMap_append, List.flatMap_cons,
    List.append_assoc]

theorem HasAt.shaped (h : HasAt (scan t) kind s w u) : Lexeme.Shaped ⟨kind, w⟩ := by
  obtain ⟨ls, ms, hscan, -⟩ := hasAt_scan.1 h
  apply Lexeme.shaped_of_mem_scan (t := t)
  rw [hscan]
  exact List.mem_append_right ls List.mem_cons_self

theorem hasAt_bar : HasAt (scan t) .bar s w u ↔ w = ['|'] ∧ t = s ++ w ++ u := by
  constructor
  · intro h
    have hw : w = ['|'] := by
      cases h.shaped
      rfl
    exact ⟨hw, h.eq_append⟩
  · rintro ⟨rfl, rfl⟩
    refine hasAt_scan.2 ⟨Lexeme.scan s, Lexeme.scan u, ?_, Lexeme.flatMap_text_scan s,
      Lexeme.flatMap_text_scan u⟩
    rw [List.append_assoc]
    exact Lexeme.scan_append_bar s u

theorem hasAt_reference : HasAt (scan t) .reference s w u ↔ Bracketed w ∧ t = s ++ w ++ u := by
  constructor
  · intro h
    have hw : Bracketed w := by
      cases h.shaped
      assumption
    exact ⟨hw, h.eq_append⟩
  · rintro ⟨hw, rfl⟩
    exact hasAt_scan.2 ⟨Lexeme.scan s, Lexeme.scan u, Lexeme.scan_append_reference hw s u,
      Lexeme.flatMap_text_scan s, Lexeme.flatMap_text_scan u⟩

end HasAt

/-! ## What stands between the bars -/

/-- The part of a text in a range of offsets. Both ends of the range fall between characters. -/
def SliceIs (t : Text) (range : Nat × Nat) (w : Text) : Prop :=
  ∃ s u, t = s ++ w ++ u ∧ s.byteSize = range.1 ∧ (s ++ w).byteSize = range.2

/-- The ranges between the bars, the first from `start` on, the last up to `stop`. -/
def barRanges (start stop : Nat) : List Token → List (Nat × Nat)
  | [] => [(start, stop)]
  | tok :: toks =>
    match tok.kind with
    | .bar => (start, tok.offset) :: barRanges (tok.offset + tok.text.byteSize) stop toks
    | _ => barRanges start stop toks

theorem barRanges_cons {tok : Token} (h : tok.kind ≠ .bar) (start stop : Nat)
    (toks : List Token) : barRanges start stop (tok :: toks) = barRanges start stop toks := by
  rw [barRanges]
  cases hkind : tok.kind <;> first | rfl | exact absurd hkind h

/-- Here `before` ends with the last bar so far, if there was one, and `cur` is what was found after
it. -/
theorem forall₂_barRanges_place {t : Text} {ls : List Lexeme} (before cur : Text)
    (hcur : ∀ c ∈ cur, (c == '|') = false) (ht : t = before ++ cur ++ ls.flatMap Lexeme.text)
    (hls : ∀ l ∈ ls, l.Proper) :
    List.Forall₂ (SliceIs t)
      (barRanges before.byteSize t.byteSize (place (before ++ cur).byteSize ls))
      (Text.pieces (· == '|') (cur ++ ls.flatMap Lexeme.text)) := by
  induction ls generalizing before cur with
  | nil =>
    have hslice : SliceIs t (before.byteSize, t.byteSize) cur :=
      ⟨before, [], ht, rfl, by rw [ht, List.flatMap_nil, List.append_nil]⟩
    rw [List.flatMap_nil, List.append_nil, Text.pieces_of_not_p hcur]
    exact .cons hslice .nil
  | cons l ls ih =>
    obtain ⟨hl, hproper⟩ := List.forall_mem_cons.1 hls
    rw [List.flatMap_cons] at ht ⊢
    rcases hl with rfl | ⟨hkind, hbar⟩
    · have hslice : SliceIs t (before.byteSize, (before ++ cur).byteSize) cur :=
        ⟨before, _, ht, rfl, rfl⟩
      have hsize : (before ++ cur).byteSize + Text.byteSize ['|'] =
          (before ++ cur ++ ['|']).byteSize := (Text.byteSize_append _ _).symm
      have hrest := ih (before ++ cur ++ ['|']) [] (by simp) (by simp [ht]) hproper
      rw [List.append_nil, List.nil_append, ← hsize] at hrest
      rw [List.singleton_append, Text.pieces_append_cons _ hcur rfl]
      exact .cons hslice hrest
    · have hgrown : ∀ c ∈ cur ++ l.text, (c == '|') = false :=
        List.forall_mem_append.2 ⟨hcur, Text.beq_eq_false_of_not_mem hbar⟩
      have hrest := ih before (cur ++ l.text) hgrown (by simp [ht]) hproper
      rw [← List.append_assoc, Text.byteSize_append (before ++ cur), List.append_assoc] at hrest
      rw [place, barRanges_cons hkind]
      exact hrest

/-- **Slices.** What stands between the bars of a text is its part in the ranges between the offsets
of the bars. -/
theorem forall₂_barRanges (t : Text) :
    List.Forall₂ (SliceIs t) (barRanges 0 t.byteSize (scan t)) (betweenBars (scan t)) := by
  rw [betweenBars_scan]
  have h := forall₂_barRanges_place [] [] (by simp) (Lexeme.flatMap_text_scan t).symm
    (Lexeme.proper_of_mem_scan t)
  rw [List.nil_append, Lexeme.flatMap_text_scan] at h
  exact h

theorem exists_barRanges_eq_cons (start stop : Nat) (toks : List Token) :
    ∃ stop' rest, barRanges start stop toks = (start, stop') :: rest := by
  induction toks with
  | nil => exact ⟨stop, [], rfl⟩
  | cons tok toks ih =>
    by_cases hkind : tok.kind = .bar
    · rw [barRanges, hkind]
      exact ⟨_, _, rfl⟩
    · rw [barRanges_cons hkind]
      exact ih

/-- Between one range and the next there is a bar, and nothing else. -/
theorem isChain_barRanges {toks : List Token} (h : ∀ tok ∈ toks, tok.kind = .bar → tok.text = ['|'])
    (start stop : Nat) : (barRanges start stop toks).IsChain fun r r' => r'.1 = r.2 + 1 := by
  induction toks generalizing start with
  | nil => exact .singleton _
  | cons tok toks ih =>
    obtain ⟨htok, htoks⟩ := List.forall_mem_cons.1 h
    by_cases hkind : tok.kind = .bar
    · have hbar : barRanges start stop (tok :: toks) =
          (start, tok.offset) :: barRanges (tok.offset + 1) stop toks := by
        rw [barRanges, hkind, htok hkind]
        rfl
      have hrest := ih htoks (tok.offset + 1)
      obtain ⟨stop', rest, heq⟩ := exists_barRanges_eq_cons (tok.offset + 1) stop toks
      rw [heq] at hbar hrest
      rw [hbar]
      exact .cons_cons rfl hrest
    · rw [barRanges_cons hkind]
      exact ih htoks start

/-! ## The partition -/

/-- The tokens take a text apart, without gaps, and with its bars and references. -/
structure Partition (t : Text) (toks : List Token) : Prop where
  texts_eq : texts toks = t
  text_ne_nil : ∀ tok ∈ toks, tok.text ≠ []
  offset_eq : ∀ before tok after, toks = before ++ tok :: after →
    tok.offset = (texts before).byteSize
  /-- What stands between the bars can be cut out at the offsets of the bars. -/
  slices : List.Forall₂ (SliceIs t) (barRanges 0 t.byteSize toks) (betweenBars toks)
  /-- From one cut to the next there is a bar. -/
  ordered : (barRanges 0 t.byteSize toks).IsChain fun r r' => r'.1 = r.2 + 1
  bar_iff : ∀ s w u, HasAt toks .bar s w u ↔ w = ['|'] ∧ t = s ++ w ++ u
  reference_iff : ∀ s w u, HasAt toks .reference s w u ↔ Bracketed w ∧ t = s ++ w ++ u

theorem shaped_of_mem {t : Text} {tok : Token} (h : tok ∈ scan t) : tok.lexeme.Shaped := by
  have hmem : tok.lexeme ∈ (scan t).map lexeme := List.mem_map_of_mem h
  rw [scan, map_lexeme_place] at hmem
  exact Lexeme.shaped_of_mem_scan hmem

theorem text_eq_of_bar {tok : Token} (h : tok.lexeme.Shaped) (hkind : tok.kind = .bar) :
    tok.text = ['|'] := by
  obtain ⟨kind, text, offset⟩ := tok
  obtain rfl : kind = .bar := hkind
  cases h
  rfl

theorem partition_scan (t : Text) : Partition t (scan t) where
  texts_eq := (texts_place 0 _).trans (Lexeme.flatMap_text_scan t)
  text_ne_nil _ htok := (shaped_of_mem htok).text_ne_nil
  offset_eq before tok after h := by rw [offset_eq h, Nat.zero_add]
  slices := forall₂_barRanges t
  ordered := isChain_barRanges (fun _ htok => text_eq_of_bar (shaped_of_mem htok)) 0 _
  bar_iff _ _ _ := hasAt_bar
  reference_iff _ _ _ := hasAt_reference

/-- **Partition.** The tokens of a text take it apart, whatever brackets and bars there are in it,
and it has a reference if and only if there is something in brackets anywhere in it. -/
theorem scan_partition (t : Text) :
    Partition t (scan t) ∧
      (hasReference t = true ↔ ∃ s w u, t = s ++ w ++ u ∧ Bracketed w) := by
  refine ⟨partition_scan t, ?_⟩
  rw [hasReference_iff]
  constructor
  · rintro ⟨s, _, rfl, inner, u, rfl, hfree, hne⟩
    exact ⟨s, '<' :: (inner ++ ['>']), u, by simp, inner, rfl, hne, hfree⟩
  · rintro ⟨s, _, u, rfl, inner, rfl, hne, hfree⟩
    exact ⟨s, inner ++ '>' :: u, by simp, inner, u, rfl, hfree, hne⟩

/-- A bracket that is not closed takes along what is behind it, up to the next opening bracket. -/
example : (scan "a < b <c>".toList).map lexeme =
    [⟨.text, ['a']⟩, ⟨.blank, [' ']⟩, ⟨.text, "< b ".toList⟩, ⟨.reference, "<c>".toList⟩] := by
  decide

end Token

end SqlVocabulary
