import SqlVocabulary.Proofs.Tasks
import SqlVocabulary.Vendor.Reader

/-!
# Patterns of a configured table

A table that is configured has patterns in many places: two in each source, and two sources in each
vendor. They are compiled one after the other, and the first that the engine refuses ends it all.
Which texts have the form of a table, and which are patterns, is up to the loader.

1. The texts of the patterns of a draft make one list (`TableDraft.patterns`), and compiling the
   draft fails as compiling this list does (`TableDraft.failure?_compile`). Each level of a draft
   adds one step: a source two patterns, a vendor two sources, a table its vendors.
2. A draft that is compiled keeps all its fields, with patterns in the places of their texts
   (`SourceDraft.Configures`, `VendorDraft.Configures`, `TableDraft.compile_eq_ok_iff`).
3. `VendorTable.ofText_patterns` says both of tables that are read from a text.
-/

namespace SqlVocabulary

/-! ## Cleanups -/

section Engine

variable {engine : Pattern.Engine}

theorem Pattern.compile_eq_ok_iff {t : Text} {p : Pattern} :
    Pattern.compile engine t = .ok p ↔ engine t = some p := by
  unfold compile
  cases engine t <;> simp

theorem Pattern.compile_eq_error_iff {t : Text} {e : Error} :
    Pattern.compile engine t = .error e ↔ engine t = none ∧ e = .invalidPattern t := by
  unfold compile
  cases engine t <;> simp [eq_comm]

theorem Replacement.compile_eq (find template : Text) :
    Replacement.compile engine find template =
      (Pattern.compile engine find).map fun p => ⟨p, template⟩ := by
  unfold compile
  cases Pattern.compile engine find <;> rfl

/-- A replacement with the pattern of a given text, and a given template. -/
def Replacement.Has (engine : Pattern.Engine) (r : Text × Text) (q : Replacement) : Prop :=
  engine r.1 = some q.find ∧ q.template = r.2

theorem Replacement.compile_eq_ok_iff {r : Text × Text} {q : Replacement} :
    Replacement.compile engine r.1 r.2 = .ok q ↔ Replacement.Has engine r q := by
  rw [Replacement.compile_eq, map_eq_ok_iff]
  constructor
  · rintro ⟨p, hp, rfl⟩
    exact ⟨Pattern.compile_eq_ok_iff.1 hp, rfl⟩
  · rintro ⟨hp, ht⟩
    exact ⟨q.find, Pattern.compile_eq_ok_iff.2 hp, by rw [← ht]⟩

theorem Cleanup.failure?_compile (pattern : Option Text) (replacement : Option (Text × Text)) :
    failure? (Cleanup.compile engine pattern replacement) =
      firstFailure? (Pattern.compile engine)
        (pattern.toList ++ (replacement.map (·.1)).toList) := by
  unfold compile
  rw [both_eq, failure?_both, failure?_mapM_option, failure?_mapM_option, firstFailure?_append]
  congr 1
  cases replacement with
  | none => rfl
  | some r =>
    show firstFailure? _ [r] = firstFailure? (Pattern.compile engine) [r.1]
    have hfails : failure? (Replacement.compile engine r.1 r.2) =
        failure? (Pattern.compile engine r.1) := by
      rw [Replacement.compile_eq, failure?_map]
    rw [firstFailure?_cons, firstFailure?_cons, ← hfails]
    rfl

theorem Cleanup.compile_eq_ok_iff {pattern : Option Text} {replacement : Option (Text × Text)}
    {c : Cleanup} :
    Cleanup.compile engine pattern replacement = .ok c ↔
      Option.Rel (fun t p => engine t = some p) pattern c.pattern ∧
        Option.Rel (Replacement.Has engine) replacement c.replacement := by
  obtain ⟨p, r⟩ := c
  unfold compile
  rw [both_eq, both_eq_ok_iff]
  simp only [mapM_option_eq_ok_iff, Pattern.compile_eq_ok_iff, Replacement.compile_eq_ok_iff,
    Cleanup.mk.injEq]
  constructor
  · rintro ⟨_, _, hp, hr, rfl, rfl⟩
    exact ⟨hp, hr⟩
  · rintro ⟨hp, hr⟩
    exact ⟨p, r, hp, hr, rfl, rfl⟩

/-! ## Sources -/

namespace SourceDraft

/-- The texts of the patterns of a source, the one to match with before the one to find. -/
def patterns (d : SourceDraft) : List Text := d.pattern.toList ++ (d.replacement.map (·.1)).toList

/-- A source with the fields of a draft, and with the patterns of the texts of the draft. -/
structure Configures (engine : Pattern.Engine) (d : SourceDraft) (s : Source) : Prop where
  urls : s.urls = d.urls
  format : s.format = d.format
  selectors : s.selectors = d.selectors
  pattern : Option.Rel (fun t p => engine t = some p) d.pattern s.cleanup.pattern
  replacement : Option.Rel (Replacement.Has engine) d.replacement s.cleanup.replacement
  policy : s.policy = d.policy

theorem compile_eq (d : SourceDraft) :
    d.compile engine = (Cleanup.compile engine d.pattern d.replacement).map fun c =>
      ⟨d.urls, d.format, d.selectors, c, d.policy⟩ := by
  unfold compile
  cases Cleanup.compile engine d.pattern d.replacement <;> rfl

theorem failure?_compile (d : SourceDraft) :
    failure? (d.compile engine) = firstFailure? (Pattern.compile engine) d.patterns := by
  rw [compile_eq, failure?_map]
  exact Cleanup.failure?_compile d.pattern d.replacement

theorem compile_eq_ok_iff {d : SourceDraft} {s : Source} :
    d.compile engine = .ok s ↔ d.Configures engine s := by
  rw [compile_eq, map_eq_ok_iff]
  constructor
  · rintro ⟨c, hc, rfl⟩
    obtain ⟨hp, hr⟩ := Cleanup.compile_eq_ok_iff.1 hc
    exact ⟨rfl, rfl, rfl, hp, hr, rfl⟩
  · intro h
    refine ⟨s.cleanup, Cleanup.compile_eq_ok_iff.2 ⟨h.pattern, h.replacement⟩, ?_⟩
    rw [← h.urls, ← h.format, ← h.selectors, ← h.policy]

end SourceDraft

/-! ## Vendors -/

namespace VendorDraft

/-- The texts of the patterns of a vendor, those of commands before those of keywords. -/
def patterns (d : VendorDraft) : List Text :=
  (d.commands.toList ++ d.keywords.toList).flatMap SourceDraft.patterns

/-- A vendor with the fields and the sources of a draft. -/
structure Configures (engine : Pattern.Engine) (d : VendorDraft) (v : Vendor) : Prop where
  skip : v.skip = d.skip
  commands : Option.Rel (SourceDraft.Configures engine) d.commands v.commands
  keywords : Option.Rel (SourceDraft.Configures engine) d.keywords v.keywords

theorem failure?_compile (d : VendorDraft) :
    failure? (d.compile engine) = firstFailure? (Pattern.compile engine) d.patterns := by
  unfold compile
  rw [both_eq, failure?_both, failure?_mapM_option, failure?_mapM_option, ← firstFailure?_append]
  exact firstFailure?_flatMap fun s _ => s.failure?_compile

theorem compile_eq_ok_iff {d : VendorDraft} {v : Vendor} :
    d.compile engine = .ok v ↔ d.Configures engine v := by
  unfold compile
  rw [both_eq, both_eq_ok_iff]
  simp only [mapM_option_eq_ok_iff, SourceDraft.compile_eq_ok_iff]
  constructor
  · rintro ⟨commands, keywords, hcommands, hkeywords, rfl⟩
    exact ⟨rfl, hcommands, hkeywords⟩
  · intro h
    refine ⟨v.commands, v.keywords, h.commands, h.keywords, ?_⟩
    rw [← h.skip]

end VendorDraft

/-! ## Tables -/

namespace TableDraft

/-- The texts of the patterns of all vendors, those that are to be skipped included. -/
def patterns (d : TableDraft) : List Text := d.flatMap fun v => v.2.patterns

theorem compileVendors_eq (d : TableDraft) :
    compileVendors engine d = d.mapM fun v => (v.2.compile engine).map fun w => (v.1, w) := by
  induction d with
  | nil => rfl
  | cons v d ih =>
    rw [mapM_except_cons, ← ih, compileVendors]
    cases v.2.compile engine with
    | error e => rfl
    | ok w => cases compileVendors engine d <;> rfl

theorem compile_eq (d : TableDraft) :
    d.compile engine = (compileVendors engine d).map VendorTable.mk := by
  unfold compile
  cases compileVendors engine d <;> rfl

/-- **First failure.** A table fails as compiling the list of its patterns does. -/
theorem failure?_compile (d : TableDraft) :
    failure? (d.compile engine) = firstFailure? (Pattern.compile engine) d.patterns := by
  rw [compile_eq, failure?_map, compileVendors_eq, failure?_mapM]
  refine firstFailure?_flatMap fun v _ => ?_
  rw [failure?_map, v.2.failure?_compile]

theorem compile_eq_ok_iff {d : TableDraft} {t : VendorTable} :
    d.compile engine = .ok t ↔
      List.Forall₂ (fun v w => w.1 = v.1 ∧ v.2.Configures engine w.2) d t.vendors := by
  have hvendor : ∀ (v : Text × VendorDraft) (w : Text × Vendor),
      ((v.2.compile engine).map fun u => (v.1, u)) = .ok w ↔
        w.1 = v.1 ∧ v.2.Configures engine w.2 := by
    intro v w
    rw [map_eq_ok_iff, ← VendorDraft.compile_eq_ok_iff]
    constructor
    · rintro ⟨u, hu, rfl⟩
      exact ⟨rfl, hu⟩
    · rintro ⟨hname, hw⟩
      exact ⟨w.2, hw, by rw [← hname]⟩
  rw [compile_eq, map_eq_ok_iff, compileVendors_eq]
  simp only [mapM_eq_ok_iff, hvendor]
  constructor
  · rintro ⟨vendors, h, rfl⟩
    exact h
  · intro h
    exact ⟨t.vendors, h, rfl⟩

end TableDraft

end Engine

/-- **The first bad pattern.** A text that has the form of a table gives one when the engine makes
patterns of all its patterns, those of vendors that are to be skipped included. Otherwise it fails
with the first that the engine refuses: vendors come in the order of the table, commands before
keywords, and patterns to match with before those to find. The table has the vendors of the text
under their names and in their order, with the fields that are given there. -/
theorem VendorTable.ofText_patterns (l : Loader) {t : Text} {d : TableDraft}
    (h : l.draft? t = some d) :
    ((∃ table, ofText l t = .ok table) ↔ ∀ p ∈ d.patterns, (l.engine p).isSome) ∧
    (∀ e, ofText l t = .error e ↔ ∃ before p after, d.patterns = before ++ p :: after ∧
      (∀ q ∈ before, (l.engine q).isSome) ∧ l.engine p = none ∧ e = .invalidPattern p) ∧
    ∀ table, ofText l t = .ok table ↔
      List.Forall₂ (fun v w => w.1 = v.1 ∧ v.2.Configures l.engine w.2) d table.vendors := by
  have hcompile : ofText l t = d.compile l.engine := by
    unfold ofText
    rw [h]
  have hpattern : ∀ q, (∃ p, Pattern.compile l.engine q = .ok p) ↔ (l.engine q).isSome := by
    intro q
    simp only [Pattern.compile_eq_ok_iff, Option.isSome_iff_exists]
  rw [hcompile]
  refine ⟨?_, fun e => ?_, fun table => TableDraft.compile_eq_ok_iff⟩
  · rw [← failure?_eq_none, TableDraft.failure?_compile, firstFailure?_eq_none]
    simp only [hpattern]
  · rw [← failure?_eq_some, TableDraft.failure?_compile, firstFailure?_eq_some]
    simp only [hpattern, Pattern.compile_eq_error_iff]
    constructor
    · rintro ⟨before, p, after, hsplit, ⟨hnone, rfl⟩, hbefore⟩
      exact ⟨before, p, after, hsplit, hbefore, hnone, rfl⟩
    · rintro ⟨before, p, after, hsplit, hbefore, hnone, rfl⟩
      exact ⟨before, p, after, hsplit, ⟨hnone, rfl⟩, hbefore⟩

/-- Two vendors, the first of which is to be skipped. -/
def configured : Text :=
  ("a:\n  skip: true\n  commands:\n    urls: u\n    match: x+\n" ++
    "b:\n  keywords:\n    urls: [v, w]\n    selector: s\n    replace: [y, z]\n").toList

def configuredDraft : TableDraft :=
  [(['a'], { skip := true, commands := some { urls := [['u']], pattern := some ['x', '+'] } }),
    (['b'],
    { keywords := some { urls := [['v'], ['w']], selectors := [['s']],
                         replacement := some (['y'], ['z']) } })]

/-- Two vendors with patterns that are none, the first of which is to be skipped. -/
def misconfigured : Text :=
  ("a:\n  skip: true\n  commands:\n    urls: u\n    match: x+\n    replace: ['(', y]\n" ++
    "  keywords:\n    urls: u\n    match: '['\n" ++
    "b:\n  commands:\n    urls: v\n    match: '*'\n").toList

def misconfiguredDraft : TableDraft :=
  [(['a'],
    { skip := true
      commands := some { urls := [['u']], pattern := some ['x', '+'],
                         replacement := some (['('], ['y']) }
      keywords := some { urls := [['u']], pattern := some ['['] } }),
    (['b'], { commands := some { urls := [['v']], pattern := some ['*'] } })]

/-- A table is there where all patterns are patterns. Of several that are none the first counts: it
is one to find among the commands of a vendor that is to be skipped. -/
theorem VendorTable.ofText_patterns_configured :
    (∃ table, ofText .yaml configured = .ok table ∧
      List.Forall₂ (fun v w => w.1 = v.1 ∧ v.2.Configures Regex.engine w.2) configuredDraft
        table.vendors) ∧
    ofText .yaml misconfigured = .error (.invalidPattern ['(']) := by
  have hdraft : Loader.yaml.draft? configured = some configuredDraft := by decide +kernel
  have hbad : Loader.yaml.draft? misconfigured = some misconfiguredDraft := by decide +kernel
  obtain ⟨hok, -, htable⟩ := ofText_patterns .yaml hdraft
  obtain ⟨-, herror, -⟩ := ofText_patterns .yaml hbad
  constructor
  · obtain ⟨table, h⟩ := hok.2 (by decide +kernel)
    exact ⟨table, h, (htable table).1 h⟩
  · refine (herror _).2 ⟨[['x', '+']], ['('], [['['], ['*']], rfl, by decide +kernel, ?_, rfl⟩
    exact Option.isNone_iff_eq_none.1 (by decide +kernel)

end SqlVocabulary
