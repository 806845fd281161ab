import SqlVocabulary.Proofs.Extraction.Flattening

/-!
# Vendors that are skipped

A table is gone through vendor by vendor. Those that are to be skipped take no part in it: they
neither fail nor ask for documents, so that nothing is lost when they are left out beforehand.

1. A run asks for the addresses of the sources of the vendors that are left, and for nothing else:
   grammars and markup are read without asking (`Run.Asks`).
2. The result is put together from these vendors alone (`Extractor.result_extractVendors`), and
   that of each from its two sources, commands before keywords.
3. `Extractor.extractTable_active` draws the conclusions for whole tables.
-/

namespace SqlVocabulary

/-- The sources of a vendor, commands before keywords. -/
def Vendor.sources (v : Vendor) : List Source := v.commands.toList ++ v.keywords.toList

/-- The addresses of these sources, repeated ones included. -/
def Vendor.urls (v : Vendor) : List Text := v.sources.flatMap (·.urls)

namespace VendorTable

/-- The sources of the vendors that are not to be skipped, in the order of the table. -/
def sources (t : VendorTable) : List Source := t.active.flatMap fun v => v.2.sources

def urls (t : VendorTable) : List Text := t.sources.flatMap (·.urls)

variable {v : Text × Vendor} (vs : List (Text × Vendor))

theorem active_skipped (h : v.2.skip = true) : active ⟨v :: vs⟩ = active ⟨vs⟩ :=
  List.filter_cons_of_neg (by simp [h])

theorem active_kept (h : v.2.skip = false) : active ⟨v :: vs⟩ = v :: active ⟨vs⟩ :=
  List.filter_cons_of_pos (by simp [h])

theorem active_active (t : VendorTable) : active ⟨t.active⟩ = t.active := by
  unfold active
  rw [List.filter_filter]
  simp only [Bool.and_self]

theorem urls_skipped (h : v.2.skip = true) : urls ⟨v :: vs⟩ = urls ⟨vs⟩ := by
  rw [urls, sources, active_skipped vs h]
  rfl

theorem urls_kept (h : v.2.skip = false) : urls ⟨v :: vs⟩ = v.2.urls ++ urls ⟨vs⟩ := by
  rw [urls, sources, active_kept vs h, List.flatMap_cons, List.flatMap_append]
  rfl

end VendorTable

/-! ## What is asked for -/

theorem Provider.asks_fetchAll (p : Provider) (urls : List Text) : (p.fetchAll urls).Asks urls := by
  have hfetch : ∀ url, (p.fetch url).Asks [url] := fun _ _ _ => rfl
  have h := Run.asks_sequence p.fetchAll rfl (fun _ _ => rfl) hfetch urls
  rwa [List.flatMap_singleton'] at h

theorem Grammar.asks_expandRule (g : Grammar) (selector : Text) (p : Policy) :
    (g.expandRule selector p).Asks [] := by
  unfold expandRule expandNonterminal
  split
  · exact (Run.asks_report _).bind fun _ => Run.asks_pure _
  · exact Run.asks_fail _ _

theorem Cleanup.asks_run (c : Cleanup) (literals : List Text) : (c.run literals).Asks [] :=
  (Run.asks_report _).bind fun _ => Run.asks_pure _

namespace Extractor

variable (x : Extractor)

/-- What is selected in a document is found without asking for another one. -/
theorem asks_select (s : Source) (d : Text) : (x.select s d).Asks [] := by
  unfold select
  cases s.format with
  | grammar =>
    have hexpand : ((Grammar.ofText d).expandSelectors s.policy s.selectors).Asks [] :=
      Run.asks_sequence_nothing ((Grammar.ofText d).expandSelectors s.policy) rfl
        (fun _ _ => rfl) (fun selector => (Grammar.ofText d).asks_expandRule selector s.policy)
        s.selectors
    exact (Run.asks_report _).bind fun _ => hexpand.bind fun _ => Run.asks_pure _
  | markup =>
    show (selectFromMarkup x.reader s d).Asks []
    unfold selectFromMarkup
    split
    · exact Run.asks_fail _ _
    · split
      · exact Run.asks_fail _ _
      · exact (Run.asks_report _).bind fun _ => Run.asks_pure _

theorem asks_extractSource (s : Source) : (x.extractSource s).Asks s.urls := by
  have hdocument : ∀ d, (x.extractDocument s d).Asks [] := fun d =>
    (x.asks_select s d).bind fun _ => (s.cleanup.asks_run _).bind fun _ => Run.asks_pure _
  have hdocuments : ∀ ds, (x.extractDocuments s ds).Asks [] :=
    Run.asks_sequence_nothing (x.extractDocuments s) rfl (fun _ _ => rfl) hdocument
  exact (x.provider.asks_fetchAll s.urls).bind_nothing fun ds =>
    (hdocuments ds).bind fun _ => (Run.asks_report _).bind fun _ => Run.asks_pure _

theorem asks_extractHalf (half : Option Source) :
    (x.extractHalf half).Asks (half.toList.flatMap (·.urls)) := by
  cases half with
  | none => exact Run.asks_pure _
  | some s =>
    rw [Option.toList_some, List.flatMap_singleton]
    exact x.asks_extractSource s

theorem asks_extractVendor_skipped (name : Text) {v : Vendor} (h : v.skip = true) :
    (x.extractVendor name v).Asks [] := by
  unfold extractVendor
  rw [if_pos h]
  exact (Run.asks_report _).bind fun _ => Run.asks_pure _

theorem asks_extractVendor (name : Text) {v : Vendor} (h : v.skip = false) :
    (x.extractVendor name v).Asks v.urls := by
  unfold extractVendor
  rw [if_neg (Bool.eq_false_iff.1 h), Vendor.urls, Vendor.sources, List.flatMap_append]
  exact (x.asks_extractHalf v.commands).bind fun _ =>
    (x.asks_extractHalf v.keywords).bind_nothing fun _ => Run.asks_pure _

/-- Vendors ask for the documents of those that are not to be skipped, in their order. -/
theorem asks_extractVendors (vs : List (Text × Vendor)) :
    (x.extractVendors vs).Asks (VendorTable.mk vs).urls := by
  induction vs with
  | nil => exact Run.asks_pure _
  | cons v vs ih =>
    cases hskip : v.2.skip with
    | true =>
      rw [VendorTable.urls_skipped vs hskip]
      exact (x.asks_extractVendor_skipped v.1 hskip).bind fun _ =>
        ih.bind_nothing fun _ => Run.asks_pure _
    | false =>
      rw [VendorTable.urls_kept vs hskip]
      exact (x.asks_extractVendor v.1 hskip).bind fun _ =>
        ih.bind_nothing fun _ => Run.asks_pure _

/-! ## Results -/

/-- The vocabulary of a vendor that is not to be skipped, from its two halves. -/
def vocabulary (v : Text × Vendor) : Except Error Vocabulary :=
  (x.extractHalf v.2.commands).result.bind fun commands =>
    (x.extractHalf v.2.keywords).result.map fun keywords => ⟨v.1, commands, keywords⟩

theorem result_extractVendor_skipped (name : Text) {v : Vendor} (h : v.skip = true) :
    (x.extractVendor name v).result = .ok none := by
  unfold extractVendor
  rw [if_pos h]
  rfl

theorem result_extractVendor (name : Text) {v : Vendor} (h : v.skip = false) :
    (x.extractVendor name v).result = (x.vocabulary (name, v)).map some := by
  unfold extractVendor vocabulary
  rw [if_neg (Bool.eq_false_iff.1 h), Run.result_bind]
  cases (x.extractHalf v.commands).result with
  | error e => rfl
  | ok commands =>
    refine (Run.result_bind_pure _ _).trans ?_
    show _ = ((x.extractHalf v.keywords).result.map _).map some
    cases (x.extractHalf v.keywords).result <;> rfl

/-- **Left out.** The vendors that are not to be skipped have their vocabularies, one after the
other, as if there were no others. -/
theorem result_extractVendors (vs : List (Text × Vendor)) :
    (x.extractVendors vs).result = (VendorTable.mk vs).active.mapM x.vocabulary := by
  induction vs with
  | nil => rfl
  | cons v vs ih =>
    rw [extractVendors, Run.result_bind]
    cases hskip : v.2.skip with
    | true =>
      rw [x.result_extractVendor_skipped v.1 hskip, VendorTable.active_skipped vs hskip, ← ih]
      refine (Run.result_bind_pure _ _).trans ?_
      cases (x.extractVendors vs).result <;> rfl
    | false =>
      rw [x.result_extractVendor v.1 hskip, VendorTable.active_kept vs hskip, mapM_except_cons,
        ← ih]
      cases x.vocabulary v with
      | error e => rfl
      | ok w => exact Run.result_bind_pure (x.extractVendors vs) (w :: ·)

/-- What is extracted for a half of a vendor: nothing where there is no source. -/
def Fills : Option Source → Extracted → Prop
  | none, e => e = .absent
  | some s, e => (x.extractSource s).result = .ok e

variable {x}

theorem result_extractHalf_iff {half : Option Source} {e : Extracted} :
    (x.extractHalf half).result = .ok e ↔ x.Fills half e := by
  cases half with
  | none =>
    have habsent : (x.extractHalf none).result = .ok .absent := rfl
    rw [habsent, Except.ok.injEq, Fills, eq_comm]
  | some s => exact Iff.rfl

theorem vocabulary_eq_ok_iff {v : Text × Vendor} {w : Vocabulary} :
    x.vocabulary v = .ok w ↔
      w.vendor = v.1 ∧ x.Fills v.2.commands w.commands ∧ x.Fills v.2.keywords w.keywords := by
  simp only [← result_extractHalf_iff]
  unfold vocabulary
  rw [both_eq_ok_iff]
  constructor
  · rintro ⟨commands, keywords, hcommands, hkeywords, rfl⟩
    exact ⟨rfl, hcommands, hkeywords⟩
  · rintro ⟨hname, hcommands, hkeywords⟩
    exact ⟨w.commands, w.keywords, hcommands, hkeywords, by rw [← hname]⟩

theorem failure?_extractHalf (half : Option Source) :
    failure? (x.extractHalf half).result =
      firstFailure? (fun s => (x.extractSource s).result) half.toList := by
  cases half with
  | none => rfl
  | some s =>
    rw [Option.toList_some, firstFailure?_cons]
    exact (Option.or_none).symm

theorem failure?_vocabulary (v : Text × Vendor) :
    failure? (x.vocabulary v) =
      firstFailure? (fun s => (x.extractSource s).result) v.2.sources := by
  unfold vocabulary
  rw [failure?_both, failure?_extractHalf, failure?_extractHalf, Vendor.sources,
    firstFailure?_append]

section Agreement

variable {p : Provider}

/-- A source does not tell apart providers that agree on its documents. -/
theorem extractSource_agree {s : Source} (h : ∀ url ∈ s.urls, p url = x.provider url) :
    (Extractor.extractSource ⟨p, x.reader⟩ s).result = (x.extractSource s).result := by
  have hfetch : (p.fetchAll s.urls).result = (x.provider.fetchAll s.urls).result := by
    rw [Provider.result_fetchAll, Provider.result_fetchAll]
    refine mapM_congr_forall₂ (List.forall₂_same.2 fun url hurl => ?_)
    unfold Provider.fetch
    rw [h url hurl]
  rw [result_extractSource, result_extractSource, hfetch]
  rfl

theorem vocabulary_agree {v : Text × Vendor} (h : ∀ url ∈ v.2.urls, p url = x.provider url) :
    Extractor.vocabulary ⟨p, x.reader⟩ v = x.vocabulary v := by
  have hhalf : ∀ half : Option Source, (∀ s ∈ half, s ∈ v.2.sources) →
      (Extractor.extractHalf ⟨p, x.reader⟩ half).result = (x.extractHalf half).result := by
    intro half hsources
    cases half with
    | none => rfl
    | some s =>
      exact extractSource_agree fun url hurl =>
        h url (List.mem_flatMap.2 ⟨s, hsources s rfl, hurl⟩)
  have hcommands := hhalf v.2.commands fun s hs =>
    List.mem_append_left _ (Option.mem_toList.2 hs)
  have hkeywords := hhalf v.2.keywords fun s hs =>
    List.mem_append_right _ (Option.mem_toList.2 hs)
  unfold vocabulary
  rw [hcommands, hkeywords]

end Agreement

/-- **Skipped vendors are invisible.** A table comes to the same without the vendors that are to be
skipped. If it has a value, there is one vocabulary for each of the other vendors, in the order of
the table, nothing stands where a source is absent, and the documents asked for are those of their
sources. If it fails, it fails as the first of these sources that does, commands before keywords.
What providers answer elsewhere makes no difference. -/
theorem extractTable_active (x : Extractor) (t : VendorTable) :
    (x.extractTable ⟨t.active⟩).result = (x.extractTable t).result ∧
    (∀ ws, (x.extractTable t).result = .ok ws →
      List.Forall₂ (fun v w => w.vendor = v.1 ∧ x.Fills v.2.commands w.commands ∧
        x.Fills v.2.keywords w.keywords) t.active ws ∧
      (x.extractTable t).fetched.Perm t.urls) ∧
    failure? (x.extractTable t).result =
      firstFailure? (fun s => (x.extractSource s).result) t.sources ∧
    ∀ p : Provider, (∀ url ∈ t.urls, p url = x.provider url) →
      (Extractor.extractTable ⟨p, x.reader⟩ t).result = (x.extractTable t).result := by
  have hresult : ∀ (y : Extractor) (u : VendorTable),
      (y.extractTable u).result = u.active.mapM y.vocabulary := fun y u =>
    y.result_extractVendors u.vendors
  refine ⟨?_, fun ws hws => ⟨?_, ?_⟩, ?_, fun p hp => ?_⟩
  · rw [hresult, hresult, VendorTable.active_active]
  · rw [hresult] at hws
    exact (mapM_eq_ok_iff.1 hws).imp fun v w hw => vocabulary_eq_ok_iff.1 hw
  · exact .of_eq (x.asks_extractVendors t.vendors ws hws)
  · rw [hresult, failure?_mapM]
    exact firstFailure?_flatMap fun v _ => failure?_vocabulary v
  · -- each of the vendors sees only addresses of the table
    rw [hresult, hresult]
    refine mapM_congr_forall₂ (List.forall₂_same.2 fun v hv => vocabulary_agree fun url hurl => ?_)
    obtain ⟨s, hs, hurl⟩ := List.mem_flatMap.1 hurl
    exact hp url (List.mem_flatMap.2 ⟨s, List.mem_flatMap.2 ⟨v, hv, hs⟩, hurl⟩)

end Extractor

/-- Two vendors that are to be skipped, one of them without its document, and two others. -/
def skipping : VendorTable :=
  ⟨[(['a'], { skip := true, commands := some (pageSource [['9']] [['s']]) }),
    (['b'], { keywords := some (pageSource [['2'], ['2']] [['s']]) }),
    (['c'], { skip := true }),
    (['d'], { commands := some (pageSource [['1']] [['u']]) })]⟩

/-- The vocabularies of the two others. -/
def others : List Vocabulary :=
  [⟨['b'], .absent, ⟨[['Y'], ['Y']], true, []⟩⟩, ⟨['d'], ⟨[['X']], true, []⟩, .absent⟩]

/-- Two vendors that are not to be skipped, and fail. -/
def failing : VendorTable :=
  ⟨[(['a'], { skip := true, commands := some (pageSource [['9']] [['s']]) }),
    (['b'], { commands := some (pageSource [['2']] [['s']]),
              keywords := some (pageSource [['1']] [['t']]) }),
    (['c'], { commands := some (pageSource [['9']] [['s']]) })]⟩

/-- A provider that has one more document. -/
def morePages : Provider := fun url => if url = ['9'] then .ok [] else pages.provider url

/-- A vendor that is to be skipped does no harm if its document is missing, and no good if it is
there; and of two vendors that fail the first one counts. -/
theorem Extractor.extractTable_active_pages :
    (pages.extractTable ⟨skipping.active⟩).result = .ok others ∧
    (pages.extractTable skipping).fetched.Perm [['2'], ['2'], ['1']] ∧
    (Extractor.extractTable ⟨morePages, none⟩ skipping).result = .ok others ∧
    (pages.extractTable failing).result = .error (.unknownSelector (.ofText ['t'])) := by
  have hothers : (pages.extractTable skipping).result = .ok others := by decide +kernel
  obtain ⟨hactive, hvalue, -, hagree⟩ := pages.extractTable_active skipping
  obtain ⟨-, -, hfailure, -⟩ := pages.extractTable_active failing
  have hmore : ∀ url ∈ skipping.urls, morePages url = pages.provider url := by decide
  refine ⟨hactive.trans hothers, (hvalue others hothers).2, (hagree morePages hmore).trans hothers,
    failure?_eq_some.1 ?_⟩
  rw [hfailure]
  decide +kernel

end SqlVocabulary
