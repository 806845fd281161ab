import Mathlib.Data.List.Chain
import Mathlib.Data.List.Nodup
import SqlVocabulary.Proofs.Expansion.Budget
import SqlVocabulary.Proofs.Grammar.Definitions

/-!
# The order of a walk

The log of an expansion tells of each reference that is resolved, with its depth: the number of
rules on the path before it. An entry closes the rules at that depth and beyond, and opens its own.

1. A walk from the end of a path makes its entries there and beyond, whatever was opened beyond the
   end of the path before, and whatever comes after (`stretch_resolve`). So its entries are made one
   after the other, each at the end of a beginning of the path that was open before
   (`descends_expand`).
2. The rules that are open can be told from the entries so far: at each depth, it is the rule of the
   last entry that was made there (`IsOpen`). One more entry keeps this (`IsOpen.enter`).
3. So the entries of an expansion are those of a walk in depth-first order, no deeper than a path
   may be, and on which no rule is open twice (`depthFirst_expand`).
-/

namespace SqlVocabulary

/-- A reference that is resolved: its rule, and how many rules there are on the path before it. -/
structure Entry where
  rule : Nonterminal
  depth : Nat
  deriving DecidableEq

/-- The entry that an event tells of. -/
def Event.entry? : Event → Option Entry
  | .expanding n d => some ⟨n, d⟩
  | _ => none

def Expansion.entered (e : Expansion) : List Entry := e.events.filterMap Event.entry?

theorem filterMap_entry?_outcome (o : Outcome) : o.events.filterMap Event.entry? = [] := by
  cases o <;> rfl

namespace Expansion

@[simp] theorem entered_expanding (n : Nonterminal) (d : Nat) :
    (ofEvent (.expanding n d)).entered = [⟨n, d⟩] := rfl

@[simp] theorem entered_ofOutcome (o : Outcome) : (ofOutcome o).entered = [] :=
  filterMap_entry?_outcome o

@[simp] theorem entered_append (e f : Expansion) :
    (e ++ f).entered = e.entered ++ f.entered := List.filterMap_append

theorem length_entered (e : Expansion) : e.entered.length = e.resolved := by
  unfold entered resolved
  rw [List.length_filterMap_eq_countP]
  refine List.countP_congr fun event _ => ?_
  cases event <;> simp [Event.entry?, Event.isExpanding]

end Expansion

/-! ## Entries and the open path -/

/-- `Descends g base path es`: from where the rules of `path` are open, last one first, the entries
`es` can be made one after the other. Each of them closes some of the open rules, but none of
`base`, and leads on from there to a rule that becomes the last one open. -/
inductive Descends (g : Grammar) (base : List Nonterminal) :
    List Nonterminal → List Entry → Prop where
  | done (path : List Nonterminal) : Descends g base path []
  | enter {closed path : List Nonterminal} {n : Nonterminal} {body : Text} {es : List Entry}
      (hbase : base <:+ path) (hlen : path.length < maxDepth) (ht : g.target path n = .ok body)
      (h : Descends g base (n :: path) es) :
      Descends g base (closed ++ path) (⟨n, path.length⟩ :: es)

/-- Entries that can be made from a path and anything opened beyond it, with whatever can be made
so. -/
def Stretch (g : Grammar) (base path : List Nonterminal) (es : List Entry) : Prop :=
  ∀ after, (∀ closed, Descends g base (closed ++ path) after) →
    ∀ closed, Descends g base (closed ++ path) (es ++ after)

section Stretch

variable {g : Grammar} {base path : List Nonterminal}

theorem Stretch.nil : Stretch g base path [] := fun _ h => h

theorem Stretch.append {es fs : List Entry} (he : Stretch g base path es)
    (hf : Stretch g base path fs) : Stretch g base path (es ++ fs) := by
  intro after h closed
  rw [List.append_assoc]
  exact he (fs ++ after) (hf after h) closed

/-- What is made from the path of a new entry is made, as seen from the old path, beyond it. -/
theorem Stretch.enter {n : Nonterminal} {body : Text} {es : List Entry} (hbase : base <:+ path)
    (hlen : path.length < maxDepth) (ht : g.target path n = .ok body)
    (h : Stretch g base (n :: path) es) : Stretch g base path (⟨n, path.length⟩ :: es) := by
  intro after hafter closed
  refine .enter hbase hlen ht (h after (fun opened => ?_) [])
  have hbeyond := hafter (opened ++ [n])
  rwa [List.append_assoc] at hbeyond

theorem stretch_walkItems {follow : Nonterminal → Budget → Expansion × Budget}
    (h : ∀ n b, Stretch g base path (follow n b).1.entered) (items : List Item) (b : Budget) :
    Stretch g base path (walkItems follow items b).1.entered := by
  refine walkItems_induction (motive := fun e => Stretch g base path e.entered)
    .nil .nil ?outcome ?append h items b
  case outcome =>
    intro o
    rw [Expansion.entered_ofOutcome]
    exact .nil
  case append =>
    intro e f he hf
    rw [Expansion.entered_append]
    exact he.append hf

/-- What is entered at a reference is entered at the end of its path and beyond, if there is no more
room than the path leaves. -/
theorem stretch_resolve (p : Policy) (room : Nat) (path : List Nonterminal) (hbase : base <:+ path)
    (hroom : room ≤ maxDepth - path.length) (n : Nonterminal) (b : Budget) :
    Stretch g base path (resolve g p room path n b).1.entered := by
  refine resolve_induction
    (motive := fun room path _ _ r => base <:+ path → room ≤ maxDepth - path.length →
      Stretch g base path r.1.entered)
    ?spent ?turnsBack ?noRoom ?noBudget ?resolved room path n b hbase hroom
  case spent => exact fun _ _ _ _ _ => .nil
  case turnsBack =>
    intro room path n k o _ _ _
    rw [Expansion.entered_ofOutcome]
    exact .nil
  case noRoom => exact fun _ _ _ _ _ _ _ => .nil
  case noBudget => exact fun _ _ _ _ _ _ _ => .nil
  case resolved =>
    intro room path n k body ht ih hbase hroom
    have hbeyond : room ≤ maxDepth - (n :: path).length := by
      rw [List.length_cons]
      omega
    have hsuffix : base <:+ n :: path := hbase.trans (List.suffix_cons n path)
    have hwalk := stretch_walkItems (fun m b => ih m b hsuffix hbeyond) (p.read body) (.left k)
    rw [Expansion.entered_append, Expansion.entered_expanding]
    exact .enter hbase (by omega) ht hwalk

end Stretch

/-- **Entries.** The entries of an expansion can be made one after the other from the path that it
starts from. -/
theorem descends_expand (body : Text) (g : Grammar) (p : Policy) (path : List Nonterminal) :
    Descends g path.eraseDups path.eraseDups (expand body g p path).entered := by
  have hwalk := stretch_walkItems
    (stretch_resolve (g := g) p (maxDepth - path.eraseDups.length) path.eraseDups
      (List.suffix_refl _) (Nat.le_refl _))
    (p.read body) (.left maxReferences)
  have hentries := hwalk [] (fun _ => .done _) []
  rwa [List.append_nil] at hentries

/-! ## Open rules -/

/-- The rule of the last of some entries that were made at a depth. -/
def latestAt (es : List Entry) (d : Nat) : Option Nonterminal :=
  (es.reverse.find? fun e => e.depth == d).map (·.rule)

/-- The rules that are open after some entries, up to a depth: the last that was entered at each
depth. -/
def openTo (es : List Entry) (d : Nat) : List Nonterminal :=
  (List.range d).filterMap (latestAt es)

theorem latestAt_append_singleton (es : List Entry) (e : Entry) (d : Nat) :
    latestAt (es ++ [e]) d = if e.depth = d then some e.rule else latestAt es d := by
  unfold latestAt
  rw [List.reverse_append, List.reverse_singleton, List.singleton_append]
  by_cases hd : e.depth = d
  · rw [if_pos hd, List.find?_cons_of_pos (by simpa using hd)]
    rfl
  · rw [if_neg hd, List.find?_cons_of_neg (by simpa using hd)]

/-- The rules of `path`, last one first, are different, and those of them that are not in `base` are
open after the entries `es`. -/
structure IsOpen (base : List Nonterminal) (es : List Entry) (path : List Nonterminal) : Prop where
  nodup : path.Nodup
  latest : ∀ d, base.length ≤ d → d < path.length → latestAt es d = path.reverse[d]?
  /-- No entry is made within `base`. -/
  outside : ∀ d, d < base.length → latestAt es d = none

namespace IsOpen

variable {base closed path : List Nonterminal} {es : List Entry}

theorem start (h : base.Nodup) : IsOpen base [] base :=
  ⟨h, fun _ hle hlt => absurd hlt (Nat.not_lt.2 hle), fun _ _ => rfl⟩

theorem close (h : IsOpen base es (closed ++ path)) : IsOpen base es path := by
  refine ⟨(List.nodup_append.1 h.nodup).2.1, fun d hle hlt => ?_, h.outside⟩
  rw [h.latest d hle (by rw [List.length_append]; omega), List.reverse_append,
    List.getElem?_append_left (by rwa [List.length_reverse])]

theorem enter (h : IsOpen base es path) (hbase : base <:+ path) {n : Nonterminal}
    (hn : n ∉ path) : IsOpen base (es ++ [⟨n, path.length⟩]) (n :: path) := by
  have hlen := hbase.length_le
  refine ⟨List.nodup_cons.2 ⟨hn, h.nodup⟩, fun d hle hlt => ?_, fun d hlt => ?_⟩
  · rw [latestAt_append_singleton, List.reverse_cons]
    -- the new depth is that of the new rule, and all below it are as they were
    by_cases hd : path.length = d
    · subst hd
      rw [if_pos rfl, ← List.length_reverse, List.getElem?_concat_length]
    · have hold : d < path.length := by
        rw [List.length_cons] at hlt
        omega
      rw [if_neg hd, h.latest d hle hold,
        List.getElem?_append_left (by rwa [List.length_reverse])]
  · have hd : path.length ≠ d := by omega
    rw [latestAt_append_singleton, if_neg hd]
    exact h.outside d hlt

/-- The rule of the last entry at a depth is the one that stands there on the path. -/
theorem getElem?_of_latestAt (h : IsOpen base es path) {d : Nat} (hd : d < path.length)
    {n : Nonterminal} (hn : latestAt es d = some n) : path.reverse[d]? = some n := by
  rcases Nat.lt_or_ge d base.length with hlt | hle
  · rw [h.outside d hlt] at hn
    cases hn
  · rwa [h.latest d hle hd] at hn

theorem mem_of_latestAt (h : IsOpen base es path) {d : Nat} (hd : d < path.length)
    {n : Nonterminal} (hn : latestAt es d = some n) : n ∈ path :=
  List.mem_reverse.1 (List.mem_of_getElem? (h.getElem?_of_latestAt hd hn))

theorem nodup_openTo (h : IsOpen base es path) : (openTo es path.length).Nodup := by
  have hreverse : path.reverse.Nodup := List.nodup_reverse.2 h.nodup
  refine List.pairwise_filterMap.2 (List.nodup_range.imp_of_mem ?_)
  intro d d' hd hd' hne n hn n' hn' heq
  have hlt := List.mem_range.1 hd
  have hget := h.getElem?_of_latestAt hlt hn
  have hget' := h.getElem?_of_latestAt (List.mem_range.1 hd') hn'
  rw [← heq, ← hget] at hget'
  exact hne ((List.getElem?_inj (by rwa [List.length_reverse]) hreverse).1 hget'.symm)

end IsOpen

/-! ## Where entries are made -/

section Descends

variable {g : Grammar} {base path : List Nonterminal} {es : List Entry}

/-- **Each entry.** An entry is made at the end of a path of rules that are open after the entries
before it. -/
theorem Descends.exists_isOpen (h : Descends g base path es) {earlier : List Entry}
    (hopen : IsOpen base earlier path) {before after : List Entry} {e : Entry}
    (heq : es = before ++ e :: after) :
    ∃ rest body, IsOpen base (earlier ++ before) rest ∧ base <:+ rest ∧
      rest.length = e.depth ∧ e.depth < maxDepth ∧ g.target rest e.rule = .ok body := by
  induction h generalizing earlier before with
  | done => simp at heq
  | @enter closed path n body es hbase hlen ht h ih =>
    cases before with
    | nil =>
      obtain ⟨rfl, -⟩ := List.cons.inj heq
      rw [List.append_nil]
      exact ⟨path, body, hopen.close, hbase, rfl, hlen, ht⟩
    | cons b before =>
      obtain ⟨rfl, htail⟩ := List.cons.inj heq
      have hn : n ∉ path := (target_eq_ok.1 ht).2.2
      have hlater := ih (hopen.close.enter hbase hn) htail
      rwa [List.append_assoc, List.singleton_append] at hlater

theorem Descends.head_depth_le (h : Descends g base path es) :
    ∀ e ∈ es.head?, e.depth ≤ path.length := by
  cases h with
  | done => simp
  | @enter closed path n body es hbase hlen ht h => simp

/-- An entry is at most one deeper than the one before it, whose rule is then the last one open. -/
theorem Descends.isChain (h : Descends g base path es) :
    es.IsChain fun a b => b.depth ≤ a.depth + 1 := by
  induction h with
  | done => exact .nil
  | @enter closed path n body es hbase hlen ht h ih =>
    have hnext : ∀ e ∈ es.head?, e.depth ≤ path.length + 1 := h.head_depth_le
    exact ih.cons hnext

end Descends

/-- The entries `es` are those of a walk in depth-first order from the end of a path, in the limits
of an expansion. -/
structure DepthFirst (g : Grammar) (path : List Nonterminal) (es : List Entry) : Prop where
  length_le : es.length ≤ maxReferences
  head_depth : ∀ e ∈ es.head?, e.depth = path.length
  depth : ∀ e ∈ es, path.length ≤ e.depth ∧ e.depth < maxDepth
  next_depth_le : es.IsChain fun a b => b.depth ≤ a.depth + 1
  rule : ∀ e ∈ es, (g.body? e.rule).isSome ∧ e.rule.isPlaceholder = false ∧ e.rule ∉ path
  /-- At an entry, the rules that are open at smaller depths differ from its rule. -/
  fresh : ∀ before e after, es = before ++ e :: after →
    ∀ d < e.depth, latestAt before d ≠ some e.rule
  /-- They also differ from each other. -/
  nodup : ∀ before e after, es = before ++ e :: after → (openTo before e.depth).Nodup

/-- **Depth-first order.** The entries that the log of an expansion tells of are those of a walk in
depth-first order from the end of the path, whatever the grammar is and wherever the walk is
stopped. The path counts as a set. -/
theorem depthFirst_expand (body : Text) (g : Grammar) (p : Policy) (path : List Nonterminal) :
    DepthFirst g path.eraseDups (expand body g p path).entered := by
  have hdescends := descends_expand body g p path
  have hopen : ∀ before e after, (expand body g p path).entered = before ++ e :: after →
      ∃ rest b, IsOpen path.eraseDups before rest ∧ path.eraseDups <:+ rest ∧
        rest.length = e.depth ∧ e.depth < maxDepth ∧ g.target rest e.rule = .ok b :=
    fun _ _ _ heq => hdescends.exists_isOpen (.start (nodup_eraseDups path)) heq
  have hdepth : ∀ e ∈ (expand body g p path).entered,
      path.eraseDups.length ≤ e.depth ∧ e.depth < maxDepth := by
    intro e he
    obtain ⟨before, after, heq⟩ := List.append_of_mem he
    obtain ⟨rest, b, -, hbase, hlen, hlt, -⟩ := hopen before e after heq
    exact ⟨hlen ▸ hbase.length_le, hlt⟩
  refine ⟨?_, fun e he => ?_, hdepth, hdescends.isChain, fun e he => ?_, ?_, ?_⟩
  · rw [Expansion.length_entered]
    exact resolved_expand_le body g p path
  · exact Nat.le_antisymm (hdescends.head_depth_le e he) (hdepth e (List.mem_of_head? he)).1
  · obtain ⟨before, after, heq⟩ := List.append_of_mem he
    obtain ⟨rest, b, -, hbase, -, -, ht⟩ := hopen before e after heq
    obtain ⟨hplaceholder, hb, hn⟩ := target_eq_ok.1 ht
    exact ⟨by rw [hb]; rfl, hplaceholder, fun hmem => hn (hbase.subset hmem)⟩
  · intro before e after heq d hd hlatest
    obtain ⟨rest, b, hrest, -, hlen, -, ht⟩ := hopen before e after heq
    exact (target_eq_ok.1 ht).2.2 (hrest.mem_of_latestAt (hlen ▸ hd) hlatest)
  · intro before e after heq
    obtain ⟨rest, b, hrest, -, hlen, -, -⟩ := hopen before e after heq
    rw [← hlen]
    exact hrest.nodup_openTo

/-- The second rule is entered below the first, and again beside it. -/
example : (expand "<a> | <b>".toList
    ⟨[⟨.ofText ['a'], "<b> | X".toList⟩, ⟨.ofText ['b'], "<a> | <c>".toList⟩], []⟩
    .statements []).entered =
      [⟨.ofText ['a'], 0⟩, ⟨.ofText ['b'], 1⟩, ⟨.ofText ['b'], 0⟩, ⟨.ofText ['a'], 1⟩] := by
  decide +kernel

end SqlVocabulary
