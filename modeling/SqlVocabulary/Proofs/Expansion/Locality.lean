import SqlVocabulary.Expansion.Selectors
import SqlVocabulary.Proofs.Expansion.Lockstep
import SqlVocabulary.Proofs.Grammar.Lookup

/-!
# What an expansion depends on

The expansion of a body comes to the rules that the body mentions, to those that their bodies
mention, and so on (`InReach`). If two grammars agree on the rules in reach of a body, then the body
expands alike in both, under every policy, on every path, and whether or not a bound is
met (`expand_inReach`). All other rules can be added, removed, changed and put into another order.

The walks of the two grammars go in lockstep, and the rules in reach are a set that they do not
leave.
-/

namespace SqlVocabulary

/-- A body mentions a rule if a reference to it leads one of its alternatives. -/
def Mentions (body : Text) (n : Nonterminal) : Prop :=
  ∃ a ∈ alternatives body, leadingReference? a = some n

theorem mentions_iff {body : Text} {n : Nonterminal} :
    Mentions body n ↔ n ∈ (alternatives body).filterMap leadingReference? :=
  List.mem_filterMap.symm

/-- The rules in reach of a body: those that it mentions, and those that are mentioned by the body
of a rule in reach. -/
inductive InReach (g : Grammar) (body : Text) : Nonterminal → Prop where
  | mention {n : Nonterminal} (h : Mentions body n) : InReach g body n
  | step {m n : Nonterminal} {b : Text} (h : InReach g body m) (hb : g.body? m = some b)
      (hn : Mentions b n) : InReach g body n

theorem mentions_of_follow {p : Policy} {body : Text} {n : Nonterminal}
    (h : .follow n ∈ p.read body) : Mentions body n := by
  cases hp : p.followLeading with
  | true =>
    obtain ⟨-, a, ha, -, hn⟩ := (follow_mem_read hp).1 h
    exact ⟨a, ha, hn⟩
  | false => exact absurd h (follow_not_mem_read hp body n)

section Agree

variable {g h : Grammar} {body : Text}

/-- Grammars that agree on the rules in reach of a body expand it alike. -/
theorem expand_congr (hagree : ∀ n, InReach g body n → g.body? n = h.body? n) (p : Policy)
    (path : List Nonterminal) : expand body g p path = expand body h p path := by
  have hg : ∀ n, InReach g body n →
      Option.Rel (Abreast p p id id (InReach g body)) (g.body? n) (h.body? n) := by
    intro n hn
    rw [← hagree n hn]
    rcases hb : g.body? n with _ | b
    · exact .none
    · exact .some ⟨rfl, fun m hm => .step hn hb (mentions_of_follow hm)⟩
  exact (expand_lockstep hg ⟨rfl, fun n hn => .mention (mentions_of_follow hn)⟩ path).eq

theorem body?_congr (hg : g.Distinct) (hh : h.Distinct) {n : Nonterminal}
    (hrules : ∀ b, ⟨n, b⟩ ∈ g.rules ↔ ⟨n, b⟩ ∈ h.rules) : g.body? n = h.body? n := by
  ext b
  rw [Grammar.body?_eq_some_iff hg, Grammar.body?_eq_some_iff hh, hrules b]

theorem expandSelectors_congr (hagree : ∀ n, g.body? n = h.body? n) (p : Policy)
    (selectors : List Text) : g.expandSelectors p selectors = h.expandSelectors p selectors := by
  induction selectors with
  | nil => rfl
  | cons s ss ih =>
    have hrule : g.expandRule s p = h.expandRule s p := by
      unfold Grammar.expandRule Grammar.expandNonterminal
      rw [hagree]
      split
      · rename_i b _
        rw [expand_congr (fun n _ => hagree n)]
      · rfl
    unfold Grammar.expandSelectors
    rw [hrule, ih]

end Agree

/-- **Locality.** A body expands alike in two grammars that agree on the rules in its reach: that
define the same of them, with the same bodies. So it does if they have the same rules in reach,
whatever their other rules are and in whatever order all of them stand. And grammars that are the
same up to the order of their rules expand everything alike. -/
theorem expand_inReach (g h : Grammar) (body : Text) (p : Policy) (path : List Nonterminal) :
    ((∀ n, InReach g body n → g.get? n.name = h.get? n.name) →
      expand body g p path = expand body h p path) ∧
    (g.Distinct → h.Distinct →
      (∀ r : Rule, InReach g body r.name → (r ∈ g.rules ↔ r ∈ h.rules)) →
        expand body g p path = expand body h p path) ∧
    (g.Distinct → h.Distinct → g.same h = true →
      expand body g p path = expand body h p path ∧
        ∀ selectors, g.expandSelectors p selectors = h.expandSelectors p selectors) := by
  refine ⟨fun hagree => ?_, fun hg hh hrules => ?_, fun hg hh hsame => ?_⟩
  · refine expand_congr (fun n hn => ?_) p path
    simpa only [Grammar.get?_eq_body?, n.ofText_name] using hagree n hn
  · exact expand_congr (fun n hn => body?_congr hg hh fun b => hrules ⟨n, b⟩ hn) p path
  · have hagree : ∀ n, g.body? n = h.body? n := fun n =>
      body?_congr hg hh fun b => Grammar.mem_rules_of_same hg hh hsame ⟨n, b⟩
    exact ⟨expand_congr (fun n _ => hagree n) p path, expandSelectors_congr hagree p⟩

/-- Two rules that lead to each other, and to one that is not defined. -/
def wheel : Grammar :=
  ⟨[⟨.ofText ['s'], "<t> | <u>".toList⟩, ⟨.ofText ['t'], "<s> | X".toList⟩], []⟩

/-- The same two rules the other way round. -/
def turnedWheel : Grammar :=
  ⟨[⟨.ofText ['t'], "<s> | X".toList⟩, ⟨.ofText ['s'], "<t> | <u>".toList⟩], []⟩

/-- The same two rules, after one that is out of their reach. -/
def spokedWheel : Grammar := ⟨⟨.ofText ['v'], "<s>".toList⟩ :: turnedWheel.rules, []⟩

/-- What the first of the rules leads to. -/
def wheelRules : List Nonterminal := [.ofText ['s'], .ofText ['t'], .ofText ['u']]

theorem mem_wheelRules {n : Nonterminal} (h : InReach wheel "<s>".toList n) : n ∈ wheelRules := by
  induction h with
  | mention h =>
    have hroot : ∀ n ∈ (alternatives "<s>".toList).filterMap leadingReference?, n ∈ wheelRules := by
      decide +kernel
    exact hroot _ (mentions_iff.1 h)
  | step _ hb h ih =>
    have hclosed : ∀ m ∈ wheelRules, ∀ b ∈ wheel.body? m,
        ∀ n ∈ (alternatives b).filterMap leadingReference?, n ∈ wheelRules := by
      decide +kernel
    exact hclosed _ ih _ hb _ (mentions_iff.1 h)

/-- The expansion sees neither the order of the rules nor the one that is out of reach. -/
theorem expand_inReach_wheel :
    (InReach wheel "<s>".toList (.ofText ['u']) ∧
      wheel.get? ['v'] ≠ spokedWheel.get? ['v'] ∧ wheel.rules ≠ turnedWheel.rules ∧
      wheel.same turnedWheel = true) ∧
      expand "<s>".toList wheel .statements [] = expand "<s>".toList spokedWheel .statements [] ∧
      expand "<s>".toList wheel .words [] = expand "<s>".toList spokedWheel .words [] ∧
      wheel.expandSelectors .statements [['s'], ['t']] =
        turnedWheel.expandSelectors .statements [['s'], ['t']] := by
  have hwheel : wheel.Distinct := by unfold Grammar.Distinct; decide
  have hturned : turnedWheel.Distinct := by unfold Grammar.Distinct; decide
  have hspoked : spokedWheel.Distinct := by unfold Grammar.Distinct; decide
  have hreach : InReach wheel "<s>".toList (.ofText ['u']) := by
    have hroot : Mentions "<s>".toList (.ofText ['s']) := mentions_iff.2 (by decide +kernel)
    have hbody : wheel.body? (.ofText ['s']) = some "<t> | <u>".toList := rfl
    exact .step (.mention hroot) hbody (mentions_iff.2 (by decide +kernel))
  have hagree : ∀ n, InReach wheel "<s>".toList n →
      wheel.get? n.name = spokedWheel.get? n.name := by
    have hall : ∀ n ∈ wheelRules, wheel.get? n.name = spokedWheel.get? n.name := by
      decide +kernel
    exact fun n hn => hall n (mem_wheelRules hn)
  have hrules : ∀ r : Rule, InReach wheel "<s>".toList r.name →
      (r ∈ wheel.rules ↔ r ∈ spokedWheel.rules) := by
    have hleft : ∀ r ∈ wheel.rules, r ∈ spokedWheel.rules := by decide +kernel
    have hright : ∀ r ∈ spokedWheel.rules, r.name ∈ wheelRules → r ∈ wheel.rules := by
      decide +kernel
    exact fun r hr => ⟨hleft r, fun h => hright r h (mem_wheelRules hr)⟩
  have hsame : wheel.same turnedWheel = true := by decide +kernel
  refine ⟨⟨hreach, by decide +kernel, by decide +kernel, hsame⟩, ?_, ?_, ?_⟩
  · exact (expand_inReach wheel spokedWheel _ _ _).1 hagree
  · exact (expand_inReach wheel spokedWheel _ _ _).2.1 hwheel hspoked hrules
  · exact ((expand_inReach wheel turnedWheel "<s>".toList .statements []).2.2 hwheel
      hturned hsame).2 _

end SqlVocabulary
