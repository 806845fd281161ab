import SqlVocabulary.Yaml.Node

/-!
# Documents without aliases

Aliases are followed in two steps. `link` gives every anchor a slot and every alias the slot that
its name took last; `unfold` then puts what fills a slot in the place of each alias. An alias inside
the node that it stands for has no unfolding. An unfolding may be much larger than its text, so the
aliases met in it are counted, and a document with too many of them is refused.
-/

namespace SqlVocabulary

namespace Yaml

namespace Node

/-- A node whose aliases are slots. -/
abbrev Linked := Node Nat

/-- A node without aliases. -/
abbrev Tree := Node Empty

mutual

/-- The size of a node: what opens and what closes a collection counts as well. -/
def weight {Ref : Type} : Node Ref → Nat
  | .scalar _ _ _ | .alias _ => 1
  | .sequence _ items => 2 + itemsWeight items
  | .mapping _ entries => 2 + entriesWeight entries

def itemsWeight {Ref : Type} : List (Node Ref) → Nat
  | [] => 0
  | n :: ns => n.weight + itemsWeight ns

def entriesWeight {Ref : Type} : List (Node Ref × Node Ref) → Nat
  | [] => 0
  | (k, v) :: es => k.weight + v.weight + entriesWeight es

end

/-! ## Slots -/

/-- The slots that anchors took, each name once. -/
abbrev Slots := List (Text × Nat)

namespace Slots

/-- The slot for the next anchor: the number of different names so far. A name that is taken again
does not count again, so two anchors may have one slot. -/
def next (slots : Slots) : Nat := slots.length

/-- The slots after the start of a node. -/
def enter (slots : Slots) (p : Properties) : Slots :=
  match p.anchor with
  | some name => (name, slots.next) :: slots.filter fun s => s.1 != name
  | none => slots

/-- The slot that a name took last. -/
def find? (slots : Slots) (name : Text) : Option Nat :=
  (List.find? (fun s => s.1 == name) slots).map (·.2)

end Slots

/-- What fills the slots, in the order in which the nodes start. -/
abbrev Fillings := List (Nat × Linked)

/-- What a node with given properties fills, if the next slot was `slot` at its start. -/
def filling (slot : Nat) (p : Properties) (n : Linked) : Fillings :=
  if p.anchor.isSome then [(slot, n)] else []

mutual

/-- Turns the names of aliases into slots. An alias must follow an anchor with its name. -/
def link (slots : Slots) : Named → Option (Linked × Fillings × Slots)
  | .alias name => (slots.find? name).map fun s => (.alias s, [], slots)
  | .scalar p text style =>
    let n := .scalar p text style
    some (n, filling slots.next p n, slots.enter p)
  | .sequence p items =>
    match linkItems (slots.enter p) items with
    | some (items, inner, after) =>
      let n := .sequence p items
      some (n, filling slots.next p n ++ inner, after)
    | none => none
  | .mapping p entries =>
    match linkEntries (slots.enter p) entries with
    | some (entries, inner, after) =>
      let n := .mapping p entries
      some (n, filling slots.next p n ++ inner, after)
    | none => none

def linkItems (slots : Slots) : List Named → Option (List Linked × Fillings × Slots)
  | [] => some ([], [], slots)
  | n :: ns =>
    match link slots n with
    | none => none
    | some (n, first, slots) =>
      match linkItems slots ns with
      | some (ns, rest, slots) => some (n :: ns, first ++ rest, slots)
      | none => none

def linkEntries (slots : Slots) :
    List (Named × Named) → Option (List (Linked × Linked) × Fillings × Slots)
  | [] => some ([], [], slots)
  | (k, v) :: es =>
    match link slots k with
    | none => none
    | some (k, first, slots) =>
      match link slots v with
      | none => none
      | some (v, second, slots) =>
        match linkEntries slots es with
        | some (es, rest, slots) => some ((k, v) :: es, first ++ second ++ rest, slots)
        | none => none

end

/-! ## Unfolding -/

/-- A node without aliases, and how many were met in it. -/
structure Unfolded where
  node : Tree
  aliases : Nat

mutual

/-- Puts the unfolding of its slot in the place of each alias. -/
def unfold (filled : Nat → Option Unfolded) : Linked → Option Unfolded
  | .alias slot => (filled slot).map fun u => ⟨u.node, u.aliases + 1⟩
  | .scalar p text style => some ⟨.scalar p text style, 0⟩
  | .sequence p items =>
    (unfoldItems filled items).map fun (items, aliases) => ⟨.sequence p items, aliases⟩
  | .mapping p entries =>
    (unfoldEntries filled entries).map fun (entries, aliases) => ⟨.mapping p entries, aliases⟩

def unfoldItems (filled : Nat → Option Unfolded) : List Linked → Option (List Tree × Nat)
  | [] => some ([], 0)
  | n :: ns =>
    match unfold filled n, unfoldItems filled ns with
    | some u, some (ns, aliases) => some (u.node :: ns, u.aliases + aliases)
    | _, _ => none

def unfoldEntries (filled : Nat → Option Unfolded) :
    List (Linked × Linked) → Option (List (Tree × Tree) × Nat)
  | [] => some ([], 0)
  | (k, v) :: es =>
    match unfold filled k, unfold filled v, unfoldEntries filled es with
    | some k, some v, some (es, aliases) =>
      some ((k.node, v.node) :: es, k.aliases + v.aliases + aliases)
    | _, _, _ => none

end

/-- The last filling of each slot. -/
def lastFillings : Fillings → Fillings
  | [] => []
  | f :: fs => if fs.any fun g => g.1 == f.1 then lastFillings fs else f :: lastFillings fs

/-- What is known of a slot. -/
def known (table : List (Nat × Unfolded)) (slot : Nat) : Option Unfolded :=
  (table.find? fun e => e.1 == slot).map (·.2)

/-- The unfoldings of the slots in which aliases are nested at most that deep. -/
def unfoldFillings (fillings : Fillings) : (depth : Nat) → List (Nat × Unfolded)
  | 0 => []
  | depth + 1 =>
    let table := unfoldFillings fillings depth
    fillings.filterMap fun (slot, n) => (unfold (known table) n).map fun u => (slot, u)

/-- How many aliases an unfolding may have for each unit of the size of its document. -/
def maxAliases : Nat := 100

/-- The tree of a document. Slots that are not unfolded at a depth of their own number lead back to
themselves. -/
def tree? (n : Named) : Option Tree :=
  match link [] n with
  | none => none
  | some (root, fillings, _) =>
    let fillings := lastFillings fillings
    match unfold (known (unfoldFillings fillings fillings.length)) root with
    | some u => if u.aliases ≤ maxAliases * n.weight then some u.node else none
    | none => none

end Node

/-- Reads a text: its only document, or nothing if it has none. The text must be well formed and
have no second document. -/
def document? (t : Text) : Option (Option Node.Tree) :=
  match Node.root? t with
  | none => none
  | some none => some none
  | some (some n) => (Node.tree? n).map some

end Yaml

end SqlVocabulary
