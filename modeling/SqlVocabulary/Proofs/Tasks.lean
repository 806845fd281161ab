import Mathlib.Data.List.Forall2

/-!
# Tasks that may fail

Lists of things are gone through in one manner all over: each item is a task that has a value or
fails, the tasks are done one after the other, and the first one that fails ends the whole. What
this comes to is said here without the doing.

1. A list of tasks fails as the first of its tasks that does (`failure?_mapM`), and the tasks before
   that one have values (`firstFailure?_eq_some`). Tasks that are lists of tasks themselves count as
   one long list (`firstFailure?_flatMap`).
2. It has a value if and only if every task has one (`mapM_eq_ok_iff`).
3. The same is said of two tasks (`failure?_both`, `both_eq_ok_iff`) and of a task that may be left
   out (`failure?_mapM_option`, `mapM_option_eq_ok_iff`).
-/

namespace SqlVocabulary

variable {α β γ δ ε : Type}

/-! ## The first failure -/

def failure? : Except ε α → Option ε
  | .ok _ => none
  | .error e => some e

/-- The error of the first of some tasks that fails. -/
def firstFailure? (f : α → Except ε β) (xs : List α) : Option ε :=
  xs.findSome? fun x => failure? (f x)

theorem failure?_eq_none {r : Except ε α} : failure? r = none ↔ ∃ a, r = .ok a := by
  cases r <;> simp [failure?]

theorem failure?_eq_some {r : Except ε α} {e : ε} : failure? r = some e ↔ r = .error e := by
  cases r <;> simp [failure?]

@[simp] theorem failure?_map (r : Except ε α) (F : α → β) : failure? (r.map F) = failure? r := by
  cases r <;> rfl

theorem firstFailure?_cons (f : α → Except ε β) (x : α) (xs : List α) :
    firstFailure? f (x :: xs) = (failure? (f x)).or (firstFailure? f xs) := by
  unfold firstFailure?
  rw [List.findSome?_cons]
  cases failure? (f x) <;> rfl

theorem firstFailure?_append (f : α → Except ε β) (xs ys : List α) :
    firstFailure? f (xs ++ ys) = (firstFailure? f xs).or (firstFailure? f ys) :=
  List.findSome?_append

theorem firstFailure?_eq_none {f : α → Except ε β} {xs : List α} :
    firstFailure? f xs = none ↔ ∀ x ∈ xs, ∃ b, f x = .ok b := by
  simp only [firstFailure?, List.findSome?_eq_none_iff, failure?_eq_none]

theorem firstFailure?_eq_some {f : α → Except ε β} {xs : List α} {e : ε} :
    firstFailure? f xs = some e ↔
      ∃ before x after, xs = before ++ x :: after ∧ f x = .error e ∧
        ∀ y ∈ before, ∃ b, f y = .ok b := by
  simp only [firstFailure?, List.findSome?_eq_some_iff, failure?_eq_none, failure?_eq_some]

theorem firstFailure?_flatMap {f : α → Except ε β} {g : γ → Except ε δ} {parts : α → List γ}
    {xs : List α} (h : ∀ x ∈ xs, failure? (f x) = firstFailure? g (parts x)) :
    firstFailure? f xs = firstFailure? g (xs.flatMap parts) := by
  induction xs with
  | nil => rfl
  | cons x xs ih =>
    obtain ⟨hx, h⟩ := List.forall_mem_cons.1 h
    rw [firstFailure?_cons, List.flatMap_cons, firstFailure?_append, hx, ih h]

/-! ## Results of tasks -/

theorem map_eq_ok_iff {r : Except ε α} {F : α → β} {b : β} :
    r.map F = .ok b ↔ ∃ a, r = .ok a ∧ F a = b := by
  cases r <;> simp [Except.map]

theorem map_eq_map_iff {r : Except ε α} {s : Except ε β} {F : α → γ} {G : β → γ} :
    r.map F = s.map G ↔
      (∃ e, r = .error e ∧ s = .error e) ∨ ∃ a b, r = .ok a ∧ s = .ok b ∧ F a = G b := by
  cases r <;> cases s <;> simp [Except.map, eq_comm]

theorem map_map_result (r : Except ε α) (F : α → β) (G : β → γ) :
    (r.map F).map G = r.map fun a => G (F a) := by
  cases r <;> rfl

theorem both_eq (r : Except ε α) (s : Except ε β) (F : α → β → γ) :
    (do let a ← r; let b ← s; return F a b) = r.bind fun a => s.map (F a) := by
  cases r with
  | error e => rfl
  | ok a => cases s <;> rfl

theorem failure?_both (r : Except ε α) (s : Except ε β) (F : α → β → γ) :
    failure? (r.bind fun a => s.map (F a)) = (failure? r).or (failure? s) := by
  cases r with
  | error e => rfl
  | ok a => exact failure?_map s (F a)

theorem both_eq_ok_iff {r : Except ε α} {s : Except ε β} {F : α → β → γ} {c : γ} :
    (r.bind fun a => s.map (F a)) = .ok c ↔ ∃ a b, r = .ok a ∧ s = .ok b ∧ F a b = c := by
  cases r with
  | error e => simp [Except.bind]
  | ok a => simp [Except.bind, map_eq_ok_iff]

theorem failure?_mapM_option (f : α → Except ε β) (o : Option α) :
    failure? (o.mapM f) = firstFailure? f o.toList := by
  cases o with
  | none => rfl
  | some a =>
    show failure? ((f a).map some) = firstFailure? f [a]
    rw [failure?_map, firstFailure?_cons]
    exact (Option.or_none).symm

theorem mapM_option_eq_ok_iff {f : α → Except ε β} {o : Option α} {p : Option β} :
    o.mapM f = .ok p ↔ Option.Rel (fun a b => f a = .ok b) o p := by
  cases o with
  | none =>
    show Except.ok none = .ok p ↔ _
    constructor
    · rintro ⟨⟩
      exact .none
    · rintro ⟨⟩
      rfl
  | some a =>
    show (f a).map some = .ok p ↔ _
    rw [map_eq_ok_iff]
    constructor
    · rintro ⟨b, hb, rfl⟩
      exact .some hb
    · rintro (hb | -)
      exact ⟨_, hb, rfl⟩

/-! ## Lists of tasks -/

theorem mapM_except_cons (f : α → Except ε β) (x : α) (xs : List α) :
    (x :: xs).mapM f = (f x).bind fun b => (xs.mapM f).map (b :: ·) := by
  rw [List.mapM_cons]
  exact both_eq (f x) (xs.mapM f) List.cons

/-- **Precedence.** Tasks that are done one after the other fail as the first of them that does. -/
theorem failure?_mapM (f : α → Except ε β) (xs : List α) :
    failure? (xs.mapM f) = firstFailure? f xs := by
  induction xs with
  | nil => rfl
  | cons x xs ih =>
    rw [mapM_except_cons, failure?_both, ih, firstFailure?_cons]

theorem mapM_eq_ok_iff {f : α → Except ε β} {xs : List α} {ys : List β} :
    xs.mapM f = .ok ys ↔ List.Forall₂ (fun x y => f x = .ok y) xs ys := by
  induction xs generalizing ys with
  | nil =>
    have hnone : ([].mapM f : Except ε (List β)) = .ok [] := rfl
    rw [hnone, Except.ok.injEq, List.forall₂_nil_left_iff, eq_comm]
  | cons x xs ih =>
    rw [mapM_except_cons, both_eq_ok_iff, List.forall₂_cons_left_iff]
    constructor
    · rintro ⟨b, bs, hx, hxs, rfl⟩
      exact ⟨b, bs, hx, ih.1 hxs, rfl⟩
    · rintro ⟨b, bs, hx, hxs, rfl⟩
      exact ⟨b, bs, hx, ih.2 hxs, rfl⟩

theorem exists_forall₂_ok {f : α → Except ε β} {xs : List α} :
    (∃ ys, List.Forall₂ (fun x y => f x = .ok y) xs ys) ↔ ∀ x ∈ xs, ∃ y, f x = .ok y := by
  rw [← firstFailure?_eq_none, ← failure?_mapM, failure?_eq_none]
  simp only [mapM_eq_ok_iff]

theorem forall₂_comp_iff {R : α → β → Prop} {S : β → γ → Prop} {xs : List α} {zs : List γ} :
    List.Forall₂ (fun x z => ∃ y, R x y ∧ S y z) xs zs ↔
      ∃ ys, List.Forall₂ R xs ys ∧ List.Forall₂ S ys zs := by
  constructor
  · intro h
    induction h with
    | nil => exact ⟨[], .nil, .nil⟩
    | cons hxz _ ih =>
      obtain ⟨y, hxy, hyz⟩ := hxz
      obtain ⟨ys, hxs, hzs⟩ := ih
      exact ⟨y :: ys, .cons hxy hxs, .cons hyz hzs⟩
  · rintro ⟨ys, hxs, hzs⟩
    induction hxs generalizing zs with
    | nil =>
      cases hzs
      exact .nil
    | cons hxy _ ih =>
      cases hzs with
      | cons hyz hzs => exact .cons ⟨_, hxy, hyz⟩ (ih hzs)

theorem mapM_congr_forall₂ {f : α → Except ε γ} {g : β → Except ε γ} {xs : List α} {ys : List β}
    (h : List.Forall₂ (fun x y => f x = g y) xs ys) : xs.mapM f = ys.mapM g := by
  induction h with
  | nil => rfl
  | cons hx _ ih => rw [mapM_except_cons, mapM_except_cons, hx, ih]

theorem mapM_map_result (f : α → Except ε β) (F : β → γ) (xs : List α) :
    (xs.mapM fun x => (f x).map F) = (xs.mapM f).map (List.map F) := by
  induction xs with
  | nil => rfl
  | cons x xs ih =>
    rw [mapM_except_cons, mapM_except_cons, ih]
    cases f x with
    | error e => rfl
    | ok b => cases xs.mapM f <;> rfl

/-- Tasks whose results look the same one by one come to results that look the same. -/
theorem map_mapM_congr {f g : α → Except ε β} {F : β → γ} (h : ∀ x, (f x).map F = (g x).map F)
    (xs : List α) : (xs.mapM f).map (List.map F) = (xs.mapM g).map (List.map F) := by
  rw [← mapM_map_result, ← mapM_map_result, funext h]

end SqlVocabulary
