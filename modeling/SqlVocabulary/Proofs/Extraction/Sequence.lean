import SqlVocabulary.Proofs.Expansion.Selectors
import SqlVocabulary.Proofs.Tasks

/-!
# Runs one after the other

Documents are asked for, selectors expanded, documents extracted and vendors gone through in one
manner: each item of a list has a run of its own, the values are put together in order, and the
first run that fails ends the whole.

The result of the whole is then that of the items as tasks (`Run.result_sequence`), and where it is
a value, the documents that were asked for are those of the items (`Run.asks_sequence`).
-/

namespace SqlVocabulary

namespace Run

variable {α β γ : Type}

theorem result_bind_pure (r : Run α) (F : α → β) :
    (r >>= fun a => pure (F a)).result = r.result.map F := by
  rw [result_bind]
  cases r.result <;> rfl

/-! ## What a run asks for -/

/-- A run that has a value has asked for the documents at some addresses, and for no others. -/
def Asks (r : Run α) (urls : List Text) : Prop := ∀ a, r.result = .ok a → r.fetched = urls

theorem asks_pure (a : α) : (pure a : Run α).Asks [] := fun _ _ => rfl

theorem asks_fail (e : Error) (urls : List Text) : (fail e : Run α).Asks urls := by
  rintro _ ⟨⟩

theorem asks_report (events : List Event) : (report events).Asks [] := fun _ _ => rfl

theorem Asks.bind {r : Run α} {f : α → Run β} {us vs : List Text} (hr : r.Asks us)
    (hf : ∀ a, (f a).Asks vs) : (r >>= f).Asks (us ++ vs) := by
  obtain ⟨events, fetched, result⟩ := r
  intro b h
  cases result with
  | error e => cases h
  | ok a =>
    have hfirst : fetched = us := hr a rfl
    have hrest : (f a).fetched = vs := hf a b h
    rw [← hfirst, ← hrest]
    rfl

theorem Asks.bind_nothing {r : Run α} {f : α → Run β} {us : List Text} (hr : r.Asks us)
    (hf : ∀ a, (f a).Asks []) : (r >>= f).Asks us := by
  have h := hr.bind hf
  rwa [List.append_nil] at h

/-! ## Sequences of runs -/

section Sequence

variable {f : α → Run β} {op : β → γ → γ} {z : γ} (go : List α → Run γ)
  (hnil : go [] = pure z)
  (hcons : ∀ x xs, go (x :: xs) = do
    let b ← f x
    let c ← go xs
    return op b c)

include hnil hcons

/-- **Results in sequence.** Where the items of a list are run one after the other and their values
are put together, the result is that of the items. -/
theorem result_sequence (xs : List α) :
    (go xs).result = (xs.mapM fun x => (f x).result).map (List.foldr op z) := by
  induction xs with
  | nil =>
    rw [hnil]
    rfl
  | cons x xs ih =>
    rw [hcons, result_bind, mapM_except_cons]
    cases (f x).result with
    | error e => rfl
    | ok b =>
      refine (result_bind_pure (go xs) (op b)).trans ?_
      rw [ih]
      cases xs.mapM fun x => (f x).result <;> rfl

theorem asks_sequence {urls : α → List Text} (hf : ∀ x, (f x).Asks (urls x)) (xs : List α) :
    (go xs).Asks (xs.flatMap urls) := by
  induction xs with
  | nil =>
    rw [hnil]
    exact asks_pure z
  | cons x xs ih =>
    rw [hcons, List.flatMap_cons]
    exact (hf x).bind fun b => ih.bind_nothing fun c => asks_pure _

theorem asks_sequence_nothing (hf : ∀ x, (f x).Asks []) (xs : List α) : (go xs).Asks [] := by
  have h := asks_sequence go hnil hcons hf xs
  rwa [List.flatMap_eq_nil_iff.2 fun _ _ => rfl] at h

end Sequence

end Run

end SqlVocabulary
