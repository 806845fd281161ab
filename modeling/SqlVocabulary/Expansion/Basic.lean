import SqlVocabulary.Expansion.Outcome

/-!
# Expansions

An expansion hands out its outcomes when it is done, and it has logged what it did on the way. The
two lists are put together side by side: an outcome is logged where it arises, and where expansions
are joined nothing is logged again.
-/

namespace SqlVocabulary

/-- What an expansion hands out, and what it has logged. -/
structure Expansion where
  outcomes : List Outcome
  events : List Event
  deriving DecidableEq

namespace Expansion

/-- The literals in order, repeated ones included. -/
def literals (e : Expansion) : List Text := e.outcomes.filterMap Outcome.literal?

def diagnostics (e : Expansion) : List Diagnostic := e.outcomes.filterMap Outcome.diagnostic?

/-- Whether some outcome stands for missing content. -/
def hasDiagnostics (e : Expansion) : Bool := e.outcomes.any fun o => o.diagnostic?.isSome

def empty : Expansion := ⟨[], []⟩

/-- An event that no outcome goes with. -/
def ofEvent (e : Event) : Expansion := ⟨[], [e]⟩

/-- An outcome that arises. -/
def ofOutcome (o : Outcome) : Expansion := ⟨[o], o.events⟩

/-- One expansion after another. -/
instance : Append Expansion where
  append e f := ⟨e.outcomes ++ f.outcomes, e.events ++ f.events⟩

@[simp] theorem outcomes_empty : empty.outcomes = [] := rfl

@[simp] theorem outcomes_ofEvent (e : Event) : (ofEvent e).outcomes = [] := rfl

@[simp] theorem outcomes_ofOutcome (o : Outcome) : (ofOutcome o).outcomes = [o] := rfl

@[simp] theorem outcomes_append (e f : Expansion) :
    (e ++ f).outcomes = e.outcomes ++ f.outcomes := rfl

@[simp] theorem events_empty : empty.events = [] := rfl

@[simp] theorem events_append (e f : Expansion) : (e ++ f).events = e.events ++ f.events := rfl

@[ext] theorem ext {e f : Expansion} (ho : e.outcomes = f.outcomes) (he : e.events = f.events) :
    e = f := by
  cases e
  cases f
  congr

theorem append_assoc (e f h : Expansion) : e ++ f ++ h = e ++ (f ++ h) := by
  ext <;> simp

end Expansion

end SqlVocabulary
