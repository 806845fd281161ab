import SqlVocabulary.Error

/-!
# Runs

A run is a computation that reports events, asks for documents, and ends with a value or an error.
The events before an error are kept: a failed run has still logged what it did.
-/

namespace SqlVocabulary

/-- What happened on the way, the addresses of the documents that were asked for, and the end. -/
structure Run (α : Type) where
  events : List Event
  fetched : List Text
  result : Except Error α

namespace Run

/-- One run after another that needs its value. An error ends both. -/
def andThen {α β : Type} (r : Run α) (f : α → Run β) : Run β :=
  match r.result with
  | .ok a =>
    let s := f a
    ⟨r.events ++ s.events, r.fetched ++ s.fetched, s.result⟩
  | .error e => ⟨r.events, r.fetched, .error e⟩

instance : Monad Run where
  pure a := ⟨[], [], .ok a⟩
  bind := andThen

def fail {α : Type} (e : Error) : Run α := ⟨[], [], .error e⟩

def report (events : List Event) : Run Unit := ⟨events, [], .ok ()⟩

/-- The run that ends with a given value or error and does nothing else. -/
def ofExcept {α : Type} (x : Except Error α) : Run α := ⟨[], [], x⟩

end Run

end SqlVocabulary
