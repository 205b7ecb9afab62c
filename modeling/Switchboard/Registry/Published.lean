import Switchboard.Registry.Basic

/-!
# The published registry

A place that holds the current registry. It is extended and replaced, one writer after the other; an
extension that fails leaves it alone.

* `extend_error`: a failing extension changes nothing.
* `current_extend`: after a successful one the place holds what it returned.
-/

namespace Switchboard

variable {σ : Type} {m : Type → Type}

/-- A place that holds the current registry. -/
structure Published (σ : Type) (m : Type → Type) where
  current : Registry σ m

namespace Published

/-- Replaces the current registry. -/
def replace (_ : Published σ m) (r : Registry σ m) : Published σ m := ⟨r⟩

/-- Extends the current registry by a batch; on an error it stays as it is. -/
def extend [Monad m] (p : Published σ m) (batch : List (Handler σ)) :
    m (Except DerivationError (Registry σ m) × Published σ m) := do
  match ← (p.current.extend batch).run with
  | .ok next => return (.ok next, ⟨next⟩)
  | .error e => return (.error e, p)

/-- What a report shows of the place. -/
def summary (p : Published σ m) : String :=
  "SharedRegistry \x7b current: " ++ p.current.summary ++ " \x7d"

theorem extend_error {p : Published σ Id} {batch : List (Handler σ)} {e : DerivationError}
    (h : p.current.extend batch = .error e) : p.extend batch = (.error e, p) := by
  simp only [extend, ExceptT.run, h]
  rfl

theorem current_extend {p : Published σ Id} {batch : List (Handler σ)} {r : Registry σ Id}
    (h : p.current.extend batch = .ok r) :
    (p.extend batch).1 = .ok r ∧ (p.extend batch).2.current = r := by
  simp only [extend, ExceptT.run, h]
  exact ⟨rfl, rfl⟩

end Published

end Switchboard
