import Switchboard.Dispatch.Object

/-!
# Attempts and their outcomes

An attempt starts in a state of the application and ends in another one, with a result or with an
error. What stands behind it goes on from the result, or does not happen; adapting it renames its
errors and changes nothing else.

* `attempt_bind_eq_ok`, `attempt_bind_of_eq_ok`, `attempt_bind_of_eq_error`: one attempt behind
  another.
* `attempt_adapt_eq_ok`, `attempt_adapt_of_eq_ok`, `attempt_adapt_of_eq_error`: errors renamed.
* `adapt_bind`, `adapt_lift`, `adapt_adapt`: renaming, part by part.
* `except_bind_eq_ok`, `except_bind_eq_error`, `except_map_eq_ok_iff`: the same of outcomes that hang
  on no state.
-/

namespace Switchboard

/-! ## Outcomes -/

section

variable {ε α β : Type}

@[simp] theorem except_ok_bind (a : α) (k : α → Except ε β) : (Except.ok a >>= k) = k a := rfl

@[simp]
theorem except_error_bind (e : ε) (k : α → Except ε β) : (Except.error e >>= k) = .error e := rfl

theorem except_bind_eq_ok {x : Except ε α} {k : α → Except ε β} {b : β} (h : x >>= k = .ok b) :
    ∃ a, x = .ok a ∧ k a = .ok b := by
  cases x with
  | error e => cases h
  | ok a => exact ⟨a, rfl, h⟩

theorem except_bind_eq_error {x : Except ε α} {k : α → Except ε β} {e : ε}
    (h : x >>= k = .error e) : x = .error e ∨ ∃ a, x = .ok a ∧ k a = .error e := by
  cases x with
  | error e' =>
    cases h
    exact .inl rfl
  | ok a => exact .inr ⟨a, rfl, h⟩

@[simp] theorem except_map_eq_ok_iff {f : α → β} {x : Except ε α} {b : β} :
    x.map f = .ok b ↔ ∃ a, x = .ok a ∧ f a = b := by
  cases x <;> simp [Except.map]

@[simp] theorem except_toOption_eq_some_iff {x : Except ε α} {a : α} :
    x.toOption = some a ↔ x = .ok a := by
  cases x <;> simp [Except.toOption]

@[simp] theorem except_map_map {γ : Type} (f : α → β) (g : β → γ) (x : Except ε α) :
    (x.map f).map g = x.map fun a => g (f a) := by
  cases x <;> rfl

theorem except_mapError_map {ε' : Type} (f : α → β) (g : ε → ε') (x : Except ε α) :
    (x.map f).mapError g = (x.mapError g).map f := by
  cases x <;> rfl

end

/-! ## One attempt behind another -/

section

variable {σ ε α β : Type} {x : Attempt σ ε α} {k : α → Attempt σ ε β} {s s' : σ}

theorem attempt_bind_eq_ok {b : β} (h : (x >>= k).run.run s = (.ok b, s')) :
    ∃ a s₁, x.run.run s = (.ok a, s₁) ∧ (k a).run.run s₁ = (.ok b, s') := by
  rw [ExceptT.run_bind, StateT.run_bind] at h
  rcases hx : x.run.run s with ⟨out, s₁⟩
  rw [hx] at h
  cases out with
  | error e => cases h
  | ok a => exact ⟨a, s₁, rfl, h⟩

theorem attempt_bind_of_eq_ok {a : α} (h : x.run.run s = (.ok a, s')) :
    (x >>= k).run.run s = (k a).run.run s' := by
  rw [ExceptT.run_bind, StateT.run_bind, h]
  rfl

theorem attempt_bind_of_eq_error {e : ε} (h : x.run.run s = (.error e, s')) :
    (x >>= k).run.run s = (.error e, s') := by
  rw [ExceptT.run_bind, StateT.run_bind, h]
  rfl

theorem attempt_pure_eq_ok {a b : α} (h : (pure a : Attempt σ ε α).run.run s = (.ok b, s')) :
    a = b ∧ s = s' := by
  obtain ⟨ha, hs⟩ := Prod.mk.inj h
  exact ⟨Except.ok.inj ha, hs⟩

end

/-! ## Errors renamed -/

section

variable {σ ε ε' ε'' α β : Type} {x : Attempt σ ε α} {f : ε → ε'} {s s' : σ}

theorem attempt_adapt_eq_ok {a : α} (h : (x.adapt f).run.run s = (.ok a, s')) :
    x.run.run s = (.ok a, s') := by
  rw [ExceptT.run_adapt, StateT.run_map] at h
  rcases hx : x.run.run s with ⟨out, s₁⟩
  rw [hx] at h
  cases out with
  | error e => cases h
  | ok b =>
    cases h
    rfl

theorem attempt_adapt_of_eq_ok {a : α} (h : x.run.run s = (.ok a, s')) :
    (x.adapt f).run.run s = (.ok a, s') := by
  rw [ExceptT.run_adapt, StateT.run_map, h]
  rfl

theorem attempt_adapt_of_eq_error {e : ε} (h : x.run.run s = (.error e, s')) :
    (x.adapt f).run.run s = (.error (f e), s') := by
  rw [ExceptT.run_adapt, StateT.run_map, h]
  rfl

@[simp] theorem adapt_bind (f : ε → ε') (x : Attempt σ ε α) (k : α → Attempt σ ε β) :
    (x >>= k).adapt f = x.adapt f >>= fun a => (k a).adapt f := by
  apply ExceptT.ext
  rw [ExceptT.run_adapt, ExceptT.run_bind, ExceptT.run_bind, ExceptT.run_adapt, map_bind,
    bind_map_left]
  refine bind_congr fun e => ?_
  cases e with
  | error e => exact map_pure (Except.mapError f) (Except.error e)
  | ok a => exact (ExceptT.run_adapt f (k a)).symm

@[simp] theorem adapt_lift (f : ε → ε') (x : Work σ α) : (x : Attempt σ ε α).adapt f = x := rfl

@[simp] theorem adapt_adapt (f : ε → ε') (g : ε' → ε'') (x : Attempt σ ε α) :
    (x.adapt f).adapt g = x.adapt fun e => g (f e) := by
  apply ExceptT.ext
  rw [ExceptT.run_adapt, ExceptT.run_adapt, ExceptT.run_adapt, Functor.map_map]
  congr 1
  funext e
  cases e <;> rfl

end

end Switchboard
