import Switchboard.Proofs.Attempts

/-!
# Folds whose steps may fail

Work on the elements of a list, one after the other, ends with the first step that fails, in the
error of that step. Where it depends on the element alone whether a step fails, and with what, the
first element whose step fails decides.

* `run_bind_eq_ok_iff`, `run_bind_eq_error_iff`: two steps, one behind the other.
* `foldlM_eq_error_iff`: a fold that fails, and where.
* `foldlM_keeps`, `exists_step_of_foldlM`: what holds of a fold that succeeds.
* `foldlM_eq_error_iff_of_steps`: the element that decides.
* `exists_foldlM_of_steps`: a fold that succeeds as another one does.
-/

namespace Switchboard

/-! ## Runs that may fail -/

section

variable {ε α β : Type} {x : ExceptT ε Id α} {k : α → ExceptT ε Id β}

theorem run_bind_eq : (x >>= k).run = Except.bind x.run fun a => (k a).run := by
  rw [ExceptT.run_bind]
  cases x.run <;> rfl

theorem run_bind_eq_ok {b : β} (h : (x >>= k).run = .ok b) :
    ∃ a, x.run = .ok a ∧ (k a).run = .ok b :=
  except_bind_eq_ok (run_bind_eq.symm.trans h)

theorem run_bind_eq_ok_iff {b : β} :
    (x >>= k).run = .ok b ↔ ∃ a, x.run = .ok a ∧ (k a).run = .ok b := by
  refine ⟨run_bind_eq_ok, ?_⟩
  rintro ⟨a, hx, hk⟩
  rw [run_bind_eq, hx]
  exact hk

@[simp] theorem run_pure_eq_ok_iff {a b : α} :
    (pure a : ExceptT ε Id α).run = .ok b ↔ b = a :=
  ⟨fun h => (Except.ok.inj h).symm, fun h => congrArg Except.ok h.symm⟩

theorem run_bind_eq_error_iff {e : ε} : (x >>= k).run = .error e ↔
    x.run = .error e ∨ ∃ a, x.run = .ok a ∧ (k a).run = .error e := by
  refine ⟨fun h => except_bind_eq_error (run_bind_eq.symm.trans h), ?_⟩
  rw [run_bind_eq]
  rintro (hx | ⟨a, hx, hk⟩)
  · rw [hx]
    rfl
  · rw [hx]
    exact hk

end

/-! ## Folds -/

theorem foldlM_congr {m : Type → Type} [Monad m] {α β : Type} {f g : β → α → m β} {xs : List α}
    (h : ∀ x ∈ xs, ∀ b, f b x = g b x) (b : β) : xs.foldlM f b = xs.foldlM g b := by
  induction xs generalizing b with
  | nil => rfl
  | cons x xs ih =>
    rw [List.foldlM_cons, List.foldlM_cons, h x List.mem_cons_self b]
    congr 1
    funext c
    exact ih (fun y hy => h y (List.mem_cons_of_mem x hy)) c

/-- A fold fails with the error of the first step that fails. -/
theorem foldlM_eq_error_iff {ε α β : Type} {f : β → α → ExceptT ε Id β} {xs : List α} {b : β}
    {e : ε} : (xs.foldlM f b).run = .error e ↔ ∃ before x after c, xs = before ++ x :: after ∧
      (before.foldlM f b).run = .ok c ∧ (f c x).run = .error e := by
  induction xs generalizing b with
  | nil => simp [ExceptT.run_pure]
  | cons x xs ih =>
    rw [List.foldlM_cons, run_bind_eq_error_iff]
    constructor
    · rintro (he | ⟨c, hc, he⟩)
      · exact ⟨[], x, xs, b, rfl, rfl, he⟩
      · obtain ⟨before, y, after, c', rfl, hb, he⟩ := ih.1 he
        exact ⟨x :: before, y, after, c', rfl, run_bind_eq_ok_iff.2 ⟨c, hc, hb⟩, he⟩
    · rintro ⟨before, y, after, c', hxs, hb, he⟩
      cases before with
      | nil =>
        obtain ⟨rfl, rfl⟩ := List.cons.inj hxs
        cases hb
        exact .inl he
      | cons z before =>
        obtain ⟨rfl, rfl⟩ := List.cons.inj hxs
        obtain ⟨c, hc, hb⟩ := run_bind_eq_ok_iff.1 hb
        exact .inr ⟨c, hc, ih.2 ⟨before, y, after, c', rfl, hb, he⟩⟩

/-- What every step that succeeds keeps, a fold that succeeds keeps. -/
theorem foldlM_keeps {ε α β : Type} {f : β → α → ExceptT ε Id β} {P : β → Prop} {xs : List α}
    (h : ∀ x ∈ xs, ∀ b b', P b → (f b x).run = .ok b' → P b') {b b' : β} (hb : P b)
    (hf : (xs.foldlM f b).run = .ok b') : P b' := by
  induction xs generalizing b with
  | nil =>
    cases hf
    exact hb
  | cons x xs ih =>
    rw [List.foldlM_cons] at hf
    obtain ⟨c, hc, hf⟩ := run_bind_eq_ok hf
    exact ih (fun y hy => h y (List.mem_cons_of_mem x hy)) (h x List.mem_cons_self b c hb hc) hf

/-- Where a fold succeeds, a step with each of the elements has succeeded. -/
theorem exists_step_of_foldlM {ε α β : Type} {f : β → α → ExceptT ε Id β} {xs : List α} {x : α}
    (hx : x ∈ xs) {b b' : β} (hf : (xs.foldlM f b).run = .ok b') :
    ∃ c c', (f c x).run = .ok c' := by
  induction xs generalizing b with
  | nil => cases hx
  | cons y ys ih =>
    rw [List.foldlM_cons] at hf
    obtain ⟨c, hc, hf⟩ := run_bind_eq_ok hf
    rcases List.mem_cons.1 hx with rfl | hm
    · exact ⟨b, c, hc⟩
    · exact ih hm hf

/-- A fold succeeds where no step with an element of it fails. -/
theorem exists_foldlM_of_ne_error {ε α β : Type} {f : β → α → ExceptT ε Id β} {xs : List α}
    (h : ∀ x ∈ xs, ∀ b e, (f b x).run ≠ .error e) (b : β) :
    ∃ b', (xs.foldlM f b).run = .ok b' := by
  cases hf : (xs.foldlM f b).run with
  | ok b' => exact ⟨b', rfl⟩
  | error e =>
    obtain ⟨before, x, after, c, rfl, -, he⟩ := foldlM_eq_error_iff.1 hf
    exact absurd he (h x List.mem_append_cons_self c e)

/-- A fold whose steps fail for what they are about, whatever was before, fails with the first step
that does. -/
theorem foldlM_eq_error_iff_of_steps {ε α β : Type} {f : β → α → ExceptT ε Id β}
    {Fails : α → ε → Prop} {xs : List α}
    (h : ∀ x ∈ xs, ∀ b e, (f b x).run = .error e ↔ Fails x e) {b : β} {e : ε} :
    (xs.foldlM f b).run = .error e ↔ ∃ before x after, xs = before ++ x :: after ∧
      Fails x e ∧ ∀ y ∈ before, ∀ e', ¬ Fails y e' := by
  rw [foldlM_eq_error_iff]
  constructor
  · rintro ⟨before, x, after, c, rfl, hb, he⟩
    refine ⟨before, x, after, rfl, (h x List.mem_append_cons_self c e).1 he, fun y hy e' hf => ?_⟩
    obtain ⟨c', c'', hstep⟩ := exists_step_of_foldlM hy hb
    cases hstep.symm.trans ((h y (List.mem_append_left _ hy) c' e').2 hf)
  · rintro ⟨before, x, after, rfl, hx, hbefore⟩
    have hsteps : ∀ y ∈ before, ∀ c e', (f c y).run ≠ .error e' := fun y hy c e' he =>
      hbefore y hy e' ((h y (List.mem_append_left _ hy) c e').1 he)
    obtain ⟨c, hc⟩ := exists_foldlM_of_ne_error hsteps b
    exact ⟨before, x, after, c, rfl, hc, (h x List.mem_append_cons_self c e).2 hx⟩

/-- A fold over outcomes is one over runs that have them. -/
theorem foldlM_eq_run_mk {ε α β : Type} (f : β → α → Except ε β) (xs : List α) (b : β) :
    xs.foldlM f b = (xs.foldlM (fun c x => ExceptT.mk (m := Id) (f c x)) b).run := by
  induction xs generalizing b with
  | nil => rfl
  | cons x xs ih =>
    rw [List.foldlM_cons, List.foldlM_cons, ExceptT.run_bind]
    cases f b x with
    | error e => rfl
    | ok c => exact ih c

/-- A fold succeeds as another one does if its steps do, from one pair of related states to the
next. -/
theorem exists_foldlM_of_steps {ε α β γ : Type} {V : β → γ → Prop} {f : β → α → ExceptT ε Id β}
    {g : γ → α → ExceptT ε Id γ} {xs : List α}
    (h : ∀ x ∈ xs, ∀ b c b', V b c → (f b x).run = .ok b' → ∃ c', (g c x).run = .ok c' ∧ V b' c')
    {b b' : β} {c : γ} (hv : V b c) (hf : (xs.foldlM f b).run = .ok b') :
    ∃ c', (xs.foldlM g c).run = .ok c' ∧ V b' c' := by
  induction xs generalizing b c with
  | nil =>
    cases hf
    exact ⟨c, rfl, hv⟩
  | cons x xs ih =>
    rw [List.foldlM_cons] at hf
    obtain ⟨mid, hm, hf⟩ := run_bind_eq_ok hf
    obtain ⟨mid', hm', hv'⟩ := h x List.mem_cons_self b c mid hv hm
    obtain ⟨c', hc, hv''⟩ := ih (fun y hy => h y (List.mem_cons_of_mem x hy)) hv' hf
    rw [List.foldlM_cons]
    exact ⟨c', run_bind_eq_ok_iff.2 ⟨mid', hm', hc⟩, hv''⟩

theorem foldlM_of_steps {ε α β : Type} {f g : β → α → ExceptT ε Id β} {xs : List α}
    (h : ∀ x ∈ xs, ∀ b b', (f b x).run = .ok b' → (g b x).run = .ok b') {b b' : β}
    (hf : (xs.foldlM f b).run = .ok b') : (xs.foldlM g b).run = .ok b' := by
  obtain ⟨c, hc, rfl⟩ := exists_foldlM_of_steps (V := Eq) (g := g)
    (fun x hx b c b' hb hs => ⟨b', hb ▸ h x hx b b' hs, rfl⟩) rfl hf
  exact hc

end Switchboard
