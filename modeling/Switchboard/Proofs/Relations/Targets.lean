import Switchboard.Proofs.Folds
import Switchboard.Relations.Derivation

/-!
# What a derivation looks at

Relations are derived against all data sources that may be referred to, but little of those matters:
only the ones that the references of the data source name, and of each only its id and which fields
it has. Two ways to find data sources that agree in this lead to the same relations, and to the same
error.

* `get?_of_foldlM_insert`: what a fold over the fields leaves under a name.
* `DataSource.RefersTo`, `DataSource.outline`: which data sources are looked at, and what is seen.
* `ForeignKey.build_eq_ok_iff`: when a field has a foreign key, and which.
* `Relations.exists_target_of_derive_eq_ok`: where relations are derived, every reference leads to a
  data source.
* `Relations.build_of_deriveKeys`: where a foreign key stands.
* `Relations.derive_congr_targets`: targets that look alike lead to the same derivation.
-/

namespace Switchboard

/-! ## Folds over fields -/

/-- What stands under a name after a fold that puts something under the names of some elements and
of no others. -/
theorem get?_of_foldlM_insert {ε α ρ : Type} {f : ByField ρ → α → ExceptT ε Id (ByField ρ)}
    {name : α → String} {P : α → ρ → Prop} {xs : List α}
    (h : ∀ x ∈ xs, ∀ b b', (f b x).run = .ok b' →
      b' = b ∨ ∃ y, P x y ∧ b' = b.insert (name x) y) {b : ByField ρ}
    (hf : (xs.foldlM f ∅).run = .ok b) {k : String} {y : ρ} (hy : b[k]? = some y) :
    ∃ x ∈ xs, name x = k ∧ P x y := by
  refine foldlM_keeps
    (P := fun b : ByField ρ => ∀ (k : String) (y : ρ), b[k]? = some y →
      ∃ x ∈ xs, name x = k ∧ P x y)
    (fun x hx b b' hb hstep => ?_) (fun _ _ h => by simp at h) hf k y hy
  rcases h x hx b b' hstep with rfl | ⟨z, hz, rfl⟩
  · exact hb
  · intro k y hk
    rw [Names.getElem?_insert] at hk
    split at hk
    · next heq =>
      cases hk
      exact ⟨x, hx, heq, hz⟩
    · exact hb k y hk

/-! ## What is seen of a target -/

namespace DataSource

/-- A field of a data source has a reference that names a data source, and a field of it. -/
def RefersTo (d : DataSource) (target : String) : Prop :=
  ∃ f ∈ d.fields, ∃ reference, f.reference? = some reference ∧
    (Reference.parse reference f.name).isComplete = true ∧
    (Reference.parse reference f.name).dataSource = target

/-- What a derivation sees of a data source that is referred to: its id, and which fields it has. -/
def outline (d : DataSource) : String × (String → Bool) :=
  (d.id, fun name => (d.field? name).isSome)

theorem outline_eq_iff {d e : DataSource} :
    d.outline = e.outline ↔
      d.id = e.id ∧ ∀ name, (d.field? name).isSome = (e.field? name).isSome := by
  rw [outline, outline, Prod.mk.injEq, funext_iff]

/-- Targets that look alike are both missing, or both there with the same id and fields. -/
theorem cases_of_map_outline {o o' : Option DataSource} (h : o.map outline = o'.map outline) :
    (o = none ∧ o' = none) ∨ ∃ x y, o = some x ∧ o' = some y ∧ x.id = y.id ∧
      ∀ name, (x.field? name).isSome = (y.field? name).isSome := by
  cases o with
  | none => exact .inl ⟨rfl, Option.map_eq_none_iff.1 h.symm⟩
  | some x =>
    obtain ⟨y, rfl, hy⟩ := Option.map_eq_some_iff.1 h.symm
    obtain ⟨hid, hf⟩ := outline_eq_iff.1 hy
    exact .inr ⟨x, y, rfl, rfl, hid.symm, fun name => (hf name).symm⟩

end DataSource

namespace ForeignKey

variable {d : DataSource} {f : Field} {reference : String} {targets targets' : Targets}

theorem build_eq_ok_iff {key : ForeignKey} :
    build d f reference targets = .ok key ↔
      (Reference.parse reference f.name).isComplete = true ∧
      ∃ target, targets (Reference.parse reference f.name).dataSource = some target ∧
        (target.field? (Reference.parse reference f.name).field).isSome = true ∧
        key = ⟨d.id, f.name, target.id, (Reference.parse reference f.name).field⟩ := by
  unfold build
  generalize Reference.parse reference f.name = r
  by_cases hr : r.isComplete
  · cases ht : targets r.dataSource with
    | none => simp [hr, ht]
    | some target =>
      cases hf : target.field? r.field with
      | none => simp [hr, ht, hf]
      | some g => simpa [hr, ht, hf] using eq_comm
  · simp [hr]

theorem build_congr
    (h : (Reference.parse reference f.name).isComplete = true →
      (targets (Reference.parse reference f.name).dataSource).map DataSource.outline =
        (targets' (Reference.parse reference f.name).dataSource).map DataSource.outline) :
    build d f reference targets = build d f reference targets' := by
  unfold build
  generalize Reference.parse reference f.name = r at h
  by_cases hr : r.isComplete
  · rcases DataSource.cases_of_map_outline (h hr) with ⟨ht, ht'⟩ | ⟨x, y, ht, ht', hid, hf⟩
    · simp only [hr, ht, ht']
    · have hg := hf r.field
      cases hx : x.field? r.field <;> cases hy : y.field? r.field <;> simp_all
  · simp [hr]

end ForeignKey

theorem ImportFrom.build_congr {d : DataSource} {f : Field} {i : Import}
    {keys : ByField ForeignKey} {targets targets' : Targets}
    (h : ∀ key, keys[i.via]? = some key →
      (targets key.targetDataSource).map DataSource.outline =
        (targets' key.targetDataSource).map DataSource.outline) :
    build d f i keys targets = build d f i keys targets' := by
  unfold build
  cases hk : keys[i.via]? with
  | none => rfl
  | some key =>
    rcases DataSource.cases_of_map_outline (h key hk) with ⟨ht, ht'⟩ | ⟨x, y, ht, ht', hid, hf⟩
    · simp only [ht, ht']
    · have hg := hf i.displayField
      cases hx : x.field? i.displayField <;> cases hy : y.field? i.displayField <;> simp_all

/-! ## Derivations -/

namespace Relations

theorem exists_target_of_derive_eq_ok {d : DataSource} {targets : Targets} {derived : Relations}
    (h : (derive (m := Id) .standard d targets).run = .ok derived) {id : String}
    (hid : d.RefersTo id) : ∃ x, targets id = some x := by
  obtain ⟨f, hf, reference, hr, -, rfl⟩ := hid
  obtain ⟨keys, hk, -⟩ := run_bind_eq_ok h
  obtain ⟨before, after, hstep⟩ := exists_step_of_foldlM hf hk
  rw [deriveKey, hr] at hstep
  obtain ⟨key, hb, -⟩ := run_bind_eq_ok hstep
  obtain ⟨-, target, ht, -⟩ := ForeignKey.build_eq_ok_iff.1 hb
  exact ⟨target, ht⟩

/-- What deriving the foreign key of a field adds. -/
theorem deriveKey_eq_ok_iff {d : DataSource} {targets : Targets} {f : Field}
    {keys keys' : ByField ForeignKey} :
    (deriveKey (m := Id) .standard d targets keys f).run = .ok keys' ↔
      (f.reference? = none ∧ keys' = keys) ∨
      ∃ reference, f.reference? = some reference ∧
        ∃ key, ForeignKey.build d f reference targets = .ok key ∧
          keys' = keys.insert f.name key := by
  unfold deriveKey
  cases f.reference? with
  | none =>
    simp only [run_pure_eq_ok_iff, reduceCtorEq, true_and, false_and, exists_false, or_false]
  | some reference =>
    simp only [run_bind_eq_ok_iff, run_pure_eq_ok_iff, reduceCtorEq, false_and, false_or,
      Option.some.injEq, exists_eq_left']
    -- The standard rule runs to what is built.
    rfl

/-- Every foreign key that is derived is that of a field, and stands under the name of the field. -/
theorem build_of_deriveKeys {d : DataSource} {targets : Targets} {keys : ByField ForeignKey}
    (h : (d.fields.foldlM (deriveKey (m := Id) .standard d targets) ∅).run = .ok keys)
    {name : String} {key : ForeignKey} (hk : keys[name]? = some key) :
    ∃ f ∈ d.fields, f.name = name ∧ ∃ reference, f.reference? = some reference ∧
      ForeignKey.build d f reference targets = .ok key := by
  refine get?_of_foldlM_insert (P := fun f key => ∃ reference, f.reference? = some reference ∧
    ForeignKey.build d f reference targets = .ok key) (fun f _ before after hstep => ?_) h hk
  rcases deriveKey_eq_ok_iff.1 hstep with ⟨-, rfl⟩ | ⟨reference, hr, key, hb, rfl⟩
  · exact .inl rfl
  · exact .inr ⟨key, ⟨reference, hr, hb⟩, rfl⟩

/-- Every foreign key that is derived leads to a data source that the references name, where data
sources are found under their own ids. -/
theorem refersTo_of_deriveKeys {d : DataSource} {targets : Targets}
    (placed : ∀ id x, targets id = some x → x.id = id) {keys : ByField ForeignKey}
    (h : (d.fields.foldlM (deriveKey (m := Id) .standard d targets) ∅).run = .ok keys)
    {name : String} {key : ForeignKey} (hk : keys[name]? = some key) :
    d.RefersTo key.targetDataSource := by
  obtain ⟨f, hf, -, reference, hr, hb⟩ := build_of_deriveKeys h hk
  obtain ⟨hc, target, ht, -, rfl⟩ := ForeignKey.build_eq_ok_iff.1 hb
  exact ⟨f, hf, reference, hr, hc, (placed _ _ ht).symm⟩

/-- Targets that look alike wherever the references lead have the same relations derived, or the
same error. -/
theorem derive_congr_targets {d : DataSource} {targets targets' : Targets}
    (placed : ∀ id x, targets' id = some x → x.id = id)
    (alike : ∀ id, d.RefersTo id →
      (targets id).map DataSource.outline = (targets' id).map DataSource.outline) :
    derive (m := Id) .standard d targets = derive (m := Id) .standard d targets' := by
  have hkeys : d.fields.foldlM (deriveKey (m := Id) .standard d targets) ∅ =
      d.fields.foldlM (deriveKey (m := Id) .standard d targets') ∅ := by
    refine foldlM_congr (fun f hf keys => ?_) ∅
    unfold deriveKey
    cases hr : f.reference? with
    | none => rfl
    | some reference =>
      have hb : ForeignKey.build d f reference targets = ForeignKey.build d f reference targets' :=
        ForeignKey.build_congr fun hc => alike _ ⟨f, hf, reference, hr, hc, rfl⟩
      simp only [RelationRules.standard, hb]
  unfold derive
  rw [hkeys]
  apply ExceptT.ext
  rw [ExceptT.run_bind, ExceptT.run_bind]
  cases hk : (d.fields.foldlM (deriveKey (m := Id) .standard d targets') ∅).run with
  | error e => rfl
  | ok keys =>
    have himports : d.fields.foldlM (deriveImport (m := Id) .standard d targets keys) ∅ =
        d.fields.foldlM (deriveImport (m := Id) .standard d targets' keys) ∅ := by
      refine foldlM_congr (fun f _ imports => ?_) ∅
      unfold deriveImport
      cases hi : f.imported with
      | none => rfl
      | some i =>
        have hb : ImportFrom.build d f i keys targets = ImportFrom.build d f i keys targets' :=
          ImportFrom.build_congr fun key hkey => alike _ (refersTo_of_deriveKeys placed hk hkey)
        simp only [RelationRules.standard, hb]
    show ((d.fields.foldlM (deriveImport (m := Id) .standard d targets keys) ∅ >>= fun imports =>
      pure (⟨keys, imports⟩ : Relations)) : ExceptT DerivationError Id Relations).run = _
    rw [himports]
    rfl

end Relations

end Switchboard
