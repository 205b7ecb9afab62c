import Switchboard.Proofs.Registry.History

/-!
# Relations before registration

A registry derives the relations of a data source that is not put in, from the data sources that it
holds. To put the data source in comes to the same, except in one point: then it can be referred to
itself, in place of whatever stood under its id before.

* `extend_ofDataSource`: to put in a data source is to derive it among all others and itself.
* `IsOutlined`: whether a registry knows enough of a data source to derive its references to itself.
* `BuiltBy.derive_previews`: when to derive a data source tells what to put it in would do.
* `employees_not_derive_previews`: for one that refers to itself and is new, it does not.
-/

namespace Switchboard

namespace Registry

variable {σ : Type}

/-- The data sources of a registry, with one in the place of its id. -/
def targetsWith (r : Registry σ Id) (d : DataSource) : Targets :=
  fun id => if d.id = id then some d else r.dataSource? id

theorem dataSource?_put_ofDataSource (r : Registry σ Id) (d : DataSource)
    (forward : Option (Handler σ)) :
    (r.put (.ofDataSource d forward)).dataSource? = r.targetsWith d :=
  funext fun id => dataSource?_put r (.ofDataSource d forward) id

/-- To put in a data source is to derive its relations among all others and itself: it fails with
the same error, or its entry is the one derived. -/
theorem extend_ofDataSource (r : Registry σ Id) (d : DataSource) (forward : Option (Handler σ)) :
    Except.map (·.entry d.id) (r.extend [.ofDataSource d forward]).run =
      Except.map Relations.entry (Relations.derive r.rules d (r.targetsWith d)).run := by
  have hd : (r.put (.ofDataSource d forward)).dataSource? d.id = some d := by
    rw [dataSource?_put_ofDataSource, targetsWith, if_pos rfl]
  have hr : (r.put (.ofDataSource d forward)).derive d =
      Relations.derive r.rules d (r.targetsWith d) := by
    rw [derive, rules_put, dataSource?_put_ofDataSource]
  have he : r.extend [.ofDataSource d forward] =
      ((r.put (.ofDataSource d forward)).deriveFor d.id >>= pure) := rfl
  rw [he, bind_pure, deriveFor, hd]
  dsimp only
  rw [hr, ExceptT.run_bind]
  cases (Relations.derive r.rules d (r.targetsWith d)).run with
  | error e => rfl
  | ok derived =>
    refine congrArg Except.ok ?_
    simp [entry, Relations.entry]

/-- Under the id of a data source, a registry has one with the same fields. -/
def IsOutlined (r : Registry σ Id) (d : DataSource) : Prop :=
  ∃ x, r.dataSource? d.id = some x ∧ ∀ name, (x.field? name).isSome = (d.field? name).isSome

theorem IsWellPlaced.map_outline_targetsWith {r : Registry σ Id} (hr : r.IsWellPlaced)
    {d : DataSource} {id : String} (h : d.id = id → r.IsOutlined d) :
    (r.targetsWith d id).map DataSource.outline = (r.dataSource? id).map DataSource.outline := by
  unfold targetsWith
  split
  · next hid =>
    obtain ⟨x, hx, hf⟩ := h hid
    rw [← hid, hx]
    exact congrArg some (DataSource.outline_eq_iff.2 ⟨(hr _ x hx).symm, fun name => (hf name).symm⟩)
  · rfl

/-- Of well-placed handlers: to put in a data source is to derive its relations among all others and
itself. Unless it refers to itself, and the registry has none with its id and its fields, that is
what the registry derives for it beforehand, with the same relations or the same error. For one that
refers to itself and is new the registry derives nothing. -/
theorem BuiltBy.derive_previews {batches : List (List (Handler σ))} {r : Registry σ Id}
    (built : BuiltBy .standard batches r) (placed : ∀ batch ∈ batches, ∀ h ∈ batch, h.IsWellPlaced)
    (d : DataSource) :
    Except.map (·.entry d.id) (r.extend [.ofDataSource d none]).run =
      Except.map Relations.entry (Relations.derive (m := Id) .standard d (r.targetsWith d)).run ∧
    ((d.RefersTo d.id → r.IsOutlined d) →
      Except.map (·.entry d.id) (r.extend [.ofDataSource d none]).run =
        Except.map Relations.entry (r.derive d).run) ∧
    (d.RefersTo d.id → r.dataSource? d.id = none →
      ∀ derived, (r.derive d).run ≠ .ok derived) := by
  have ht := built.tells placed
  have he := extend_ofDataSource r d none
  rw [derive, ht.rules_eq]
  rw [ht.rules_eq] at he
  refine ⟨he, fun self => ?_, fun hself hnone derived hd => ?_⟩
  · rw [he, Relations.derive_congr_targets ht.wellPlaced fun id hid =>
      ht.wellPlaced.map_outline_targetsWith fun heq => self (heq ▸ hid)]
  · obtain ⟨x, hx⟩ := Relations.exists_target_of_derive_eq_ok hd hself
    rw [hnone] at hx
    cases hx

/-- Employees, each with a manager among them. -/
def employees : DataSource where
  id := "employees"
  fields := [.new "id", ⟨"manager", some "employees.id", none⟩,
    ⟨"managerId", none, some ⟨"manager", "id", none⟩⟩]
  bindings := []

theorem employees_derive_previews :
    ∃ r : Registry Unit Id,
      BuiltBy .standard [[.ofDataSource employees none]] r ∧ employees.RefersTo employees.id ∧
      r.IsOutlined employees ∧
      Except.map (·.entry employees.id) (r.extend [.ofDataSource employees none]).run =
        Except.map Relations.entry (r.derive employees).run := by
  obtain ⟨r, hr, hd⟩ : ∃ r : Registry Unit Id,
      ((empty .standard : Registry Unit Id).extend [.ofDataSource employees none]).run = .ok r ∧
        r.dataSource? employees.id = some employees := ⟨_, rfl, rfl⟩
  have built : BuiltBy .standard [[.ofDataSource employees none]] r := .extend .empty hr
  have placed : ∀ batch ∈ [[Handler.ofDataSource employees (none : Option (Handler Unit))]],
      ∀ h ∈ batch, h.IsWellPlaced := by
    simp [Handler.IsWellPlaced, Handler.ofDataSource]
  have outlined : r.IsOutlined employees := ⟨employees, hd, fun _ => rfl⟩
  have self : employees.RefersTo employees.id :=
    ⟨⟨"manager", some "employees.id", none⟩, by simp [employees], "employees.id",
      by decide, by decide, by decide⟩
  exact ⟨r, built, self, outlined, (built.derive_previews placed employees).2.1 fun _ => outlined⟩

/-- In a registry without them, employees have no relations derived for them, though they can be put
in. -/
theorem employees_not_derive_previews :
    BuiltBy .standard [] (empty .standard : Registry Unit Id) ∧
    ((empty .standard : Registry Unit Id).derive employees).run =
      .error (.unresolvedTarget "employees" "manager" "employees") ∧
    ∃ r, ((empty .standard : Registry Unit Id).extend [.ofDataSource employees none]).run = .ok r :=
  ⟨.empty, rfl, _, rfl⟩

end Registry

end Switchboard
