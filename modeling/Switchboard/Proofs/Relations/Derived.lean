import Switchboard.Proofs.Relations.Targets

/-!
# What is derived

Every relation that is derived stands under the name of a field of the data source, and is the one
that the field has by itself. So it names the data source and the field it belongs to, what it leads
to is there, and an import leads where the foreign key leads that it goes through.

A derivation that succeeds has found all that it looked for. With more to be found it looks for
nothing else, and ends in the same relations.

* `ImportFrom.build_eq_ok_iff`: when a field has an import, and which.
* `Relations.derive_eq_ok_iff`: the two passes of a derivation.
* `Relations.deriveImport_eq_ok_iff`, `Relations.build_of_deriveImports`: where an import stands.
* `Relations.foreignKey_of_derive`, `Relations.importFrom_of_derive`: what the relations of a data
  source name.
* `Relations.derive_of_more_targets`: more data sources change nothing.
-/

namespace Switchboard

theorem ImportFrom.build_eq_ok_iff {d : DataSource} {f : Field} {i : Import}
    {keys : ByField ForeignKey} {targets : Targets} {x : ImportFrom} :
    build d f i keys targets = .ok x ↔
      ∃ key, keys[i.via]? = some key ∧ ∃ related, targets key.targetDataSource = some related ∧
        (related.field? i.displayField).isSome = true ∧
        x = ⟨d.id, f.name, i.via, related.id, i.displayField, i.summary⟩ := by
  unfold build
  cases hk : keys[i.via]? with
  | none => simp
  | some key =>
    cases ht : targets key.targetDataSource with
    | none => simp [ht]
    | some related =>
      cases hf : related.field? i.displayField with
      | none => simp [ht, hf]
      | some g => simpa [ht, hf] using eq_comm

namespace Relations

variable {d : DataSource} {targets targets' : Targets} {derived : Relations}

/-- The two passes of a derivation. -/
theorem derive_eq_ok_iff {rules : RelationRules Id} :
    (derive rules d targets).run = .ok derived ↔
      (d.fields.foldlM (deriveKey rules d targets) ∅).run = .ok derived.foreignKeys ∧
      (d.fields.foldlM (deriveImport rules d targets derived.foreignKeys) ∅).run =
        .ok derived.imports := by
  unfold derive
  simp only [run_bind_eq_ok_iff, run_pure_eq_ok_iff]
  constructor
  · rintro ⟨keys, hk, imports, hi, rfl⟩
    exact ⟨hk, hi⟩
  · rintro ⟨hk, hi⟩
    exact ⟨_, hk, _, hi, rfl⟩

/-- What deriving the import of a field adds. -/
theorem deriveImport_eq_ok_iff {f : Field} {keys : ByField ForeignKey}
    {imports imports' : ByField ImportFrom} :
    (deriveImport (m := Id) .standard d targets keys imports f).run = .ok imports' ↔
      (f.imported = none ∧ imports' = imports) ∨
      ∃ i, f.imported = some i ∧
        ∃ x, ImportFrom.build d f i keys targets = .ok x ∧ imports' = imports.insert f.name x := by
  unfold deriveImport
  cases f.imported with
  | none =>
    simp only [run_pure_eq_ok_iff, reduceCtorEq, true_and, false_and, exists_false, or_false]
  | some i =>
    simp only [run_bind_eq_ok_iff, run_pure_eq_ok_iff, reduceCtorEq, false_and, false_or,
      Option.some.injEq, exists_eq_left']
    rfl

/-- Every import that is derived is that of a field, and stands under the name of the field. -/
theorem build_of_deriveImports {keys : ByField ForeignKey} {imports : ByField ImportFrom}
    (h : (d.fields.foldlM (deriveImport (m := Id) .standard d targets keys) ∅).run = .ok imports)
    {name : String} {x : ImportFrom} (hx : imports[name]? = some x) :
    ∃ f ∈ d.fields, f.name = name ∧ ∃ i, f.imported = some i ∧
      ImportFrom.build d f i keys targets = .ok x := by
  refine get?_of_foldlM_insert (P := fun f x => ∃ i, f.imported = some i ∧
    ImportFrom.build d f i keys targets = .ok x) (fun f _ before after hstep => ?_) h hx
  rcases deriveImport_eq_ok_iff.1 hstep with ⟨-, rfl⟩ | ⟨i, hi, x, hb, rfl⟩
  · exact .inl rfl
  · exact .inr ⟨x, ⟨i, hi, hb⟩, rfl⟩

/-! ## What relations name -/

/-- A foreign key that is derived belongs to the field it stands under, and leads to a field that is
there. -/
theorem foreignKey_of_derive (placed : ∀ id x, targets id = some x → x.id = id)
    (h : (derive (m := Id) .standard d targets).run = .ok derived) {name : String}
    {key : ForeignKey} (hk : derived.foreignKeys[name]? = some key) :
    key.dataSource = d.id ∧ key.field = name ∧
      ∃ target, targets key.targetDataSource = some target ∧
        (target.field? key.targetField).isSome = true := by
  obtain ⟨f, -, rfl, reference, -, hb⟩ := build_of_deriveKeys (derive_eq_ok_iff.1 h).1 hk
  obtain ⟨-, target, ht, hf, rfl⟩ := ForeignKey.build_eq_ok_iff.1 hb
  exact ⟨rfl, rfl, target, by rw [placed _ _ ht, ht], hf⟩

/-- An import that is derived belongs to the field it stands under, leads where the foreign key
leads that it goes through, and shows a field that is there. -/
theorem importFrom_of_derive (placed : ∀ id x, targets id = some x → x.id = id)
    (h : (derive (m := Id) .standard d targets).run = .ok derived) {name : String}
    {i : ImportFrom} (hi : derived.imports[name]? = some i) :
    i.dataSource = d.id ∧ i.field = name ∧
      (∃ key, derived.foreignKeys[i.viaField]? = some key ∧
        key.targetDataSource = i.relatedDataSource) ∧
      ∃ related, targets i.relatedDataSource = some related ∧
        (related.field? i.displayField).isSome = true := by
  obtain ⟨f, -, rfl, imported, -, hb⟩ := build_of_deriveImports (derive_eq_ok_iff.1 h).2 hi
  obtain ⟨key, hk, related, hr, hf, rfl⟩ := ImportFrom.build_eq_ok_iff.1 hb
  have hid : related.id = key.targetDataSource := placed _ _ hr
  exact ⟨rfl, rfl, ⟨key, hk, hid.symm⟩, related, by rw [hid, hr], hf⟩

/-! ## More targets -/

/-- A derivation that succeeds ends in the same relations where more data sources are found. -/
theorem derive_of_more_targets (more : ∀ id x, targets id = some x → targets' id = some x)
    (h : (derive (m := Id) .standard d targets).run = .ok derived) :
    (derive (m := Id) .standard d targets').run = .ok derived := by
  obtain ⟨hkeys, himports⟩ := derive_eq_ok_iff.1 h
  refine derive_eq_ok_iff.2 ⟨foldlM_of_steps (fun f _ keys keys' hstep => ?_) hkeys,
    foldlM_of_steps (fun f _ imports imports' hstep => ?_) himports⟩
  · rw [deriveKey_eq_ok_iff] at hstep ⊢
    refine hstep.imp_right fun ⟨reference, hr, key, hb, he⟩ => ⟨reference, hr, key, ?_, he⟩
    obtain ⟨hc, target, ht, hf⟩ := ForeignKey.build_eq_ok_iff.1 hb
    exact ForeignKey.build_eq_ok_iff.2 ⟨hc, target, more _ _ ht, hf⟩
  · rw [deriveImport_eq_ok_iff] at hstep ⊢
    refine hstep.imp_right fun ⟨i, hi, x, hb, he⟩ => ⟨i, hi, x, ?_, he⟩
    obtain ⟨key, hk, related, hr, hf⟩ := ImportFrom.build_eq_ok_iff.1 hb
    exact ImportFrom.build_eq_ok_iff.2 ⟨key, hk, related, more _ _ hr, hf⟩

end Relations

end Switchboard
