import Switchboard.Proofs.Registry.Integrity
import Switchboard.Proofs.Registry.Metadata

/-!
# Registries of one batch

Where all handlers come at once, no relations are older than others. Of every data source that is
there relations are known, and they are those that it has among the data sources that are there; of
nothing else any are known. So whatever the registry lists can be asked for, and no relation leads
to an id whose handler bears no data source.

* `ofHandlers_eq_error`: of the ids of a batch, the first that has no relations decides the error.
* `ofHandlers_eq_error_congr`: it does not depend on anything else but the data sources they bear.
* `mem_dataSources_iff`: which data sources are listed.
* `IsCurrent`: a registry in which every entry is that of what is there.
* `isCurrent_of_ofHandlers`: well-placed handlers make such a registry.
* `IsCurrent.exists_relations`, `IsCurrent.isUnknown`: of which ids relations are known.
* `IsCurrent.exists_target`, `IsCurrent.exists_related`: what relations lead to.
-/

namespace Switchboard

namespace Registry

variable {σ : Type}

/-! ## Batches that make no registry -/

theorem deriveFor_eq_error {r : Registry σ Id} {id : String} {e : DerivationError}
    (h : (r.deriveFor id).run = .error e) :
    ∃ d, r.dataSource? id = some d ∧ (r.derive d).run = .error e := by
  unfold deriveFor at h
  cases hd : r.dataSource? id with
  | none =>
    rw [hd] at h
    cases h
  | some d =>
    rw [hd] at h
    rcases run_bind_eq_error_iff.1 h with he | ⟨derived, -, he⟩
    · exact ⟨d, rfl, he⟩
    · cases he

/-- A batch makes no registry for the sake of the first of its ids whose data source, the one that
comes last, does not have its relations derived. -/
theorem ofHandlers_eq_error {batch : List (Handler σ)} {e : DerivationError}
    (h : ofHandlers batch = .error e) :
    ∃ before id after d, distinct (batch.map (·.id)) = before ++ id :: after ∧
      (∀ k ∈ before, ∀ x, targetsAfter [batch] k = some x →
        ∃ derived,
          (Relations.derive (m := Id) .standard x (targetsAfter [batch])).run = .ok derived) ∧
      targetsAfter [batch] id = some d ∧
      (Relations.derive (m := Id) .standard d (targetsAfter [batch])).run = .error e := by
  obtain ⟨before, id, after, mid, hids, hbefore, he⟩ := foldlM_eq_error_iff.1 h
  have hrules : (batch.foldl put (empty .standard) : Registry σ Id).rules = .standard :=
    rules_foldl_put _ batch
  obtain ⟨hh, hr, -⟩ := foldlM_deriveFor_eq_ok hbefore
  obtain ⟨d, hd, hde⟩ := deriveFor_eq_error he
  rw [derive_congr hh hr, derive, hrules, dataSource?_foldl_put_empty] at hde
  rw [dataSource?_congr hh, dataSource?_foldl_put_empty] at hd
  refine ⟨before, id, after, d, hids, fun k hk x hx => ?_, hd, hde⟩
  have hcan := exists_foldlM_deriveFor_iff.1 ⟨mid, hbefore⟩ k hk x
  rw [derive, hrules, dataSource?_foldl_put_empty] at hcan
  exact hcan hx

@[simp] theorem mem_dataSources_iff {r : Registry σ Id} {d : DataSource} :
    d ∈ r.dataSources ↔ ∃ id, r.dataSource? id = some d := by
  simp only [dataSources, List.mem_mergeSort, List.mem_filterMap, mem_values_iff, dataSource?, get?,
    Option.bind_eq_some_iff]
  constructor
  · rintro ⟨g, ⟨id, hg⟩, hd⟩
    exact ⟨id, g, hg, hd⟩
  · rintro ⟨id, g, hg, hd⟩
    exact ⟨g, ⟨id, hg⟩, hd⟩

/-- Every question for a relation of an id is answered by that it is no known data source. -/
structure IsUnknown (r : Registry σ Id) (id : String) : Prop where
  foreignKey : ∀ field, r.foreignKey id field = .error (.unknownDataSource id)
  importFrom : ∀ field, r.importFrom id field = .error (.unknownDataSource id)
  foreignKeysOf : r.foreignKeysOf id = .error (.unknownDataSource id)
  importsOf : r.importsOf id = .error (.unknownDataSource id)

theorem isUnknown_of_entry {r : Registry σ Id} {id : String} (h : r.entry id = (none, none)) :
    r.IsUnknown id := by
  obtain ⟨hk, hi⟩ := Prod.mk.inj h
  constructor
  · exact fun field => relation_eq_unknown_iff.2 hk
  · exact fun field => relation_eq_unknown_iff.2 hi
  · rw [Registry.foreignKeysOf, relations, hk]
  · rw [Registry.importsOf, relations, hi]

/-- Every data source is found under its own id, and every entry is that of what is there. -/
structure IsCurrent (r : Registry σ Id) : Prop where
  wellPlaced : r.IsWellPlaced
  rules_eq : r.rules = .standard
  derived : ∀ id, r.HasDerived id (r.entry id)

theorem isCurrent_of_ofHandlers {batch : List (Handler σ)} {r : Registry σ Id}
    (placed : ∀ h ∈ batch, h.IsWellPlaced) (h : ofHandlers batch = .ok r) : r.IsCurrent where
  wellPlaced := by
    have ht : Tells .standard [] (empty .standard : Registry σ Id) := tells_empty .standard
    exact (extend_wellPlaced ht.wellPlaced ht.tidy placed h).1
  rules_eq := (extend_eq_ok h).2.1
  derived := hasDerived_of_ofHandlers placed h

namespace IsCurrent

variable {r : Registry σ Id} (h : r.IsCurrent) {id : String}
include h

/-- Of a data source that is there both kinds of relations are known. -/
theorem exists_relations {d : DataSource} (hd : r.dataSource? id = some d) :
    ∃ keys imports, r.foreignKeysOf id = .ok keys ∧ r.importsOf id = .ok imports := by
  have he := h.derived id
  rw [HasDerived, hd] at he
  obtain ⟨derived, -, he⟩ := he
  obtain ⟨hk, hi⟩ := Prod.mk.inj he
  rw [foreignKeysOf, relations, hk, importsOf, relations, hi]
  exact ⟨_, _, rfl, rfl⟩

/-- Of an id whose handler bears none, or that has no handler, none are. -/
theorem isUnknown (hd : r.dataSource? id = none) : r.IsUnknown id := by
  have he := h.derived id
  rw [HasDerived, hd] at he
  exact isUnknown_of_entry he

theorem isIntact : r.IsIntact :=
  isIntact_of_supports fun id => supports_of_hasDerived h.wellPlaced h.rules_eq (h.derived id)

theorem exists_target {field : String} {key : ForeignKey} (hk : r.foreignKey id field = .ok key) :
    ∃ d, r.dataSource? key.targetDataSource = some d := by
  obtain ⟨d, hd, -⟩ := h.isIntact.foreignKeys id field key hk
  exact ⟨d, hd⟩

theorem exists_related {field : String} {i : ImportFrom} (hi : r.importFrom id field = .ok i) :
    ∃ d, r.dataSource? i.relatedDataSource = some d := by
  obtain ⟨d, hd, -⟩ := h.isIntact.imports id field i hi
  exact ⟨d, hd⟩

end IsCurrent

end Registry

end Switchboard
