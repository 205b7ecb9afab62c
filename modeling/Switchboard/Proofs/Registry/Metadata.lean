import Switchboard.Proofs.Registry.Coherence

/-!
# What registries know of data sources

Of the handlers of a registry, the relations of data sources see nothing but the data sources that
they bear. So two batches of well-placed handlers that bear the same data sources under the same ids
both lead to a registry or both to none, whatever else is among them and whatever their handlers do;
and the registries answer alike to everything that is asked about data sources.

* `values_filterMap`: the values of a map of which some are left out.
* `KnowsSame`: two registries know the same of data sources.
* `KnowsSame.dataSources`: they list the same ones.
* `IsDerivable`, `exists_ofHandlers_iff`: when a batch of handlers makes a registry.
* `knowsSame_of_ofHandlers`: batches that bear the same data sources.
-/

namespace Switchboard

@[simp] theorem values_filterMap {α ρ : Type} (t : ByField α) (f : α → Option ρ) :
    (t.filterMap fun _ x => f x).values = t.values.filterMap f := by
  rw [values_eq_map_snd, values_eq_map_snd, Std.ExtTreeMap.toList_filterMap, List.map_filterMap,
    List.filterMap_map]
  congr 1
  funext p
  cases h : f p.2 <;> simp [h]

namespace Registry

variable {σ : Type}

/-- Two registries know the same of data sources: they have the same ones under the same ids, with
the same relations. -/
structure KnowsSame (r r' : Registry σ Id) : Prop where
  dataSource?_eq : r.dataSource? = r'.dataSource?
  foreignKeys_eq : r.foreignKeys = r'.foreignKeys
  imports_eq : r.imports = r'.imports

namespace KnowsSame

variable {r r' : Registry σ Id} (h : KnowsSame r r')
include h

theorem dataSources : r.dataSources = r'.dataSources := by
  have hborne : (r.handlers.filterMap fun _ g => g.dataSource) =
      r'.handlers.filterMap fun _ g => g.dataSource := by
    refine Std.ExtTreeMap.ext_getElem? fun {id} => ?_
    rw [Std.ExtTreeMap.getElem?_filterMap', Std.ExtTreeMap.getElem?_filterMap']
    exact congrFun h.dataSource?_eq id
  rw [Registry.dataSources, ← values_filterMap, hborne, values_filterMap]
  rfl

theorem foreignKey : r.foreignKey = r'.foreignKey :=
  congrArg (relation · .foreignKey) h.foreignKeys_eq

theorem importFrom : r.importFrom = r'.importFrom :=
  congrArg (relation · .importFrom) h.imports_eq

theorem foreignKeysOf : r.foreignKeysOf = r'.foreignKeysOf :=
  congrArg (fun index => relations index ForeignKey.field) h.foreignKeys_eq

theorem importsOf : r.importsOf = r'.importsOf :=
  congrArg (fun index => relations index ImportFrom.field) h.imports_eq

end KnowsSame

/-! ## Registries of one batch -/

/-- The relations of all data sources that targets find can be derived among them. -/
def IsDerivable (targets : Targets) : Prop :=
  ∀ id d, targets id = some d →
    ∃ derived, (Relations.derive (m := Id) .standard d targets).run = .ok derived

theorem dataSource?_foldl_put_empty (batch : List (Handler σ)) :
    (batch.foldl put (empty .standard) : Registry σ Id).dataSource? = targetsAfter [batch] := by
  refine dataSource?_eq_targetsAfter fun id => ?_
  have hnone : (empty .standard : Registry σ Id).get? id = none := by simp [empty, get?]
  rw [get?_foldl_put, hnone, Option.or_none, List.flatten_singleton]

/-- Handlers make a registry when the relations of all data sources that they bear can be
derived. -/
theorem exists_ofHandlers_iff {batch : List (Handler σ)} :
    (∃ r, ofHandlers batch = .ok r) ↔ IsDerivable (targetsAfter [batch]) := by
  have hiff : (∃ r, ofHandlers batch = .ok r) ↔ ∀ id ∈ distinct (batch.map (·.id)),
      (batch.foldl put (empty .standard)).CanDerive id := exists_foldlM_deriveFor_iff
  have hrules : (empty .standard : Registry σ Id).rules = .standard := rfl
  rw [hiff]
  simp only [CanDerive, derive, rules_foldl_put, hrules, dataSource?_foldl_put_empty, mem_distinct]
  constructor
  · intro h id d hd
    obtain ⟨g, hg, -⟩ := Option.bind_eq_some_iff.1 hd
    rw [List.flatten_singleton] at hg
    exact h id (mem_map_id_iff.2 (by simp [hg])) d hd
  · exact fun h id _ => h id

theorem dataSource?_of_ofHandlers {batch : List (Handler σ)} {r : Registry σ Id}
    (h : ofHandlers batch = .ok r) : r.dataSource? = targetsAfter [batch] :=
  (dataSource?_congr (extend_eq_ok h).1).trans (dataSource?_foldl_put_empty batch)

/-- In the registry of well-placed handlers, every entry is derived for what is there. -/
theorem hasDerived_of_ofHandlers {batch : List (Handler σ)} {r : Registry σ Id}
    (placed : ∀ h ∈ batch, h.IsWellPlaced) (h : ofHandlers batch = .ok r) (id : String) :
    r.HasDerived id (r.entry id) := by
  have ht : Tells .standard [] (empty .standard : Registry σ Id) := tells_empty .standard
  obtain ⟨-, hg, he⟩ := extend_wellPlaced ht.wellPlaced ht.tidy placed h
  have hid := he id
  split at hid
  · exact hid
  · next hm =>
    have hnone : r.dataSource? id = none := by
      rw [dataSource?, hg, lastUnder_eq_none_iff.2 fun g hg he => hm ⟨g, hg, he⟩, ht.get?]
      rfl
    rw [HasDerived, hnone]
    exact hid

theorem HasDerived.unique {r r' : Registry σ Id} (hd : r.dataSource? = r'.dataSource?)
    (hr : r.rules = r'.rules) {id : String} {e e' : Entry} (h : r.HasDerived id e)
    (h' : r'.HasDerived id e') : e = e' := by
  unfold HasDerived at h h'
  rw [← hd] at h'
  cases hs : r.dataSource? id with
  | none =>
    rw [hs] at h h'
    exact h.trans h'.symm
  | some d =>
    rw [hs] at h h'
    obtain ⟨derived, hdr, rfl⟩ := h
    obtain ⟨derived', hdr', rfl⟩ := h'
    rw [derive, ← hd, ← hr] at hdr'
    cases hdr.symm.trans hdr'
    rfl

/-- Well-placed handlers that bear the same data sources make registries that know the same. -/
theorem knowsSame_of_ofHandlers {batch batch' : List (Handler σ)} {r r' : Registry σ Id}
    (placed : ∀ h ∈ batch, h.IsWellPlaced) (placed' : ∀ h ∈ batch', h.IsWellPlaced)
    (same : targetsAfter [batch] = targetsAfter [batch']) (h : ofHandlers batch = .ok r)
    (h' : ofHandlers batch' = .ok r') : KnowsSame r r' := by
  have hsame : r.dataSource? = r'.dataSource? := by
    rw [dataSource?_of_ofHandlers h, dataSource?_of_ofHandlers h', same]
  have hrules : r.rules = r'.rules :=
    (extend_eq_ok h).2.1.trans (extend_eq_ok h').2.1.symm
  have he : ∀ id, r.entry id = r'.entry id := fun id =>
    (hasDerived_of_ofHandlers placed h id).unique hsame hrules
      (hasDerived_of_ofHandlers placed' h' id)
  exact ⟨hsame, Std.ExtTreeMap.ext_getElem? fun {k} => congrArg Prod.fst (he k),
    Std.ExtTreeMap.ext_getElem? fun {k} => congrArg Prod.snd (he k)⟩

end Registry

end Switchboard
