import Switchboard.Proofs.Registry.History

/-!
# The order of a batch

Of every id, an extension keeps the last handler of the batch. Handlers that stood there for a while
leave no trace, and relations are derived only when all handlers are in their places: so batches
with the same last handlers lead to the same registry, in whatever order, or fail together. What the
order does decide is which error comes first.

* `ext_of_entry`: a registry is its handlers, its entries and its rules.
* `foldl_put_eq_of_same_last`: what a batch leaves before anything is derived.
* `foldlM_deriveFor_of_same_ids`: the order in which relations are derived does not matter.
* `BuiltBy.extend_of_same_last`: two batches with the same last handlers.
-/

namespace Switchboard

namespace Registry

variable {σ : Type}

theorem ext_of_entry {r r' : Registry σ Id} (hh : ∀ id, r.get? id = r'.get? id)
    (he : ∀ k, r.entry k = r'.entry k) (hr : r.rules = r'.rules) : r = r' := by
  have hhandlers : r.handlers = r'.handlers := Std.ExtTreeMap.ext_getElem? fun {id} => hh id
  have hkeys : r.foreignKeys = r'.foreignKeys :=
    Std.ExtTreeMap.ext_getElem? fun {k} => congrArg Prod.fst (he k)
  have himports : r.imports = r'.imports :=
    Std.ExtTreeMap.ext_getElem? fun {k} => congrArg Prod.snd (he k)
  cases r
  cases r'
  simp_all only

theorem IsEntryAfter.unique {r : Registry σ Id} {borne : Option DataSource} {k : String}
    {e e' : Entry} (h : r.IsEntryAfter borne k e) (h' : r.IsEntryAfter borne k e') : e = e' := by
  cases borne with
  | none => exact h.trans h'.symm
  | some d =>
    obtain ⟨derived, hd, rfl⟩ := h
    obtain ⟨derived', hd', rfl⟩ := h'
    rw [hd] at hd'
    rw [Except.ok.inj hd']

/-- Well-placed batches with the same last handlers leave the same behind: the entries of their ids
are gone, however often handlers gave way. -/
theorem foldl_put_eq_of_same_last {r : Registry σ Id} (hr : r.IsWellPlaced) (ht : r.IsTidy)
    {batch batch' : List (Handler σ)} (hb : ∀ h ∈ batch, h.IsWellPlaced)
    (hb' : ∀ h ∈ batch', h.IsWellPlaced) (same : ∀ id, lastUnder id batch = lastUnder id batch') :
    batch.foldl put r = batch'.foldl put r := by
  refine ext_of_entry (fun id => ?_) (fun k => ?_) ?_
  · rw [get?_foldl_put, get?_foldl_put, same]
  · rw [(entry_foldl_put hr ht hb).2, (entry_foldl_put hr ht hb').2]
    simp only [mem_map_id_iff, same]
  · rw [rules_foldl_put, rules_foldl_put]

/-- Of well-placed handlers, the relations of each id are written to an entry of its own, so the
order of the ids does not matter. -/
theorem foldlM_deriveFor_of_same_ids {r s : Registry σ Id} (hr : r.IsWellPlaced)
    {ids ids' : List String} (same : ∀ id, id ∈ ids ↔ id ∈ ids')
    (h : (ids.foldlM deriveFor r).run = .ok s) : (ids'.foldlM deriveFor r).run = .ok s := by
  have each := exists_foldlM_deriveFor_iff.1 ⟨s, h⟩
  obtain ⟨s', h'⟩ := exists_foldlM_deriveFor_iff.2 fun id hid => each id ((same id).2 hid)
  obtain ⟨hh, hrules, he⟩ := foldlM_deriveFor_eq_ok h
  obtain ⟨hh', hrules', he'⟩ := foldlM_deriveFor_eq_ok h'
  have hs : s' = s := by
    refine ext_of_entry (fun id => ?_) (fun k => ?_) (hrules'.trans hrules.symm)
    · rw [get?, get?, hh, hh']
    · have hk := he k
      have hk' := he' k
      rw [hr.lastBorne_eq] at hk hk'
      simp only [same] at hk
      exact hk'.unique hk
  rw [← hs]
  exact h'

/-- Two batches of well-placed handlers that leave the same last handler under every id, on top of
the same registry: both succeed and lead to the same registry, or both fail; and if the ids first
occur in the same order, they fail with the same error. -/
theorem BuiltBy.extend_of_same_last {rules : RelationRules Id} {batches : List (List (Handler σ))}
    {r : Registry σ Id} (built : BuiltBy rules batches r)
    (placed : ∀ batch ∈ batches, ∀ h ∈ batch, h.IsWellPlaced) {batch batch' : List (Handler σ)}
    (hb : ∀ h ∈ batch, h.IsWellPlaced) (hb' : ∀ h ∈ batch', h.IsWellPlaced)
    (same : ∀ id, lastUnder id batch = lastUnder id batch') :
    (∃ s, (r.extend batch).run = .ok s ∧ (r.extend batch').run = .ok s) ∨
      ∃ e e', (r.extend batch).run = .error e ∧ (r.extend batch').run = .error e' ∧
        (distinct (batch.map (·.id)) = distinct (batch'.map (·.id)) → e = e') := by
  have ht := built.tells placed
  have hput := foldl_put_eq_of_same_last ht.wellPlaced ht.tidy hb hb' same
  have hp : (batch'.foldl put r).IsWellPlaced := (entry_foldl_put ht.wellPlaced ht.tidy hb').1
  have hids : ∀ id, id ∈ distinct (batch.map (·.id)) ↔ id ∈ distinct (batch'.map (·.id)) := by
    intro id
    rw [mem_distinct, mem_distinct, mem_map_id_iff, mem_map_id_iff, same]
  unfold Registry.extend
  rw [hput]
  cases h : ((distinct (batch.map (·.id))).foldlM deriveFor (batch'.foldl put r)).run with
  | ok s => exact .inl ⟨s, rfl, foldlM_deriveFor_of_same_ids hp hids h⟩
  | error e =>
    cases h' : ((distinct (batch'.map (·.id))).foldlM deriveFor (batch'.foldl put r)).run with
    | ok s =>
      rw [foldlM_deriveFor_of_same_ids hp (fun id => (hids id).symm) h'] at h
      cases h
    | error e' =>
      refine .inr ⟨e, e', rfl, rfl, fun order => ?_⟩
      rw [order, h'] at h
      exact (Except.error.inj h).symm

/-- Orders, and in the place of customers a handler without a data source, then customers without
fields, then customers with fields. -/
def restock : List (Handler Unit) :=
  [.ofDataSource orders none, ⟨"customers", none, fun _ => return .empty⟩,
    .ofDataSource (.new "customers") none,
    .ofDataSource ⟨"customers", [.new "id", .new "name"], []⟩ none]

/-- What of `restock` stays, the other way round. -/
def restocked : List (Handler Unit) :=
  [.ofDataSource ⟨"customers", [.new "id", .new "name"], []⟩ none, .ofDataSource orders none]

theorem restock_extend_of_same_last :
    (∀ h ∈ restock, h.IsWellPlaced) ∧ (∀ h ∈ restocked, h.IsWellPlaced) ∧
      (∀ id, lastUnder id restock = lastUnder id restocked) ∧
      ∃ r s, BuiltBy .standard [shop[0]] r ∧
        (r.extend restock).run = .ok s ∧ (r.extend restocked).run = .ok s := by
  have placed : ∀ h ∈ restock, h.IsWellPlaced := by
    simp [restock, Handler.IsWellPlaced, Handler.ofDataSource, DataSource.new]
  have placed' : ∀ h ∈ restocked, h.IsWellPlaced := by
    simp [restocked, Handler.IsWellPlaced, Handler.ofDataSource]
  have same : ∀ id, lastUnder id restock = lastUnder id restocked := by
    intro id
    have hnil : lastUnder id ([] : List (Handler Unit)) = none := rfl
    by_cases hc : "customers" = id
    · subst hc
      have ho : orders.id ≠ "customers" := by decide
      simp [restock, restocked, lastUnder_cons, hnil, Handler.ofDataSource, ho]
    · simp [restock, restocked, lastUnder_cons, hnil, Handler.ofDataSource, DataSource.new, hc]
  obtain ⟨r, s, hr, hs⟩ : ∃ r s : Registry Unit Id,
      ((empty .standard : Registry Unit Id).extend shop[0]).run = .ok r ∧
        (r.extend restocked).run = .ok s := ⟨_, _, rfl, rfl⟩
  have built : BuiltBy .standard [shop[0]] r := .extend .empty hr
  have shopPlaced : ∀ batch ∈ [shop[0]], ∀ h ∈ batch, h.IsWellPlaced := by
    simp [shop, Handler.IsWellPlaced, Handler.ofDataSource]
  rcases built.extend_of_same_last shopPlaced placed placed' same with
    ⟨s', h, h'⟩ | ⟨e, e', -, h', -⟩
  · exact ⟨placed, placed', same, r, s', built, h, h'⟩
  · rw [hs] at h'
    cases h'

end Registry

end Switchboard
