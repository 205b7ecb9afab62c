import Switchboard.Proofs.Catalog.Skipping
import Switchboard.Proofs.Registry.Current

/-!
# What building a catalog comes to

A catalog goes through three passes: its entries are resolved in order, of each id the last one is
registered, and the relations of what is registered are derived. An id may be declared many times,
so the entry that fails, the one that is registered and the one whose relations are derived may be
three different ones. Entries that give way to others later are resolved all the same, and before
any relation is looked at.

* `forall_or_exists_first`: all elements of a list have a property, or there is a first one without.
* `mapM_append_cons_eq_error`: a row of attempts ends at the first one that fails.
* `Declaration.Resolves`, `Declaration.FailsToResolve`: entries by what becomes of their server
  objects.
* `Catalog.IsCovered`: an id that is both a data source and a handler.
* `Catalog.Describes`: what the registry of a catalog tells.
* `Catalog.toRegistry_characterized`: the three outcomes, and when they come about.
-/

namespace Switchboard

variable {σ : Type}

/-! ## First failures -/

theorem forall_or_exists_first {α : Type} (P : α → Prop) (xs : List α) :
    (∀ x ∈ xs, P x) ∨
      ∃ before x after, xs = before ++ x :: after ∧ (∀ y ∈ before, P y) ∧ ¬ P x := by
  classical
  cases h : xs.find? fun x => decide (¬ P x) with
  | none => exact .inl (by simpa using h)
  | some x =>
    obtain ⟨hx, before, after, hxs, hbefore⟩ := List.find?_eq_some_iff_append.1 h
    exact .inr ⟨before, x, after, hxs, by simpa using hbefore, by simpa using hx⟩

/-- A row of attempts ends at the first one that fails. -/
theorem mapM_append_cons_eq_error {ε α β : Type} {f : α → Attempt σ ε β} {before after : List α}
    {x : α} {ys : List β} {s s₁ s₂ : σ} {e : ε}
    (hbefore : (before.mapM f).run.run s = (.ok ys, s₁)) (hx : (f x).run.run s₁ = (.error e, s₂)) :
    ((before ++ x :: after).mapM f).run.run s = (.error e, s₂) := by
  rw [List.mapM_append, attempt_bind_of_eq_ok hbefore, List.mapM_cons]
  exact attempt_bind_of_eq_error (attempt_bind_of_eq_error hx)

/-! ## Entries and their server objects -/

namespace Declaration

/-- The server object of an entry is resolved in every state, if there is one. -/
def Resolves (dir : Directory σ) (d : Declaration) : Prop :=
  ∀ o, d.serverObject? = some o → ∀ t, ∃ h t', (dir.resolve d.id o).run.run t = (.ok h, t')

/-- The server object of an entry is resolved in no state, for the same reason in each. -/
def FailsToResolve (dir : Directory σ) (d : Declaration) (e : ResolutionError) : Prop :=
  ∃ o, d.serverObject? = some o ∧ ∀ t, (dir.resolve d.id o).run.run t = (.error e, t)

theorem resolves_or_failsToResolve (dir : Directory σ) (d : Declaration) :
    d.Resolves dir ∨ ∃ e, d.FailsToResolve dir e := by
  cases ho : d.serverObject? with
  | none =>
    left
    intro o h
    rw [ho] at h
    cases h
  | some o =>
    cases hl : dir.locate o with
    | ok route =>
      left
      intro o' h t
      rw [ho] at h
      cases h
      exact (exists_resolve_iff d.id t).2 ⟨route, hl⟩
    | error e => exact .inr ⟨e, o, ho, Directory.resolve_of_locate_error hl⟩

theorem FailsToResolve.toHandler_eq_error {dir : Directory σ} {d : Declaration}
    {e : ResolutionError} (h : d.FailsToResolve dir e) (s : σ) :
    (d.toHandler dir).run.run s = (.error (.resolution d.id e), s) := by
  obtain ⟨o, ho, he⟩ := h
  have hr : (dir.resolveEntry d.id o).run.run s = (.error (.resolution d.id e), s) :=
    attempt_adapt_of_eq_error (he s)
  cases d with
  | dataSource x =>
    simp only [toHandler, DataSourceEntry.toHandler, show x.serverObject = some o from ho]
    exact attempt_bind_of_eq_error hr
  | handler x =>
    cases ho
    exact attempt_bind_of_eq_error hr

end Declaration

namespace Catalog

/-- The handlers of entries that are all resolved. -/
theorem exists_mapM_toHandler {dir : Directory σ} {ds : List Declaration}
    (h : ∀ d ∈ ds, d.Resolves dir) (s : σ) :
    ∃ hs s', (ds.mapM (Declaration.toHandler dir)).run.run s = (.ok hs, s') :=
  (exists_mapM_iff (fun d s => Declaration.exists_toHandler_iff d s) s).2 fun d hd o ho =>
    (exists_resolve_iff d.id s).1 (h d hd o ho s)

theorem map_id_of_toHandlers {c : Catalog} {dir : Directory σ} {s s' : σ}
    {batch : List (Handler σ)} (h : (c.toHandlers dir).run.run s = (.ok batch, s')) :
    batch.map (·.id) = c.declarations.map (·.id) := by
  rw [toHandlers_eq_mapM] at h
  exact map_of_mapM_eq_ok
    (fun _ _ _ _ hd => (Declaration.id_dataSource_of_toHandler hd).1) h

theorem isCurrent_of_toRegistry {c : Catalog} {dir : Directory σ} {s s' : σ} {r : Registry σ Id}
    (built : (c.toRegistry dir).run.run s = (.ok r, s')) : r.IsCurrent := by
  obtain ⟨batch, hb, hr⟩ := toRegistry_eq_ok built
  exact Registry.isCurrent_of_ofHandlers (isWellPlaced_of_toHandlers hb) hr

/-! ## The registry -/

/-- An id is declared in both sections: as a data source, and as a handler. -/
def IsCovered (c : Catalog) (id : String) : Prop :=
  (∃ e ∈ c.dataSources, e.id = id) ∧ ∃ e ∈ c.handlers, e.id = id

theorem IsCovered.definition?_eq_none {c : Catalog} {id : String} (h : c.IsCovered id) :
    c.definition? id = none := by
  obtain ⟨-, e, he, hid⟩ := h
  rw [definition?, declared?]
  cases hl : lastBy (·.id) id c.handlers with
  | none => exact absurd hid (lastBy_eq_none_iff.1 hl e he)
  | some x => rfl

/-- What the registry of a catalog tells that is built in a state. -/
structure Describes (c : Catalog) (dir : Directory σ) (s : σ) (r : Registry σ Id) : Prop where
  /-- Under an id stands the handler of its last standalone handler, or else of its last data
  source. -/
  found : ∀ id d, c.declared? id = some d → ∃ h, r.lookup id = .ok h ∧ c.Makes dir s d h
  /-- Under an id that is not declared stands nothing. -/
  missing : ∀ id, c.declared? id = none → r.lookup id = .error ⟨id⟩
  /-- A data source whose id is a handler's is not listed. -/
  unlisted : ∀ id, c.IsCovered id → ∀ d ∈ r.dataSources, d.id ≠ id
  /-- No relations of it are known. -/
  unknown : ∀ id, c.IsCovered id → r.IsUnknown id
  /-- No foreign key leads to it. -/
  noTarget : ∀ id, c.IsCovered id → ∀ d field key, r.foreignKey d field = .ok key →
    key.targetDataSource ≠ id
  /-- No import is taken from it. -/
  noRelated : ∀ id, c.IsCovered id → ∀ d field i, r.importFrom d field = .ok i →
    i.relatedDataSource ≠ id

theorem describes_of_toRegistry {c : Catalog} {dir : Directory σ} {s s' : σ} {r : Registry σ Id}
    (built : (c.toRegistry dir).run.run s = (.ok r, s')) : c.Describes dir s r := by
  obtain ⟨batch, hb, hr⟩ := toRegistry_eq_ok built
  have current := isCurrent_of_toRegistry built
  have hd := dataSource?_of_toRegistry built
  have hcovered : ∀ {id}, c.IsCovered id → r.dataSource? id = none := fun h =>
    hd ▸ h.definition?_eq_none
  constructor
  · exact fun id d h => lookup_of_toRegistry built h
  · intro id h
    rw [declared?_eq_lastBy, lastBy_eq_none_iff] at h
    have hn : lastUnder id batch = none := by
      rw [lastUnder_eq_none_iff]
      intro g hg hid
      obtain ⟨d, hm, he⟩ := List.mem_map.1 (map_id_of_toHandlers hb ▸ List.mem_map_of_mem hg)
      exact h d hm (he.trans hid)
    have hg : r.get? id = none := by
      rw [Registry.get?_extend (r := Registry.empty .standard) hr, hn, Option.none_or]
      simp [Registry.empty, Registry.get?]
    simp only [Registry.lookup, hg]
  · rintro id h d hm rfl
    obtain ⟨k, hk⟩ := Registry.mem_dataSources_iff.1 hm
    rw [← current.wellPlaced k d hk, hcovered h] at hk
    cases hk
  · exact fun id h => current.isUnknown (hcovered h)
  · rintro id h d field key hk rfl
    obtain ⟨x, hx⟩ := current.exists_target hk
    rw [hcovered h] at hx
    cases hx
  · rintro id h d field i hi rfl
    obtain ⟨x, hx⟩ := current.exists_related hi
    rw [hcovered h] at hx
    cases hx

/-- Building a catalog comes to one of three outcomes. Where some entry is not resolved, it fails
with the first one of those, whatever comes behind it. Where all are but the relations of some data
source that counts cannot be derived, it fails with the error of the first such id, in the order in
which the ids first occur. Otherwise there is a registry, as the catalog describes it. -/
theorem toRegistry_characterized (c : Catalog) (dir : Directory σ) (s : σ) :
    (∃ before d after e s', c.declarations = before ++ d :: after ∧
      (∀ x ∈ before, x.Resolves dir) ∧ d.FailsToResolve dir e ∧
      (c.toRegistry dir).run.run s = (.error (.resolution d.id e), s')) ∨
    ((∀ d ∈ c.declarations, d.Resolves dir) ∧
      ∃ before id after d e s', distinct (c.declarations.map (·.id)) = before ++ id :: after ∧
        (∀ k ∈ before, ∀ x, c.definition? k = some x →
          ∃ derived, (Relations.derive (m := Id) .standard x c.definition?).run = .ok derived) ∧
        c.definition? id = some d ∧
        (Relations.derive (m := Id) .standard d c.definition?).run = .error e ∧
        (c.toRegistry dir).run.run s = (.error (.registry e), s')) ∨
    ((∀ d ∈ c.declarations, d.Resolves dir) ∧ Registry.IsDerivable c.definition? ∧
      ∃ r s', (c.toRegistry dir).run.run s = (.ok r, s') ∧ c.Describes dir s r) := by
  rcases forall_or_exists_first (Declaration.Resolves dir) c.declarations with
    hall | ⟨before, d, after, hds, hbefore, hd⟩
  · right
    obtain ⟨batch, s', hb⟩ := exists_mapM_toHandler hall s
    rw [← toHandlers_eq_mapM] at hb
    have ht := targetsAfter_of_toHandlers hb
    cases hr : Registry.ofHandlers batch with
    | error e =>
      obtain ⟨before, id, after, d, hsplit, hbefore, hid, he⟩ := Registry.ofHandlers_eq_error hr
      rw [ht] at hid he hbefore
      rw [map_id_of_toHandlers hb] at hsplit
      refine .inl ⟨hall, before, id, after, d, e, s', hsplit, hbefore, hid, he, ?_⟩
      rw [toRegistry, attempt_bind_of_eq_ok hb, hr]
      rfl
    | ok r =>
      have built : (c.toRegistry dir).run.run s = (.ok r, s') := by
        rw [toRegistry, attempt_bind_of_eq_ok hb, hr]
        rfl
      exact .inr ⟨hall, ht ▸ Registry.exists_ofHandlers_iff.1 ⟨r, hr⟩, r, s', built,
        describes_of_toRegistry built⟩
  · left
    obtain ⟨e, he⟩ := (d.resolves_or_failsToResolve dir).resolve_left hd
    obtain ⟨hs, s₁, hmap⟩ := exists_mapM_toHandler hbefore s
    refine ⟨before, d, after, e, s₁, hds, hbefore, he, ?_⟩
    rw [toRegistry, toHandlers_eq_mapM, hds]
    exact attempt_bind_of_eq_error (mapM_append_cons_eq_error hmap (he.toHandler_eq_error s₁))

/-- Beds are covered by a handler, and staff refer to rooms that are missing, but what counts is
that the beds lead nowhere. -/
example : (toRegistry ⟨[⟨⟨"staff", [⟨"room", some "rooms.id", none⟩], []⟩, none⟩,
      ⟨.new "beds", some ⟨.new, "Ward", "ping"⟩⟩], [⟨"beds", ⟨.new, "Health", "ping"⟩⟩]⟩
    clinic).run.run () = (.error (.resolution "beds" (.unknownType "Ward")), ()) := rfl

end Catalog

end Switchboard
