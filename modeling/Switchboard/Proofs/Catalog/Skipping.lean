import Switchboard.Proofs.Catalog.Layers
import Switchboard.Proofs.CommandLine.Reports

/-!
# Catalogs without their server objects

A catalog may be built without its server objects, so that no code is needed. What is left are the
data sources, and handlers that answer nothing. A server object has no say in what is known of a
data source, so the registry knows the same as if all had been resolved. Only where a standalone
handler masks a data source of its id the two differ, since the handler is left out.

* `exists_resolve_iff`: whether a server object can be resolved does not hang on the state.
* `Catalog.definition?`, `Catalog.targetsAfter_of_toHandlers`: the data sources of a catalog, and of
  the handlers made of it.
* `Catalog.exists_toRegistry_iff`: when a catalog has a registry.
* `Catalog.skipping_keeps_metadata`: the registry of layers, with and without their server objects.
-/

namespace Switchboard

variable {σ : Type}

/-! ## Server objects that can be resolved -/

/-- Whether a server object can be resolved is settled by where it leads, and so in all states
alike. -/
theorem exists_resolve_iff {dir : Directory σ} {o : ServerObject} (id : String) (s : σ) :
    (∃ h s', (dir.resolve id o).run.run s = (.ok h, s')) ↔ ∃ route, dir.locate o = .ok route := by
  cases hl : dir.locate o with
  | error e =>
    have hr : (dir.resolve id o).run.run s = (.error e, s) :=
      Directory.resolve_of_locate_error hl s
    constructor
    · rintro ⟨h, s', hok⟩
      cases hr.symm.trans hok
    · rintro ⟨route, hok⟩
      cases hok
  | ok route =>
    rw [Directory.resolve, hl]
    exact ⟨fun _ => ⟨route, rfl⟩, fun _ => ⟨_, _, rfl⟩⟩

theorem exists_resolveEntry_iff {dir : Directory σ} {o : ServerObject} (id : String)
    (f : DirectHandler σ → Handler σ) (s : σ) :
    (∃ h s', (dir.resolveEntry id o >>= fun g => pure (f g)).run.run s = (.ok h, s')) ↔
      ∃ route, dir.locate o = .ok route := by
  rw [← exists_resolve_iff id s]
  constructor
  · rintro ⟨h, s', hok⟩
    obtain ⟨g, s₁, hg, -⟩ := attempt_bind_eq_ok hok
    exact ⟨g, s₁, attempt_adapt_eq_ok hg⟩
  · rintro ⟨g, s₁, hg⟩
    have hr : (dir.resolveEntry id o).run.run s = (.ok g, s₁) := attempt_adapt_of_eq_ok hg
    exact ⟨f g, s₁, by rw [attempt_bind_of_eq_ok hr]; rfl⟩

/-! ## Declarations -/

namespace Declaration

/-- The data source that is declared, if it is one. -/
def dataSource? : Declaration → Option DataSource
  | dataSource e => some e.definition
  | handler _ => none

/-- The server object of a declaration. -/
def serverObject? : Declaration → Option ServerObject
  | dataSource e => e.serverObject
  | handler e => some e.serverObject

theorem dataSource_of_toHandler {dir : Directory σ} {d : Declaration} {s s' : σ} {h : Handler σ}
    (hd : (d.toHandler dir).run.run s = (.ok h, s')) : h.dataSource = d.dataSource? := by
  rw [(id_dataSource_of_toHandler hd).2]
  cases d <;> rfl

theorem id_of_dataSource? {d : Declaration} {x : DataSource} (h : d.dataSource? = some x) :
    x.id = d.id := by
  cases d with
  | dataSource e =>
    cases h
    rfl
  | handler e => cases h

/-- A declaration is made into a handler where its server object leads somewhere. -/
theorem exists_toHandler_iff {dir : Directory σ} (d : Declaration) (s : σ) :
    (∃ h s', (d.toHandler dir).run.run s = (.ok h, s')) ↔
      ∀ o, d.serverObject? = some o → ∃ route, dir.locate o = .ok route := by
  cases d with
  | dataSource e =>
    simp only [toHandler, DataSourceEntry.toHandler, serverObject?]
    cases e.serverObject with
    | none => exact ⟨fun _ _ ho => absurd ho (Option.some_ne_none _).symm, fun _ => ⟨_, s, rfl⟩⟩
    | some o =>
      simp only [Option.some.injEq, forall_eq']
      exact exists_resolveEntry_iff e.id (fun g => (g.bearing e.definition).toHandler) s
  | handler e =>
    simp only [toHandler, HandlerEntry.toHandler, serverObject?, Option.some.injEq, forall_eq']
    exact exists_resolveEntry_iff e.id DirectHandler.toHandler s

end Declaration

namespace Catalog

/-! ## What a catalog says of data sources -/

/-- The server objects of a catalog, with the ids of their entries. -/
def serverObjects (c : Catalog) : List (String × ServerObject) :=
  c.declarations.filterMap fun d => d.serverObject?.map (d.id, ·)

/-- The data source that counts for an id. -/
def definition? (c : Catalog) : Targets := fun id => (c.declared? id).bind (·.dataSource?)

theorem map_id_dataSource_of_toHandlers {c : Catalog} {dir : Directory σ} {s s' : σ}
    {batch : List (Handler σ)} (h : (c.toHandlers dir).run.run s = (.ok batch, s')) :
    batch.map (fun g => (g.id, g.dataSource)) =
      c.declarations.map fun d => (d.id, d.dataSource?) := by
  rw [toHandlers_eq_mapM] at h
  exact map_of_mapM_eq_ok (fun _ _ _ _ hd => Prod.ext
    (Declaration.id_dataSource_of_toHandler hd).1 (Declaration.dataSource_of_toHandler hd)) h

/-- The handlers made of a catalog bear the data sources that count in it. -/
theorem targetsAfter_of_toHandlers {c : Catalog} {dir : Directory σ} {s s' : σ}
    {batch : List (Handler σ)} (h : (c.toHandlers dir).run.run s = (.ok batch, s')) :
    Registry.targetsAfter [batch] = c.definition? := by
  funext id
  have hbatch : Registry.targetsAfter [batch] id =
      (lastBy (·.id) id batch).bind (·.dataSource) := by
    rw [Registry.targetsAfter, List.flatten_singleton]
    rfl
  rw [hbatch, lastBy_bind, map_id_dataSource_of_toHandlers h, ← lastBy_bind, definition?,
    declared?_eq_lastBy]

theorem isWellPlaced_of_toHandlers {c : Catalog} {dir : Directory σ} {s s' : σ}
    {batch : List (Handler σ)} (h : (c.toHandlers dir).run.run s = (.ok batch, s')) :
    ∀ g ∈ batch, g.IsWellPlaced := by
  intro g hg x hx
  have hm : (g.id, g.dataSource) ∈ c.declarations.map fun d => (d.id, d.dataSource?) :=
    map_id_dataSource_of_toHandlers h ▸ List.mem_map.2 ⟨g, hg, rfl⟩
  obtain ⟨d, -, he⟩ := List.mem_map.1 hm
  obtain ⟨hid, hd⟩ := Prod.mk.inj he
  rw [Declaration.id_of_dataSource? (hd.trans hx), hid]

theorem exists_toHandlers_iff {c : Catalog} {dir : Directory σ} (s : σ) :
    (∃ batch s', (c.toHandlers dir).run.run s = (.ok batch, s')) ↔
      ∀ o ∈ c.serverObjects, ∃ route, dir.locate o.2 = .ok route := by
  rw [toHandlers_eq_mapM, exists_mapM_iff (fun d s => Declaration.exists_toHandler_iff d s) s]
  simp only [serverObjects, List.mem_filterMap, Option.map_eq_some_iff]
  constructor
  · rintro h o ⟨d, hd, x, hx, rfl⟩
    exact h d hd x hx
  · exact fun h d hd x hx => h (d.id, x) ⟨d, hd, x, hx, rfl⟩

/-- A catalog has a registry when all its server objects lead somewhere and the relations of all its
data sources can be derived. -/
theorem exists_toRegistry_iff {c : Catalog} {dir : Directory σ} (s : σ) :
    (∃ r s', (c.toRegistry dir).run.run s = (.ok r, s')) ↔
      (∀ o ∈ c.serverObjects, ∃ route, dir.locate o.2 = .ok route) ∧
        Registry.IsDerivable c.definition? := by
  rw [← exists_toHandlers_iff s]
  constructor
  · rintro ⟨r, s', h⟩
    obtain ⟨batch, hb, hr⟩ := toRegistry_eq_ok h
    exact ⟨⟨batch, s', hb⟩,
      targetsAfter_of_toHandlers hb ▸ Registry.exists_ofHandlers_iff.1 ⟨r, hr⟩⟩
  · rintro ⟨⟨batch, s', hb⟩, hd⟩
    obtain ⟨r, hr⟩ := Registry.exists_ofHandlers_iff.2 (targetsAfter_of_toHandlers hb ▸ hd)
    refine ⟨r, s', ?_⟩
    rw [toRegistry_of_toHandlers hb, hr]
    rfl

/-- Registries of catalogs in which the same data sources count know the same. -/
theorem knowsSame_of_toRegistry {c c' : Catalog} {dir : Directory σ} {s s₁ t t₁ : σ}
    {r r' : Registry σ Id} (same : c.definition? = c'.definition?)
    (h : (c.toRegistry dir).run.run s = (.ok r, s₁))
    (h' : (c'.toRegistry dir).run.run t = (.ok r', t₁)) : r.KnowsSame r' := by
  obtain ⟨batch, hb, hr⟩ := toRegistry_eq_ok h
  obtain ⟨batch', hb', hr'⟩ := toRegistry_eq_ok h'
  refine Registry.knowsSame_of_ofHandlers (isWellPlaced_of_toHandlers hb)
    (isWellPlaced_of_toHandlers hb') ?_ hr hr'
  rw [targetsAfter_of_toHandlers hb, targetsAfter_of_toHandlers hb', same]

theorem dataSource?_of_toRegistry {c : Catalog} {dir : Directory σ} {s s' : σ} {r : Registry σ Id}
    (h : (c.toRegistry dir).run.run s = (.ok r, s')) : r.dataSource? = c.definition? := by
  obtain ⟨batch, hb, hr⟩ := toRegistry_eq_ok h
  rw [Registry.dataSource?_of_ofHandlers hr, targetsAfter_of_toHandlers hb]

/-! ## Without server objects -/

/-- No standalone handler has the id of a data source. -/
def IsApart (c : Catalog) : Prop := ∀ h ∈ c.handlers, ∀ e ∈ c.dataSources, h.id ≠ e.id

@[simp] theorem serverObjects_withoutServerObjects (c : Catalog) :
    c.withoutServerObjects.serverObjects = [] := by
  simp [serverObjects, declarations, withoutServerObjects, Declaration.serverObject?,
    List.filterMap_map]

/-- Where no handler has the id of a data source, the last data source of an id counts. -/
theorem IsApart.definition?_eq {c : Catalog} (apart : c.IsApart) (id : String) :
    c.definition? id = (lastBy (·.id) id c.dataSources).map (·.definition) := by
  rw [definition?, declared?]
  cases hh : lastBy (·.id) id c.handlers with
  | none => cases lastBy (·.id) id c.dataSources <;> rfl
  | some h =>
    obtain ⟨rfl, before, after, hs, -⟩ := lastBy_eq_some_iff.1 hh
    have hm : h ∈ c.handlers := hs ▸ List.mem_append_cons_self
    have hnone : lastBy (·.id) h.id c.dataSources = none :=
      lastBy_eq_none_iff.2 fun e he => Ne.symm (apart h hm e he)
    rw [hnone]
    rfl

theorem IsApart.exists_definition? {c : Catalog} (apart : c.IsApart) {e : DataSourceEntry}
    (he : e ∈ c.dataSources) : ∃ d, c.definition? e.id = some d := by
  rw [apart.definition?_eq]
  cases hl : lastBy (·.id) e.id c.dataSources with
  | none => exact absurd rfl (lastBy_eq_none_iff.1 hl e he)
  | some x => exact ⟨x.definition, rfl⟩

/-- Without server objects, the same data sources count as with them. -/
theorem IsApart.definition?_withoutServerObjects {c : Catalog} (apart : c.IsApart) :
    c.withoutServerObjects.definition? = c.definition? := by
  have hbare : c.withoutServerObjects.IsApart := fun h hm => by cases hm
  funext id
  rw [hbare.definition?_eq, apart.definition?_eq, withoutServerObjects, lastBy_map, Option.map_map]
  rfl

/-- Layers in which no handler has the id of a data source have a registry exactly when they have
one without their server objects and each of these can be resolved. The two registries have the same
data sources and answer every question for a relation alike. Whatever states they leave, the same
relations are reported of all data sources, and the same bindings of those that are declared. -/
theorem skipping_keeps_metadata (layers : List Catalog) (dir : Directory σ)
    (apart : (ofLayers layers).IsApart) :
    (∀ s, (∃ r s', ((ofLayers layers).toRegistry dir).run.run s = (.ok r, s')) ↔
      (∃ r s', ((ofLayers layers).withoutServerObjects.toRegistry dir).run.run s = (.ok r, s')) ∧
        ∀ o ∈ (ofLayers layers).serverObjects,
          ∃ h s', (dir.resolve o.1 o.2).run.run s = (.ok h, s')) ∧
    ∀ s r s' t r' t', ((ofLayers layers).toRegistry dir).run.run s = (.ok r, s') →
      ((ofLayers layers).withoutServerObjects.toRegistry dir).run.run t = (.ok r', t') →
      r.dataSources = r'.dataSources ∧
      (∀ d f, r.foreignKey d f = r'.foreignKey d f) ∧
      (∀ d f, r.importFrom d f = r'.importFrom d f) ∧
      (∀ d, r.foreignKeysOf d = r'.foreignKeysOf d) ∧
      (∀ d, r.importsOf d = r'.importsOf d) ∧
      (∀ d out, (CommandLine.relations r d).printed out s' =
        (CommandLine.relations r' d).printed out t') ∧
      ∀ e ∈ (ofLayers layers).dataSources, ∀ operation operationId out,
        (CommandLine.templating r e.id operation operationId).printed out s' =
          (CommandLine.templating r' e.id operation operationId).printed out t' := by
  have hsame := apart.definition?_withoutServerObjects
  refine ⟨fun s => ?_, fun s r s' t r' t' h h' => ?_⟩
  · simp only [exists_toRegistry_iff, exists_resolve_iff, hsame,
      serverObjects_withoutServerObjects, List.not_mem_nil, false_implies, implies_true, true_and]
    exact and_comm
  · have hk := knowsSame_of_toRegistry hsame.symm h h'
    refine ⟨hk.dataSources, fun d f => ?_, fun d f => ?_, fun d => ?_, fun d => ?_,
      fun d out => CommandLine.printed_relations_eq hk d out s' t',
      fun e he operation operationId out => ?_⟩
    · rw [hk.foreignKey]
    · rw [hk.importFrom]
    · rw [hk.foreignKeysOf]
    · rw [hk.importsOf]
    · obtain ⟨d, hd⟩ := apart.exists_definition? he
      rw [← dataSource?_of_toRegistry h] at hd
      exact CommandLine.printed_templating_eq hk hd operation operationId out s' t'

/-- Patients that the application answers for, visits to them in a later layer, and a handler. -/
def practice : List Catalog :=
  [⟨[⟨⟨"patients", [.new "id", .new "name"], []⟩, some ⟨.new, "Health", "ping"⟩⟩],
      [⟨"status", ⟨.new, "Health", "ping"⟩⟩]⟩,
    ⟨[⟨⟨"visits", [⟨"patient", some "patients.id", none⟩], []⟩, none⟩], []⟩]

/-- Without server objects the handler is missing, but visits lead to patients all the same. -/
theorem practice_keeps_metadata :
    (ofLayers practice).IsApart ∧ ∃ r s r' s',
      ((ofLayers practice).toRegistry clinic).run.run () = (.ok r, s) ∧
      ((ofLayers practice).withoutServerObjects.toRegistry clinic).run.run () = (.ok r', s') ∧
      r.contains "status" = true ∧ r'.contains "status" = false ∧
      r.foreignKey "visits" "patient" = .ok ⟨"visits", "patient", "patients", "id"⟩ ∧
      r'.foreignKey "visits" "patient" = .ok ⟨"visits", "patient", "patients", "id"⟩ := by
  have apart : (ofLayers practice).IsApart := by
    unfold IsApart
    decide
  obtain ⟨hiff, hsame⟩ := skipping_keeps_metadata practice clinic apart
  obtain ⟨r, s, h, hstatus, hkey⟩ : ∃ r s,
      ((ofLayers practice).toRegistry clinic).run.run () = (.ok r, s) ∧
        r.contains "status" = true ∧
        r.foreignKey "visits" "patient" = .ok ⟨"visits", "patient", "patients", "id"⟩ :=
    ⟨_, _, rfl, rfl, rfl⟩
  obtain ⟨⟨r', s', h'⟩, -⟩ := (hiff ()).1 ⟨r, s, h⟩
  refine ⟨apart, r, s, r', s', h, h', hstatus, ?_, hkey, ?_⟩
  · cases h'
    rfl
  · rw [← (hsame () r s () r' s' h h').2.1, hkey]

end Catalog

end Switchboard
