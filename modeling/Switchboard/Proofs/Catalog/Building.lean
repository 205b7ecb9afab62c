import Switchboard.Catalog.Build
import Switchboard.Proofs.Attempts
import Switchboard.Proofs.Catalog.Overlay
import Switchboard.Proofs.Registry.Extension

/-!
# What a catalog builds

The declarations of a catalog are made into handlers one after the other, and what is made of one
may hang on the state that those before it leave. The registry then has, under every id, the handler
of the last declaration with the id. As the data sources come first, that is the last standalone
handler with the id, or else the last data source.

* `mapM_append_cons_eq_ok`: a row of attempts that succeeds, cut at one of them.
* `exists_mapM_iff`: a row of attempts each of which succeeds in all states or in none.
* `Declaration`: what a catalog says of an id, and the handler made of it.
* `Catalog.declared?`: the declaration of an id that counts in a catalog.
* `Catalog.Makes`: a handler as it is made of a declaration while a catalog is built.
* `Catalog.lookup_of_toRegistry`: what is found in the registry of a catalog.
-/

namespace Switchboard

variable {σ : Type}

/-! ## Rows of attempts -/

/-- A row of attempts that succeeds, cut at one of them. -/
theorem mapM_append_cons_eq_ok {ε α β : Type} {f : α → Attempt σ ε β} {before after : List α}
    {x : α} {ys : List β} {s s' : σ}
    (h : ((before ++ x :: after).mapM f).run.run s = (.ok ys, s')) :
    ∃ ys₁ y ys₂ s₁ s₂, ys = ys₁ ++ y :: ys₂ ∧ (before.mapM f).run.run s = (.ok ys₁, s₁) ∧
      (f x).run.run s₁ = (.ok y, s₂) ∧ (after.mapM f).run.run s₂ = (.ok ys₂, s') := by
  rw [List.mapM_append] at h
  obtain ⟨ys₁, s₁, h₁, h⟩ := attempt_bind_eq_ok h
  rw [List.mapM_cons] at h
  obtain ⟨zs, s₃, hc, h⟩ := attempt_bind_eq_ok h
  obtain ⟨y, s₂, hy, hc⟩ := attempt_bind_eq_ok hc
  obtain ⟨ys₂, s₄, h₂, hc⟩ := attempt_bind_eq_ok hc
  obtain ⟨rfl, rfl⟩ := attempt_pure_eq_ok hc
  obtain ⟨rfl, rfl⟩ := attempt_pure_eq_ok h
  exact ⟨ys₁, y, ys₂, s₁, s₂, rfl, h₁, hy, h₂⟩

/-- What every attempt keeps of its element, a row of them keeps of all. -/
theorem map_of_mapM_eq_ok {ε α β γ : Type} {f : α → Attempt σ ε β} {g : α → γ} {g' : β → γ}
    (hf : ∀ x s y s', (f x).run.run s = (.ok y, s') → g' y = g x) {xs : List α} {ys : List β}
    {s s' : σ} (h : (xs.mapM f).run.run s = (.ok ys, s')) : ys.map g' = xs.map g := by
  induction xs generalizing s s' ys with
  | nil =>
    rw [List.mapM_nil] at h
    obtain ⟨rfl, -⟩ := attempt_pure_eq_ok h
    rfl
  | cons x xs ih =>
    rw [List.mapM_cons] at h
    obtain ⟨y, s₁, hy, h⟩ := attempt_bind_eq_ok h
    obtain ⟨zs, s₂, hz, h⟩ := attempt_bind_eq_ok h
    obtain ⟨rfl, -⟩ := attempt_pure_eq_ok h
    rw [List.map_cons, List.map_cons, hf x s y s₁ hy, ih hz]

/-- A row of attempts, each of which succeeds in all states or in none. -/
theorem exists_mapM_iff {ε α β : Type} {f : α → Attempt σ ε β} {P : α → Prop} {xs : List α}
    (h : ∀ x s, (∃ y s', (f x).run.run s = (.ok y, s')) ↔ P x) (s : σ) :
    (∃ ys s', (xs.mapM f).run.run s = (.ok ys, s')) ↔ ∀ x ∈ xs, P x := by
  induction xs generalizing s with
  | nil => exact ⟨fun _ _ hx => absurd hx List.not_mem_nil, fun _ => ⟨[], s, rfl⟩⟩
  | cons x xs ih =>
    rw [List.forall_mem_cons, ← h x s, List.mapM_cons]
    constructor
    · rintro ⟨ys, s', hys⟩
      obtain ⟨y, s₁, hy, hys⟩ := attempt_bind_eq_ok hys
      obtain ⟨zs, s₂, hzs, -⟩ := attempt_bind_eq_ok hys
      exact ⟨⟨y, s₁, hy⟩, (ih s₁).1 ⟨zs, s₂, hzs⟩⟩
    · rintro ⟨⟨y, s₁, hy⟩, hall⟩
      obtain ⟨zs, s₂, hzs⟩ := (ih s₁).2 hall
      exact ⟨y :: zs, s₂, by rw [attempt_bind_of_eq_ok hy, attempt_bind_of_eq_ok hzs]; rfl⟩

/-! ## Declarations -/

/-- What a catalog says of an id: it is a data source, or a handler alone. -/
inductive Declaration where
  | dataSource (entry : DataSourceEntry)
  | handler (entry : HandlerEntry)
deriving DecidableEq, Repr

namespace Declaration

/-- The id that is declared. -/
def id : Declaration → String
  | dataSource e => e.id
  | handler e => e.id

/-- The handler of a declaration. -/
def toHandler (dir : Directory σ) : Declaration → Attempt σ BuildError (Handler σ)
  | dataSource e => e.toHandler dir
  | handler e => e.toHandler dir

/-- The handler that an entry is resolved into has its id, and reaches its code by what is prepared
on the route of its server object. -/
theorem resolveEntry_bind_eq_ok {dir : Directory σ} {id : String} {o : ServerObject}
    {f : DirectHandler σ → Handler σ} {s s' : σ} {h : Handler σ}
    (hr : (dir.resolveEntry id o >>= fun g => pure (f g)).run.run s = (.ok h, s')) :
    ∃ route, dir.locate o = .ok route ∧ h = f ⟨id, o, (route.prepare.run s).1, none⟩ := by
  obtain ⟨g, s₁, hg, hr⟩ := attempt_bind_eq_ok hr
  obtain ⟨rfl, -⟩ := attempt_pure_eq_ok hr
  obtain ⟨route, hl, rfl⟩ := Directory.resolve_eq_ok (attempt_adapt_eq_ok hg)
  exact ⟨route, hl, rfl⟩

/-- A handler is registered under the id that is declared, and bears what is declared. -/
theorem id_dataSource_of_toHandler {dir : Directory σ} {d : Declaration} {s s' : σ} {h : Handler σ}
    (hd : (d.toHandler dir).run.run s = (.ok h, s')) :
    h.id = d.id ∧ h.dataSource = match d with
      | dataSource e => some e.definition
      | handler _ => none := by
  cases d with
  | dataSource e =>
    simp only [toHandler, DataSourceEntry.toHandler] at hd
    cases ho : e.serverObject with
    | none =>
      rw [ho] at hd
      obtain ⟨rfl, -⟩ := attempt_pure_eq_ok hd
      exact ⟨rfl, rfl⟩
    | some o =>
      rw [ho] at hd
      obtain ⟨route, -, rfl⟩ := resolveEntry_bind_eq_ok hd
      exact ⟨rfl, rfl⟩
  | handler e =>
    obtain ⟨route, -, rfl⟩ := resolveEntry_bind_eq_ok hd
    exact ⟨rfl, rfl⟩

end Declaration

namespace Catalog

/-- All declarations, in the order in which they are made into handlers. -/
def declarations (c : Catalog) : List Declaration :=
  c.dataSources.map .dataSource ++ c.handlers.map .handler

theorem toHandlers_eq_mapM (c : Catalog) (dir : Directory σ) :
    c.toHandlers dir = c.declarations.mapM (Declaration.toHandler dir) := by
  rw [declarations, List.mapM_append, List.mapM_map, List.mapM_map]
  rfl

/-- The declaration of an id that counts: the last standalone handler with the id, or else the last
data source. -/
def declared? (c : Catalog) (id : String) : Option Declaration :=
  ((lastBy (·.id) id c.handlers).map .handler).or
    ((lastBy (·.id) id c.dataSources).map .dataSource)

theorem declared?_eq_lastBy (c : Catalog) (id : String) :
    c.declared? id = lastBy Declaration.id id c.declarations := by
  rw [declarations, lastBy_append, lastBy_map, lastBy_map]
  rfl

/-- A handler is made of a declaration while a catalog is built: of the last one with its id, in the
state that the declarations before it leave. -/
def Makes (c : Catalog) (dir : Directory σ) (s : σ) (d : Declaration) (h : Handler σ) : Prop :=
  ∃ before after hs s₁ s₂, c.declarations = before ++ d :: after ∧ (∀ e ∈ after, e.id ≠ d.id) ∧
    (before.mapM (Declaration.toHandler dir)).run.run s = (.ok hs, s₁) ∧
    (d.toHandler dir).run.run s₁ = (.ok h, s₂)

theorem toRegistry_of_toHandlers {c : Catalog} {dir : Directory σ} {s s' : σ}
    {batch : List (Handler σ)} (h : (c.toHandlers dir).run.run s = (.ok batch, s')) :
    (c.toRegistry dir).run.run s = ((Registry.ofHandlers batch).mapError .registry, s') := by
  rw [toRegistry, attempt_bind_of_eq_ok h]
  cases Registry.ofHandlers batch <;> rfl

theorem toRegistry_eq_ok {c : Catalog} {dir : Directory σ} {s s' : σ} {r : Registry σ Id}
    (h : (c.toRegistry dir).run.run s = (.ok r, s')) :
    ∃ batch, (c.toHandlers dir).run.run s = (.ok batch, s') ∧
      Registry.ofHandlers batch = .ok r := by
  obtain ⟨batch, s₁, hb, h⟩ := attempt_bind_eq_ok h
  cases hr : Registry.ofHandlers batch with
  | error e =>
    simp only [hr] at h
    cases h
  | ok registry =>
    simp only [hr] at h
    obtain ⟨rfl, rfl⟩ := attempt_pure_eq_ok h
    exact ⟨batch, hb, hr⟩

/-- In the registry of a catalog, the handler of the declaration that counts is found. -/
theorem lookup_of_toRegistry {c : Catalog} {dir : Directory σ} {s s' : σ} {r : Registry σ Id}
    (built : (c.toRegistry dir).run.run s = (.ok r, s')) {id : String} {d : Declaration}
    (hd : c.declared? id = some d) : ∃ h, r.lookup id = .ok h ∧ c.Makes dir s d h := by
  obtain ⟨batch, hb, hr⟩ := toRegistry_eq_ok built
  rw [declared?_eq_lastBy, lastBy_eq_some_iff] at hd
  obtain ⟨rfl, before, after, hds, ha⟩ := hd
  rw [toHandlers_eq_mapM, hds] at hb
  obtain ⟨hs₁, h, hs₂, s₁, s₂, rfl, hbefore, hh, hafter⟩ := mapM_append_cons_eq_ok hb
  have hids : hs₂.map (·.id) = after.map (·.id) :=
    map_of_mapM_eq_ok (fun _ _ _ _ he => (Declaration.id_dataSource_of_toHandler he).1) hafter
  have hl : lastUnder d.id (hs₁ ++ h :: hs₂) = some h := by
    refine lastBy_eq_some_iff.2
      ⟨(Declaration.id_dataSource_of_toHandler hh).1, hs₁, hs₂, rfl, fun g hg hid => ?_⟩
    have hm : g.id ∈ after.map (·.id) := hids ▸ List.mem_map_of_mem hg
    obtain ⟨e, he, heq⟩ := List.mem_map.1 hm
    exact ha e he (heq.trans hid)
  have hg : r.get? d.id = some h := by
    rw [Registry.get?_extend (r := Registry.empty .standard) hr, hl, Option.some_or]
  refine ⟨h, ?_, before, after, hs₁, s₁, s₂, hds, ha, hbefore, hh⟩
  simp only [Registry.lookup, hg]

end Catalog

end Switchboard
