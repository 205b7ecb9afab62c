import Switchboard.Proofs.Catalog.Building

/-!
# Layers of catalogs

A later layer may declare an id again, in the same section or in the other one. Layers are merged
section by section, and in the merged catalog a standalone handler counts before a data source. So
the last layer that declares an id decides what is registered under it, whether the id stays in its
section or goes from the data sources to the handlers, except in one case: an id that a layer made a
handler keeps the handler when a later layer makes it a data source.

* `declared?_ofLayers`: the declaration of an id that counts in merged layers.
* `lastDeclared?`: the one of the last layer that declares the id.
* `IsMasked`: the case in which a handler of an earlier layer counts.
* `lookup_ofLayers`: what is found in the registry of merged layers.
* `annex_lookup_masked`: an earlier handler in the place of a later data source.
-/

namespace Switchboard

namespace Catalog

variable {σ : Type}

/-- The last standalone handler of any layer with the id, or else the last data source. -/
theorem declared?_ofLayers (layers : List Catalog) (id : String) :
    (ofLayers layers).declared? id =
      ((lastBy (·.id) id (layers.flatMap (·.handlers))).map .handler).or
        ((lastBy (·.id) id (layers.flatMap (·.dataSources))).map .dataSource) := by
  rw [declared?, lastBy_handlers_ofLayers, lastBy_dataSources_ofLayers]

/-- What the last layer that declares an id declares it to be. -/
def lastDeclared? (layers : List Catalog) (id : String) : Option Declaration :=
  layers.reverse.findSome? (·.declared? id)

/-- The last layer that declares an id makes it a data source, and some layer makes it a handler,
which masks the data source. -/
def IsMasked (layers : List Catalog) (id : String) : Prop :=
  (∃ e, lastDeclared? layers id = some (.dataSource e)) ∧
    ∃ c ∈ layers, ∃ e ∈ c.handlers, e.id = id

theorem lastDeclared?_cons (c : Catalog) (layers : List Catalog) (id : String) :
    lastDeclared? (c :: layers) id = (lastDeclared? layers id).or (c.declared? id) := by
  rw [lastDeclared?, List.reverse_cons, List.findSome?_append]
  simp [lastDeclared?]

@[simp] theorem lastDeclared?_eq_none_iff {layers : List Catalog} {id : String} :
    lastDeclared? layers id = none ↔ ∀ c ∈ layers, c.declared? id = none := by
  simp [lastDeclared?, List.findSome?_eq_none_iff]

theorem lastBy_flatMap_cons {α : Type} {key : α → String} (f : Catalog → List α) (c : Catalog)
    (layers : List Catalog) (id : String) :
    lastBy key id ((c :: layers).flatMap f) =
      (lastBy key id (layers.flatMap f)).or (lastBy key id (f c)) := by
  rw [List.flatMap_cons, lastBy_append]

/-- Where no layer makes the id a handler, its last data source is what counts. -/
theorem lastDeclared?_of_no_handler {layers : List Catalog} {id : String}
    (h : lastBy (·.id) id (layers.flatMap (·.handlers)) = none) :
    lastDeclared? layers id =
      (lastBy (·.id) id (layers.flatMap (·.dataSources))).map .dataSource := by
  induction layers with
  | nil => rfl
  | cons c layers ih =>
    rw [lastBy_flatMap_cons, Option.or_eq_none_iff] at h
    rw [lastDeclared?_cons, lastBy_flatMap_cons, declared?, h.2, ih h.1, Option.map_none,
      Option.none_or, Option.map_or]

theorem no_handler_of_lastDeclared? {layers : List Catalog} {id : String}
    (h : lastDeclared? layers id = none) :
    lastBy (·.id) id (layers.flatMap (·.handlers)) = none := by
  rw [lastBy_eq_none_iff]
  intro e he
  obtain ⟨c, hc, he⟩ := List.mem_flatMap.1 he
  have hd := lastDeclared?_eq_none_iff.1 h c hc
  rw [declared?, Option.or_eq_none_iff, Option.map_eq_none_iff] at hd
  exact lastBy_eq_none_iff.1 hd.1 e he

/-- Where the last layer that declares the id makes it a handler, no later handler has the id. -/
theorem lastBy_handlers_of_lastDeclared? {layers : List Catalog} {id : String} {e : HandlerEntry}
    (h : lastDeclared? layers id = some (.handler e)) :
    lastBy (·.id) id (layers.flatMap (·.handlers)) = some e := by
  induction layers with
  | nil => cases h
  | cons c layers ih =>
    rw [lastDeclared?_cons] at h
    rw [lastBy_flatMap_cons]
    cases hl : lastDeclared? layers id with
    | some d =>
      rw [hl, Option.some_or] at h
      rw [ih (hl.trans h), Option.some_or]
    | none =>
      rw [hl, Option.none_or, declared?, Option.or_eq_some_iff] at h
      rw [no_handler_of_lastDeclared? hl, Option.none_or]
      rcases h with h | ⟨-, h⟩
      · obtain ⟨x, hx, heq⟩ := Option.map_eq_some_iff.1 h
        cases heq
        exact hx
      · obtain ⟨x, -, heq⟩ := Option.map_eq_some_iff.1 h
        cases heq

theorem declared?_ofLayers_of_not_masked {layers : List Catalog} {id : String}
    (h : ¬ IsMasked layers id) : (ofLayers layers).declared? id = lastDeclared? layers id := by
  rw [declared?_ofLayers]
  cases hh : lastBy (·.id) id (layers.flatMap (·.handlers)) with
  | none => rw [Option.map_none, Option.none_or, lastDeclared?_of_no_handler hh]
  | some e =>
    rw [Option.map_some, Option.some_or]
    cases hl : lastDeclared? layers id with
    | none =>
      rw [no_handler_of_lastDeclared? hl] at hh
      cases hh
    | some d =>
      cases d with
      | handler x =>
        rw [lastBy_handlers_of_lastDeclared? hl] at hh
        cases hh
        rfl
      | dataSource x =>
        -- Only this is the case of a masked data source.
        obtain ⟨hid, before, after, heq, -⟩ := lastBy_eq_some_iff.1 hh
        obtain ⟨c, hc, he⟩ := List.mem_flatMap.1 (heq ▸ List.mem_append_cons_self)
        exact absurd ⟨⟨x, hl⟩, c, hc, e, he, hid⟩ h

theorem declared?_ofLayers_of_masked {layers : List Catalog} {id : String}
    (h : IsMasked layers id) : ∃ e, (ofLayers layers).declared? id = some (.handler e) ∧
      lastBy (·.id) id (layers.flatMap (·.handlers)) = some e := by
  obtain ⟨-, c, hc, e, he, hid⟩ := h
  rw [declared?_ofLayers]
  cases hh : lastBy (·.id) id (layers.flatMap (·.handlers)) with
  | none => exact absurd hid (lastBy_eq_none_iff.1 hh e (List.mem_flatMap.2 ⟨c, hc, he⟩))
  | some x => exact ⟨x, rfl, rfl⟩

/-- In the registry of merged layers, every id that some layer declares is found. Its handler is
made of what the last layer that declares the id declares it to be; only where this is masked it is
made of the last handler that any layer makes of the id. -/
theorem lookup_ofLayers {layers : List Catalog} {dir : Directory σ} {s s' : σ} {r : Registry σ Id}
    (built : ((ofLayers layers).toRegistry dir).run.run s = (.ok r, s')) {id : String}
    (declared : ∃ c ∈ layers, ∃ d ∈ c.declarations, d.id = id) :
    ∃ d h, r.lookup id = .ok h ∧ (ofLayers layers).Makes dir s d h ∧
      (¬ IsMasked layers id → lastDeclared? layers id = some d) ∧
      (IsMasked layers id → ∃ e, d = .handler e ∧
        lastBy (·.id) id (layers.flatMap (·.handlers)) = some e) := by
  by_cases hm : IsMasked layers id
  · obtain ⟨e, hd, he⟩ := declared?_ofLayers_of_masked hm
    obtain ⟨h, hl, hmake⟩ := lookup_of_toRegistry built hd
    exact ⟨.handler e, h, hl, hmake, fun hn => absurd hm hn, fun _ => ⟨e, rfl, he⟩⟩
  · cases hl : lastDeclared? layers id with
    | none =>
      obtain ⟨c, hc, d, hd, hid⟩ := declared
      have hn := lastDeclared?_eq_none_iff.1 hl c hc
      rw [declared?_eq_lastBy, lastBy_eq_none_iff] at hn
      exact absurd hid (hn d hd)
    | some d =>
      obtain ⟨h, hlookup, hmake⟩ :=
        lookup_of_toRegistry built ((declared?_ofLayers_of_not_masked hm).trans hl)
      exact ⟨d, h, hlookup, hmake, fun _ => rfl, fun hn => absurd hn hm⟩

/-- A directory with a type of which a method answers requests. -/
def clinic : Directory Unit where
  types := TypeRegister.empty.insert
    ⟨"Health", "Health", none, [⟨"ping", .static fun _ => return .empty⟩]⟩
  container := none

/-- Health checks in place of a data source, and a data source in place of its server object. -/
def renovation : List Catalog :=
  [⟨[⟨.new "beds", none⟩, ⟨.new "staff", some ⟨.new, "Health", "ping"⟩⟩], []⟩,
    ⟨[⟨.new "staff", none⟩], [⟨"beds", ⟨.new, "Health", "ping"⟩⟩]⟩]

theorem renovation_lookup :
    ∃ r s', ((ofLayers renovation).toRegistry clinic).run.run () = (.ok r, s') ∧
      ∃ h, r.lookup "beds" = .ok h ∧ (ofLayers renovation).Makes clinic ()
        (.handler ⟨"beds", ⟨.new, "Health", "ping"⟩⟩) h := by
  obtain ⟨r, s', built⟩ : ∃ r s',
      ((ofLayers renovation).toRegistry clinic).run.run () = (.ok r, s') := ⟨_, _, rfl⟩
  have last : lastDeclared? renovation "beds" =
      some (.handler ⟨"beds", ⟨.new, "Health", "ping"⟩⟩) := by decide
  have unmasked : ¬ IsMasked renovation "beds" := by
    rintro ⟨⟨e, he⟩, -⟩
    rw [last] at he
    cases he
  have declared : ∃ c ∈ renovation, ∃ d ∈ c.declarations, d.id = "beds" := by
    simp [renovation, declarations, Declaration.id]
  obtain ⟨d, h, hl, hmake, hd, -⟩ := lookup_ofLayers built declared
  rw [last] at hd
  cases hd unmasked
  exact ⟨r, s', built, h, hl, hmake⟩

/-- Beds with a health check alone, which are made a data source afterwards. -/
def annex : List Catalog :=
  [⟨[], [⟨"beds", ⟨.new, "Health", "ping"⟩⟩]⟩, ⟨[⟨.new "beds", none⟩], []⟩]

/-- The last layer makes the beds a data source, but what is found is not made of that. -/
theorem annex_lookup_masked :
    ∃ r s', ((ofLayers annex).toRegistry clinic).run.run () = (.ok r, s') ∧
      lastDeclared? annex "beds" = some (.dataSource ⟨.new "beds", none⟩) ∧
      ∀ h, r.lookup "beds" = .ok h →
        ¬ (ofLayers annex).Makes clinic () (.dataSource ⟨.new "beds", none⟩) h := by
  refine ⟨_, _, rfl, by decide, fun h hl ⟨_, _, _, _, _, _, _, _, hh⟩ => ?_⟩
  have hbears := (Declaration.id_dataSource_of_toHandler hh).2
  cases hl
  cases hbears

end Catalog

end Switchboard
