import Mathlib.Data.List.Chain
import Switchboard.Proofs.Registry.History
import Switchboard.Proofs.Relations.Derived

/-!
# What relations lead to

What a relation leads to is looked at when the relation is derived, and not when it is replaced
later. Where no data source loses a field, neither by its replacement nor by a handler that bears
none, all relations go on leading to fields that are there, also those that were derived long ago.

* `KeepsFields`: a later registry has all fields that an earlier one had.
* `keepsFields_of_replaced`: what has to be kept for that.
* `Supports`: what the relations of an entry lead to is there.
* `supports_of_hasDerived`, `Supports.of_keepsFields`: relations that are derived now, and those of
  before.
* `supports_extend`: what one extension keeps.
* `isIntact_of_run`: every registry of a run in which no data source loses a field.
-/

namespace Switchboard

namespace Registry

variable {σ : Type}

/-- A handler is registered under the id, and bears a data source with the field. -/
def HasField (r : Registry σ Id) (id name : String) : Prop :=
  ∃ d, r.dataSource? id = some d ∧ (d.field? name).isSome = true

/-- Wherever a data source is in the first registry, there is one in the second, and it has all of
its fields. -/
def KeepsFields (r r' : Registry σ Id) : Prop :=
  ∀ id d, r.dataSource? id = some d →
    ∃ d', r'.dataSource? id = some d' ∧ d.fields.map (·.name) ⊆ d'.fields.map (·.name)

theorem KeepsFields.hasField {r r' : Registry σ Id} (keeps : r.KeepsFields r') {id name : String}
    (h : r.HasField id name) : r'.HasField id name := by
  obtain ⟨d, hd, hf⟩ := h
  obtain ⟨d', hd', hsub⟩ := keeps id d hd
  exact ⟨d', hd', DataSource.isSome_field?_iff.2 (hsub (DataSource.isSome_field?_iff.1 hf))⟩

/-- An extension keeps the fields of all data sources if it keeps those of the data sources that
give way. -/
theorem keepsFields_of_replaced {r r' : Registry σ Id} {batch : List (Handler σ)}
    (h : (r.extend batch).run = .ok r')
    (replaced : ∀ g ∈ batch, ∀ d, r.dataSource? g.id = some d →
      ∃ d', r'.dataSource? g.id = some d' ∧ d.fields.map (·.name) ⊆ d'.fields.map (·.name)) :
    r.KeepsFields r' := by
  intro id d hd
  by_cases hm : ∃ g ∈ batch, g.id = id
  · obtain ⟨g, hg, rfl⟩ := hm
    exact replaced g hg d hd
  · refine ⟨d, ?_, List.Subset.refl _⟩
    rw [dataSource?, get?_extend_of_not_exists h hm]
    exact hd

/-- Every relation leads to a field of a data source that is registered. -/
structure IsIntact (r : Registry σ Id) : Prop where
  foreignKeys : ∀ id field key, r.foreignKey id field = .ok key →
    r.HasField key.targetDataSource key.targetField
  imports : ∀ id field i, r.importFrom id field = .ok i →
    r.HasField i.relatedDataSource i.displayField

/-! ## Entries -/

/-- Every relation of an entry leads to a field of a data source that is registered. -/
structure Supports (r : Registry σ Id) (e : Entry) : Prop where
  foreignKeys : ∀ keys, e.1 = some keys → ∀ (field : String) key, keys[field]? = some key →
    r.HasField key.targetDataSource key.targetField
  imports : ∀ imports, e.2 = some imports → ∀ (field : String) i, imports[field]? = some i →
    r.HasField i.relatedDataSource i.displayField

theorem isIntact_of_supports {r : Registry σ Id} (h : ∀ id, r.Supports (r.entry id)) :
    r.IsIntact where
  foreignKeys id field key hk := by
    obtain ⟨keys, hid, hf⟩ := relation_eq_ok_iff.1 hk
    exact (h id).foreignKeys keys hid field key hf
  imports id field i hi := by
    obtain ⟨imports, hid, hf⟩ := relation_eq_ok_iff.1 hi
    exact (h id).imports imports hid field i hf

theorem supports_none (r : Registry σ Id) : r.Supports (none, none) where
  foreignKeys _ h := by cases h
  imports _ h := by cases h

theorem Supports.of_keepsFields {r r' : Registry σ Id} {e : Entry} (h : r.Supports e)
    (keeps : r.KeepsFields r') : r'.Supports e where
  foreignKeys keys hk field key hf := keeps.hasField (h.foreignKeys keys hk field key hf)
  imports imports hi field i hf := keeps.hasField (h.imports imports hi field i hf)

/-- What a registry derives of its own leads to what it has. -/
theorem supports_of_hasDerived {r : Registry σ Id} (hw : r.IsWellPlaced)
    (standard : r.rules = .standard) {id : String} {e : Entry} (h : r.HasDerived id e) :
    r.Supports e := by
  unfold HasDerived at h
  cases hd : r.dataSource? id with
  | none =>
    rw [hd] at h
    rw [show e = (none, none) from h]
    exact r.supports_none
  | some d =>
    rw [hd] at h
    obtain ⟨derived, hdr, rfl⟩ := h
    rw [derive, standard] at hdr
    constructor
    · rintro keys ⟨⟩ field key hk
      exact (Relations.foreignKey_of_derive hw hdr hk).2.2
    · rintro imports ⟨⟩ field i hi
      exact (Relations.importFrom_of_derive hw hdr hi).2.2.2

/-! ## Runs -/

/-- An extension keeps relations leading to fields that are there, if no data source loses one: of
the ids of the batch relations are derived anew, of all others the fields stay that they lead to. -/
theorem supports_extend {batches : List (List (Handler σ))} {r r' : Registry σ Id}
    (ht : Tells .standard batches r) {batch : List (Handler σ)}
    (placed : ∀ h ∈ batch, h.IsWellPlaced) (h : (r.extend batch).run = .ok r')
    (keeps : r.KeepsFields r') (hs : ∀ id, r.Supports (r.entry id)) (id : String) :
    r'.Supports (r'.entry id) := by
  obtain ⟨hw, -, he⟩ := extend_wellPlaced ht.wellPlaced ht.tidy placed h
  have hid := he id
  split at hid
  · exact supports_of_hasDerived hw ((extend_eq_ok h).2.1.trans ht.rules_eq) hid
  · rw [hid]
    exact (hs id).of_keepsFields keeps

/-- A registry comes after another one: it extends it by well-placed handlers, and no data source
loses a field. -/
def Precedes (r r' : Registry σ Id) : Prop :=
  (∃ batch, (∀ h ∈ batch, h.IsWellPlaced) ∧ (r.extend batch).run = .ok r') ∧ r.KeepsFields r'

/-- In a run from the empty registry in which no data source loses a field, every relation of every
registry leads to a field of a data source that is registered, whenever it was derived. -/
theorem isIntact_of_run {run : List (Registry σ Id)}
    (h : (empty .standard :: run).IsChain Precedes) :
    ∀ r ∈ empty .standard :: run, r.IsIntact := by
  have all := h.induction
    (fun r => (∃ batches, Tells .standard batches r) ∧ ∀ id, r.Supports (r.entry id)) _
    (fun r r' step hr => ?_) (fun _ => ⟨⟨[], tells_empty .standard⟩, fun id => ?_⟩)
  · exact fun r hr => isIntact_of_supports (all r hr).2
  · obtain ⟨⟨batch, placed, he⟩, keeps⟩ := step
    obtain ⟨⟨batches, ht⟩, hs⟩ := hr
    exact ⟨⟨_, ht.extend placed he⟩, supports_extend ht placed he keeps hs⟩
  · have he : (empty .standard : Registry σ Id).entry id = (none, none) := by simp [empty, entry]
    exact he ▸ supports_none _

/-- Orders and customers; then customers with one more field; then a handler of something else. -/
def branch : List (List (Handler Unit)) :=
  [shop[0], [.ofDataSource ⟨"customers", [.new "mail", .new "name", .new "id"], []⟩ none],
    [⟨"audit", none, fun _ => return .empty⟩]]

theorem branch_isIntact_of_run :
    ∃ r r' r'' : Registry Unit Id, (r'.extend branch[2]).run = .ok r'' ∧
      (empty .standard :: [r, r', r'']).IsChain Precedes ∧
      r''.importFrom "orders" "name" =
        .ok ⟨"orders", "name", "customer", "customers", "name", none⟩ ∧
      r''.HasField "customers" "name" := by
  obtain ⟨r, r', r'', h, h', h'', hcustomers, hcustomers', haudit, hi⟩ :
      ∃ r r' r'' : Registry Unit Id,
        ((empty .standard : Registry Unit Id).extend branch[0]).run = .ok r ∧
        (r.extend branch[1]).run = .ok r' ∧ (r'.extend branch[2]).run = .ok r'' ∧
        r.dataSource? "customers" = some ⟨"customers", [.new "id", .new "name"], []⟩ ∧
        r'.dataSource? "customers" =
          some ⟨"customers", [.new "mail", .new "name", .new "id"], []⟩ ∧
        r'.dataSource? "audit" = none ∧
        r''.importFrom "orders" "name" =
          .ok ⟨"orders", "name", "customer", "customers", "name", none⟩ :=
    ⟨_, _, _, rfl, rfl, rfl, rfl, rfl, rfl, rfl⟩
  have run : (empty .standard :: [r, r', r'']).IsChain Precedes := by
    refine .cons_cons ⟨⟨_, ?_, h⟩, keepsFields_of_replaced h ?_⟩
      (.cons_cons ⟨⟨_, ?_, h'⟩, keepsFields_of_replaced h' ?_⟩
        (.cons_cons ⟨⟨_, ?_, h''⟩, keepsFields_of_replaced h'' ?_⟩ (.singleton r'')))
    · simp [branch, shop, Handler.IsWellPlaced, Handler.ofDataSource]
    · intro g _ d hd
      simp [empty, dataSource?, get?] at hd
    · simp [branch, Handler.IsWellPlaced, Handler.ofDataSource]
    · simp [branch, Handler.ofDataSource, hcustomers, hcustomers', Field.new]
    · simp [branch, Handler.IsWellPlaced]
    · simp [branch, haudit]
  exact ⟨r, r', r'', h'', run, hi, (isIntact_of_run run r'' (by simp)).imports _ _ _ hi⟩

end Registry

end Switchboard
