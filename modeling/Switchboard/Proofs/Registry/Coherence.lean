import Switchboard.Proofs.Registry.History
import Switchboard.Proofs.Relations.Derived

/-!
# What is known of a data source

The relations of a data source are looked up one field at a time or all at once. Both kinds of
relations are kept apart and go through many extensions, but an entry always is what one derivation
made: relations stand under the fields they name, and an import leads where the foreign key leads
that it goes through.

* `values_eq_map_snd`, `mem_values_iff`: the values of a map in order of its keys.
* `IsCoherent`: how the two ways to look up relations of one kind fit together.
* `isCoherent_of_named`: they do wherever relations name what they stand under.
* `BuiltBy.entry_of_derive`: an entry is what was derived for the data source with its id.
* `BuiltBy.relations_coherent`: foreign keys and imports in every registry that well-placed handlers
  lead to.
-/

namespace Switchboard

section

variable {ρ : Type}

theorem values_eq_map_snd (t : ByField ρ) : t.values = t.toList.map Prod.snd := by
  -- Extensional maps have no lemmas about `values`, so this goes down to the trees they stand for.
  obtain ⟨⟨t⟩⟩ := t
  induction t using Quotient.ind with
  | _ t =>
    show t.inner.values = (Std.DTreeMap.Internal.Impl.Const.toList t.inner).map Prod.snd
    rw [Std.DTreeMap.Internal.Impl.values_eq_map_snd,
      Std.DTreeMap.Internal.Impl.Const.toList_eq_toListModel_map, List.map_map]
    rfl

@[simp]
theorem mem_values_iff {t : ByField ρ} {x : ρ} : x ∈ t.values ↔ ∃ k : String, t[k]? = some x := by
  rw [values_eq_map_snd, List.mem_map]
  constructor
  · rintro ⟨⟨k, x⟩, hm, rfl⟩
    exact ⟨k, Std.ExtTreeMap.mem_toList_iff_getElem?_eq_some.1 hm⟩
  · rintro ⟨k, hk⟩
    exact ⟨(k, x), Std.ExtTreeMap.mem_toList_iff_getElem?_eq_some.2 hk, rfl⟩

/-- Values that name their keys stand in order of the names. -/
theorem pairwise_values {t : ByField ρ} {name : ρ → String}
    (named : ∀ (k : String) x, t[k]? = some x → name x = k) :
    t.values.Pairwise (name · < name ·) := by
  rw [values_eq_map_snd, List.pairwise_map]
  refine (Std.ExtTreeMap.ordered_keys_toList (t := t)).imp_of_mem fun {a b} ha hb hlt => ?_
  rw [named _ _ (Std.ExtTreeMap.mem_toList_iff_getElem?_eq_some.1 ha),
    named _ _ (Std.ExtTreeMap.mem_toList_iff_getElem?_eq_some.1 hb)]
  exact compareOfLessAndEq_eq_lt.1 hlt

end

namespace Registry

variable {σ : Type}

/-! ## Two ways to look up -/

/-- How relations of a kind are found of a data source: `point` tells the relation of a field, `all`
tells them all. -/
structure IsCoherent {ρ : Type} (kind : RelationKind) (owner field : ρ → String) (d : String)
    (point : String → Except NoRelation ρ) (all : Except NoRelation (List ρ)) : Prop where
  /-- What stands under a field is a relation of that field, and of the data source. -/
  owned : ∀ f x, point f = .ok x → owner x = d ∧ field x = f
  /-- All at once are told in order of their fields, each field once. -/
  sorted : ∀ xs, all = .ok xs → xs.Pairwise (field · < field ·)
  /-- All at once are those that are told one by one. -/
  mem_iff : ∀ xs, all = .ok xs → ∀ x, x ∈ xs ↔ ∃ f, point f = .ok x
  /-- Either all are told, or the data source is not known. -/
  known : all = .error (.unknownDataSource d) ∨ ∃ xs, all = .ok xs
  /-- Both find the data source unknown, or none does. -/
  unknown_iff : ∀ f, point f = .error (.unknownDataSource d) ↔ all = .error (.unknownDataSource d)
  /-- Of a data source that is known, a field without a relation is told to have none. -/
  absent : ∀ xs, all = .ok xs → ∀ f, (∀ x ∈ xs, field x ≠ f) →
    point f = .error (.unknownRelation d f kind)

theorem relations_eq_ok {ρ : Type} {index : Std.ExtTreeMap String (ByField ρ)} {field : ρ → String}
    {d : String} {fields : ByField ρ} (hd : index[d]? = some fields)
    (named : ∀ (f : String) x, fields[f]? = some x → field x = f) :
    relations index field d = .ok fields.values := by
  have hs : fields.values.Pairwise fun a b => decide (field a ≤ field b) = true :=
    (pairwise_values named).imp fun hlt => decide_eq_true (Std.le_of_lt hlt)
  rw [relations, hd]
  exact congrArg Except.ok (List.mergeSort_of_pairwise hs)

/-- Where the relations of a data source name it and the fields they stand under, the two ways to
look them up fit together. -/
theorem isCoherent_of_named {ρ : Type} {index : Std.ExtTreeMap String (ByField ρ)}
    {kind : RelationKind} {owner field : ρ → String} {d : String}
    (named : ∀ fields, index[d]? = some fields → ∀ (f : String) x, fields[f]? = some x →
      owner x = d ∧ field x = f) :
    IsCoherent kind owner field d (relation index kind d) (relations index field d) := by
  cases hd : index[d]? with
  | none =>
    have hp : ∀ f, relation index kind d f = .error (.unknownDataSource d) := fun f => by
      rw [relation, hd]
    have ha : relations index field d = .error (.unknownDataSource d) := by rw [relations, hd]
    constructor <;> simp [hp, ha]
  | some fields =>
    have hn := named fields hd
    have ha := relations_eq_ok hd fun f x hx => (hn f x hx).2
    have hp : ∀ f x, relation index kind d f = .ok x ↔ fields[f]? = some x := fun f x => by
      simp [relation_eq_ok_iff, hd]
    constructor
    · exact fun f x hx => hn f x ((hp f x).1 hx)
    · rintro xs hxs
      cases ha.symm.trans hxs
      exact pairwise_values fun f x hx => (hn f x hx).2
    · rintro xs hxs x
      cases ha.symm.trans hxs
      simp only [mem_values_iff, hp]
    · exact .inr ⟨_, ha⟩
    · intro f
      simp [relation_eq_unknown_iff, hd, ha]
    · rintro xs hxs f hf
      cases ha.symm.trans hxs
      have hnone : fields[f]? = none := by
        cases hx : fields[f]? with
        | none => rfl
        | some x => exact absurd (hn f x hx).2 (hf x (mem_values_iff.2 ⟨f, hx⟩))
      rw [relation, hd]
      simp only [hnone]

/-! ## Entries -/

theorem targetsAfter_id {batches : List (List (Handler σ))}
    (placed : ∀ batch ∈ batches, ∀ h ∈ batch, h.IsWellPlaced) (id : String) (x : DataSource)
    (hx : targetsAfter batches id = some x) : x.id = id := by
  obtain ⟨h, hl, hd⟩ := Option.bind_eq_some_iff.1 hx
  obtain ⟨hid, before, after, hs, -⟩ := lastBy_eq_some_iff.1 hl
  have hm : h ∈ batches.flatten := hs ▸ List.mem_append_cons_self
  obtain ⟨batch, hb, hmb⟩ := List.mem_flatten.1 hm
  rw [placed batch hb h hmb x hd, hid]

/-- An entry of relations is what was derived, at some point of the history, for a data source with
its id, among data sources that are found under their own ids. -/
theorem BuiltBy.entry_of_derive {rules : RelationRules Id} {batches : List (List (Handler σ))}
    {r : Registry σ Id} (built : BuiltBy rules batches r)
    (placed : ∀ batch ∈ batches, ∀ h ∈ batch, h.IsWellPlaced) (id : String) :
    r.entry id = (none, none) ∨ ∃ d targets derived, d.id = id ∧
      (∀ k x, targets k = some x → x.id = k) ∧
      (Relations.derive rules d targets).run = .ok derived ∧ r.entry id = derived.entry := by
  have ht := built.tells placed
  cases hd : r.dataSource? id with
  | none => exact .inl (ht.tidy id hd)
  | some d =>
    obtain ⟨before, batch, after, derived, rfl, -, -, hdr, he⟩ := ht.settled id d hd
    refine .inr ⟨d, _, derived, ht.wellPlaced id d hd, targetsAfter_id fun b hb => ?_, hdr, he⟩
    refine placed b ?_
    rcases List.mem_append.1 hb with hb | hb
    · exact List.mem_append_left _ hb
    · exact List.mem_append_right _ (List.mem_singleton.1 hb ▸ List.mem_cons_self)

/-- In every registry that well-placed handlers lead to, foreign keys and imports of any data source
are found one by one and all at once alike, under the fields they name, and every import leads to
the data source that the foreign key leads to which it goes through. -/
theorem BuiltBy.relations_coherent {batches : List (List (Handler σ))} {r : Registry σ Id}
    (built : BuiltBy .standard batches r) (placed : ∀ batch ∈ batches, ∀ h ∈ batch, h.IsWellPlaced)
    (d : String) :
    IsCoherent .foreignKey ForeignKey.dataSource ForeignKey.field d (r.foreignKey d)
      (r.foreignKeysOf d) ∧
    IsCoherent .importFrom ImportFrom.dataSource ImportFrom.field d (r.importFrom d)
      (r.importsOf d) ∧
    ∀ f i, r.importFrom d f = .ok i →
      ∃ key, r.foreignKey d i.viaField = .ok key ∧ key.targetDataSource = i.relatedDataSource := by
  rcases built.entry_of_derive placed d with he | ⟨x, targets, derived, rfl, htargets, hd, he⟩
  · obtain ⟨hk, hi⟩ := Prod.mk.inj he
    refine ⟨isCoherent_of_named (by simp [hk]), isCoherent_of_named (by simp [hi]),
      fun f i h => ?_⟩
    obtain ⟨fields, h, -⟩ := relation_eq_ok_iff.1 h
    rw [hi] at h
    cases h
  · obtain ⟨hk, hi⟩ := Prod.mk.inj he
    have hkeys : ∀ (f : String) key, derived.foreignKeys[f]? = some key →
        key.dataSource = x.id ∧ key.field = f := fun f key hf =>
      have hkey := Relations.foreignKey_of_derive htargets hd hf
      ⟨hkey.1, hkey.2.1⟩
    have himports : ∀ (f : String) i, derived.imports[f]? = some i →
        i.dataSource = x.id ∧ i.field = f := fun f i hf =>
      have himport := Relations.importFrom_of_derive htargets hd hf
      ⟨himport.1, himport.2.1⟩
    refine ⟨isCoherent_of_named (by simpa [hk] using hkeys),
      isCoherent_of_named (by simpa [hi] using himports), fun f i h => ?_⟩
    obtain ⟨imports, himp, hf⟩ := relation_eq_ok_iff.1 h
    rw [hi] at himp
    cases himp
    obtain ⟨-, -, ⟨key, hvia, hkey⟩, -⟩ := Relations.importFrom_of_derive htargets hd hf
    exact ⟨key, relation_eq_ok_iff.2 ⟨_, hk, hvia⟩, hkey⟩

/-- In the end customers bear no data source, and of orders is still known what was derived while
they did. -/
theorem shop_relations_coherent :
    (∀ batch ∈ shop, ∀ h ∈ batch, h.IsWellPlaced) ∧ ∃ r imports key, BuiltBy .standard shop r ∧
      r.dataSource? "customers" = none ∧ r.importsOf "orders" = .ok imports ∧
      ⟨"orders", "name", "customer", "customers", "name", none⟩ ∈ imports ∧
      r.foreignKey "orders" "customer" = .ok key ∧ key.dataSource = "orders" ∧
      key.field = "customer" ∧ key.targetDataSource = "customers" := by
  have placed : ∀ batch ∈ shop, ∀ h ∈ batch, h.IsWellPlaced := by
    simp [shop, Handler.IsWellPlaced, Handler.ofDataSource, DataSource.new]
  obtain ⟨r, r', r'', h, h', h'', hc, hi⟩ : ∃ r r' r'' : Registry Unit Id,
      ((empty .standard : Registry Unit Id).extend shop[0]).run = .ok r ∧
        (r.extend shop[1]).run = .ok r' ∧ (r'.extend shop[2]).run = .ok r'' ∧
        r''.dataSource? "customers" = none ∧
        r''.importFrom "orders" "name" =
          .ok ⟨"orders", "name", "customer", "customers", "name", none⟩ :=
    ⟨_, _, _, rfl, rfl, rfl, rfl, rfl⟩
  have built : BuiltBy .standard shop r'' := .extend (.extend (.extend .empty h) h') h''
  obtain ⟨hkeys, himports, hvia⟩ := built.relations_coherent placed "orders"
  obtain ⟨key, hk, ht⟩ := hvia _ _ hi
  obtain ⟨hown, hfield⟩ := hkeys.owned _ _ hk
  rcases himports.known with hu | ⟨imports, hall⟩
  · rw [(himports.unknown_iff "name").2 hu] at hi
    cases hi
  · exact ⟨placed, r'', imports, key, built, hc, hall, (himports.mem_iff _ hall _).2 ⟨_, hi⟩, hk,
      hown, hfield, ht⟩

end Registry

end Switchboard
