import Switchboard.Proofs.Registry.History

/-!
# Who bears the relations that are known

A handler may stand under another id than its data source has, and several handlers may bear data
sources of one id. Handlers then have ids of one kind and relations of another: a handler that gives
way takes with it the relations under the id of its data source, whoever they were derived for. Even
so, relations never outlive what bears them. An extension that derives nothing for an id leaves its
entry alone only as long as the handler that it was derived for stays.

* `entry_foldl_put_eq_or`, `entry_foldl_put_of_replaced`: a batch forgets entries or leaves them as
  they are, and forgets that of every data source whose handler gives way.
* `Derives`, `DerivedLast`: when relations are derived, and when they were for the last time.
* `IsBorne`: an entry that is that of a handler which is still registered.
* `isBorne_extend`, `BuiltBy.isBorne`: what one extension keeps, and so every run of extensions.
* `BuiltBy.known_isBorne`: what is known of an id in any registry that extensions lead to.
-/

namespace Switchboard

namespace Registry

variable {σ : Type}

/-! ## Entries under a batch -/

theorem entry_put_eq_or (r : Registry σ Id) (h : Handler σ) (k : String) :
    (r.put h).entry k = (none, none) ∨ (r.put h).entry k = r.entry k := by
  rw [entry_put]
  split
  · exact .inl rfl
  · exact .inr rfl

theorem entry_foldl_put_eq_or (r : Registry σ Id) (hs : List (Handler σ)) (k : String) :
    (hs.foldl put r).entry k = (none, none) ∨ (hs.foldl put r).entry k = r.entry k := by
  induction hs generalizing r with
  | nil => exact .inr rfl
  | cons h hs ih =>
    rw [List.foldl_cons]
    rcases ih (r.put h) with hk | hk
    · exact .inl hk
    · rw [hk]
      exact entry_put_eq_or r h k

/-- A handler of the batch that stands where another data source with the id stood. -/
theorem entry_foldl_put_of_replaced {r : Registry σ Id} {hs : List (Handler σ)} {g : Handler σ}
    (hg : g ∈ hs) {d : DataSource} (hd : r.dataSource? g.id = some d) :
    (hs.foldl put r).entry d.id = (none, none) := by
  induction hs generalizing r with
  | nil => cases hg
  | cons h hs ih =>
    rw [List.foldl_cons]
    by_cases hid : h.id = g.id
    · -- The first handler with the id makes the old one give way; nothing brings the entry back.
      have hp : (r.put h).entry d.id = (none, none) := by
        rw [entry_put, hid, hd, Option.map_some, if_pos rfl]
      rcases entry_foldl_put_eq_or (r.put h) hs d.id with hk | hk
      · exact hk
      · exact hk.trans hp
    · have hm : g ∈ hs := (List.mem_cons.1 hg).resolve_left fun he => hid (congrArg _ he.symm)
      refine ih hm ?_
      rw [dataSource?_put, if_neg hid]
      exact hd

/-! ## What is derived when -/

/-- An extension by a batch that led to a registry derived the relations of an id: one of the ids of
the batch bears a data source with it. -/
def Derives (r : Registry σ Id) (batch : List (Handler σ)) (dataSource : String) : Prop :=
  ∃ h ∈ batch, ∃ d, r.dataSource? h.id = some d ∧ d.id = dataSource

/-- Batches lead to a registry, and on the way there `s` is the one whose extension was the last to
derive the relations of an id. -/
inductive DerivedLast (rules : RelationRules Id) (dataSource : String) :
    List (List (Handler σ)) → Registry σ Id → Registry σ Id → Prop where
  | now {batches : List (List (Handler σ))} {r s : Registry σ Id} {batch : List (Handler σ)} :
      BuiltBy rules batches r → (r.extend batch).run = .ok s → s.Derives batch dataSource →
      DerivedLast rules dataSource (batches ++ [batch]) s s
  | earlier {batches : List (List (Handler σ))} {r r' s : Registry σ Id}
      {batch : List (Handler σ)} :
      DerivedLast rules dataSource batches r s → (r.extend batch).run = .ok r' →
      ¬ r'.Derives batch dataSource → DerivedLast rules dataSource (batches ++ [batch]) r' s

theorem lastBorne_eq_some {r : Registry σ Id} {ids : List String} {k : String} {d : DataSource}
    (h : r.lastBorne ids k = some d) : ∃ id ∈ ids, r.dataSource? id = some d ∧ d.id = k := by
  obtain ⟨hdk, before, after, hs, -⟩ := lastBy_eq_some_iff.1 h
  have hm : d ∈ ids.filterMap r.dataSource? := hs ▸ List.mem_append_cons_self
  obtain ⟨id, hid, hd⟩ := List.mem_filterMap.1 hm
  exact ⟨id, hid, hd, hdk⟩

theorem lastBorne_eq_none {r : Registry σ Id} {ids : List String} {k : String}
    (h : r.lastBorne ids k = none) {id : String} (hid : id ∈ ids) {d : DataSource}
    (hd : r.dataSource? id = some d) : d.id ≠ k :=
  lastBy_eq_none_iff.1 h d (List.mem_filterMap.2 ⟨id, hid, hd⟩)

/-- An extension writes the entry of an id that it derives for the data source of some handler, and
leaves any other as putting in the batch left it. -/
theorem entry_extend {r r' : Registry σ Id} {batch : List (Handler σ)}
    (h : (r.extend batch).run = .ok r') (k : String) :
    (∃ g ∈ batch, ∃ d derived, r'.dataSource? g.id = some d ∧ d.id = k ∧
      (r'.derive d).run = .ok derived ∧ r'.entry k = derived.entry) ∨
    (¬ r'.Derives batch k ∧ r'.entry k = (batch.foldl put r).entry k) := by
  obtain ⟨hh, hrules, he⟩ := extend_eq_ok h
  have hd := dataSource?_congr hh
  have hk := he k
  cases hl : (batch.foldl put r).lastBorne (distinct (batch.map (·.id))) k with
  | some d =>
    rw [hl] at hk
    obtain ⟨derived, hr, hk⟩ := hk
    obtain ⟨id, hid, hs, hdk⟩ := lastBorne_eq_some hl
    obtain ⟨g, hg, rfl⟩ := List.mem_map.1 (mem_distinct.1 hid)
    rw [← derive_congr hh (hrules.trans (rules_foldl_put r batch).symm)] at hr
    exact .inl ⟨g, hg, d, derived, hd ▸ hs, hdk, hr, hk⟩
  | none =>
    rw [hl] at hk
    refine .inr ⟨?_, hk⟩
    rintro ⟨g, hg, d, hs, hdk⟩
    exact lastBorne_eq_none hl (mem_distinct.2 (List.mem_map_of_mem hg)) (hd ▸ hs) hdk

theorem exists_handler_of_dataSource? {r : Registry σ Id} {id : String} {d : DataSource}
    (h : r.dataSource? id = some d) : ∃ g, r.get? id = some g ∧ g.dataSource = some d :=
  Option.bind_eq_some_iff.1 h

/-! ## Entries and their bearers -/

/-- The entry of an id is that of a registered handler: it was derived for the data source that the
handler bears, against the handlers that there were when relations of the id were derived for the
last time; and the handler was one of those. -/
def IsBorne (rules : RelationRules Id) (batches : List (List (Handler σ))) (r : Registry σ Id)
    (dataSource : String) : Prop :=
  ∃ id h d s derived, r.get? id = some h ∧ h.dataSource = some d ∧ d.id = dataSource ∧
    DerivedLast rules dataSource batches r s ∧ s.get? id = some h ∧
    (Relations.derive rules d s.dataSource?).run = .ok derived ∧
    r.entry dataSource = derived.entry

theorem IsBorne.exists_entry_eq {rules : RelationRules Id} {batches : List (List (Handler σ))}
    {r : Registry σ Id} {k : String} (h : r.IsBorne rules batches k) :
    ∃ derived : Relations, r.entry k = derived.entry := by
  obtain ⟨-, -, -, -, derived, -, -, -, -, -, -, he⟩ := h
  exact ⟨derived, he⟩

theorem BuiltBy.rules_eq {rules : RelationRules Id} {batches : List (List (Handler σ))}
    {r : Registry σ Id} (h : BuiltBy rules batches r) : r.rules = rules := by
  induction h with
  | empty => rfl
  | extend _ he ih => exact (extend_eq_ok he).2.1.trans ih

theorem isBorne_extend {rules : RelationRules Id} {batches : List (List (Handler σ))}
    {r r' : Registry σ Id} {batch : List (Handler σ)} {k : String} (built : BuiltBy rules batches r)
    (h : (r.extend batch).run = .ok r')
    (hr : r.entry k = (none, none) ∨ r.IsBorne rules batches k) :
    r'.entry k = (none, none) ∨ r'.IsBorne rules (batches ++ [batch]) k := by
  rcases entry_extend h k with ⟨g, hg, d, derived, hs, hdk, hdr, hk⟩ | ⟨hn, hk⟩
  · obtain ⟨f, hf, hfd⟩ := exists_handler_of_dataSource? hs
    rw [derive, (built.extend h).rules_eq] at hdr
    exact .inr
      ⟨g.id, f, d, r', derived, hf, hfd, hdk, .now built h ⟨g, hg, d, hs, hdk⟩, hf, hdr, hk⟩
  · rcases entry_foldl_put_eq_or r batch k with hp | hp
    · exact .inl (hk.trans hp)
    rcases hr with hr | ⟨id, f, d, s, derived, hf, hfd, rfl, hs, hfs, hdr, he⟩
    · exact .inl (hk.trans (hp.trans hr))
    by_cases hm : ∃ g ∈ batch, g.id = id
    · -- The bearer gives way, and takes the entry with it.
      obtain ⟨g, hg, rfl⟩ := hm
      have hd : r.dataSource? g.id = some d := by rw [dataSource?, hf, Option.bind_some, hfd]
      exact .inl (hk.trans (entry_foldl_put_of_replaced hg hd))
    · have hf' : r'.get? id = some f := (get?_extend_of_not_exists h hm).trans hf
      exact .inr ⟨id, f, d, s, derived, hf', hfd, rfl, .earlier hs h hn, hfs, hdr,
        hk.trans (hp.trans he)⟩

theorem BuiltBy.isBorne {rules : RelationRules Id} {batches : List (List (Handler σ))}
    {r : Registry σ Id} (built : BuiltBy rules batches r) (k : String) :
    r.entry k = (none, none) ∨ r.IsBorne rules batches k := by
  induction built with
  | empty => exact .inl (by simp [Registry.empty, entry])
  | extend hr he ih => exact isBorne_extend hr he ih

/-- Whatever ids handlers and data sources have: foreign keys and imports are known of the same ids,
and of every id that they are known of, they are those of a registered handler, as they were derived
for the data source that it bears when relations of the id were derived for the last time. -/
theorem BuiltBy.known_isBorne {batches : List (List (Handler σ))} {r : Registry σ Id}
    (built : BuiltBy .standard batches r) (id : String) :
    (id ∈ r.foreignKeys ↔ id ∈ r.imports) ∧
      (id ∈ r.foreignKeys → r.IsBorne .standard batches id) := by
  rw [Std.ExtTreeMap.mem_iff_isSome_getElem?, Std.ExtTreeMap.mem_iff_isSome_getElem?]
  rcases built.isBorne id with he | hb
  · obtain ⟨hk, hi⟩ := Prod.mk.inj he
    rw [hk, hi]
    exact ⟨Iff.rfl, fun h => by cases h⟩
  · obtain ⟨derived, he⟩ := hb.exists_entry_eq
    obtain ⟨hk, hi⟩ := Prod.mk.inj he
    rw [hk, hi]
    exact ⟨Iff.rfl, fun _ => hb⟩

/-- Two handlers bear customers under ids of their own, and orders refer to one of them; later the
orders go, and the first of the two is put in once more. -/
def bazaar : List (List (Handler Unit)) :=
  [[⟨"clients", some ⟨"customers", [.new "id"], []⟩, fun _ => return .empty⟩,
      ⟨"buyers", some ⟨"customers", [.new "id", ⟨"patron", some "clients.id", none⟩], []⟩,
        fun _ => return .empty⟩,
      .ofDataSource ⟨"orders", [⟨"buyer", some "buyers.id", none⟩], []⟩ none],
    [⟨"orders", none, fun _ => return .empty⟩,
      ⟨"clients", some ⟨"customers", [.new "id"], []⟩, fun _ => return .empty⟩]]

theorem bazaar_known_isBorne :
    ∃ r, BuiltBy .standard bazaar r ∧ "orders" ∉ r.foreignKeys ∧ "customers" ∈ r.foreignKeys ∧
      r.IsBorne .standard bazaar "customers" := by
  obtain ⟨r, r', h, h', ho, hc⟩ : ∃ r r' : Registry Unit Id,
      ((empty .standard : Registry Unit Id).extend bazaar[0]).run = .ok r ∧
        (r.extend bazaar[1]).run = .ok r' ∧ r'.foreignKeys[("orders" : String)]? = none ∧
        (r'.foreignKeys[("customers" : String)]?).isSome = true := ⟨_, _, rfl, rfl, rfl, rfl⟩
  have built : BuiltBy .standard bazaar r' := .extend (.extend .empty h) h'
  have known : "customers" ∈ r'.foreignKeys := Std.ExtTreeMap.mem_iff_isSome_getElem?.2 hc
  refine ⟨r', built, fun hm => ?_, known, (built.known_isBorne "customers").2 known⟩
  rw [Std.ExtTreeMap.mem_iff_isSome_getElem?, ho] at hm
  cases hm

end Registry

end Switchboard
