import Switchboard.Proofs.Registry.Extension

/-!
# Registries and their histories

A registry comes about by batches of handlers, one on top of the other. Where every handler that
bears a data source is registered under the id of that data source, the history tells all of it:
under an id stands the handler that was put there last, and the relations of an id are those of the
data source that this handler bears, against the handlers that there were after the last batch with
the id. Later batches of other handlers change nothing of them.

* `BuiltBy`: the registries that batches lead to.
* `entry_foldl_put`: putting in a batch forgets the entries of its ids, and no others.
* `extend_wellPlaced`: what one extension does where handlers are well placed.
* `IsSettled`: an entry as it is derived after the last batch with its id.
* `Tells.extend`, `BuiltBy.tells`: what one extension keeps of what a history tells, and so every
  run of extensions.
* `BuiltBy.answers_from_history`: what is found of an id, by the history alone.
-/

namespace Switchboard

variable {σ : Type}

/-- A handler bears no data source, or one that has its own id. -/
def Handler.IsWellPlaced (h : Handler σ) : Prop := ∀ d, h.dataSource = some d → d.id = h.id

namespace Registry

/-- Batches lead to a registry: the first one extends the empty registry, every further one what the
ones before have led to. -/
inductive BuiltBy (rules : RelationRules Id) : List (List (Handler σ)) → Registry σ Id → Prop where
  | empty : BuiltBy rules [] (empty rules)
  | extend {batches : List (List (Handler σ))} {r r' : Registry σ Id}
      {batch : List (Handler σ)} :
      BuiltBy rules batches r → (r.extend batch).run = .ok r' →
      BuiltBy rules (batches ++ [batch]) r'

/-- Every data source has the id that its handler is registered under. -/
def IsWellPlaced (r : Registry σ Id) : Prop := ∀ id d, r.dataSource? id = some d → d.id = id

/-- Relations are known only of ids whose handlers bear a data source. -/
def IsTidy (r : Registry σ Id) : Prop := ∀ id, r.dataSource? id = none → r.entry id = (none, none)

theorem dataSource?_put (r : Registry σ Id) (h : Handler σ) (id : String) :
    (r.put h).dataSource? id = if h.id = id then h.dataSource else r.dataSource? id := by
  rw [dataSource?, get?_put]
  split <;> rfl

theorem IsWellPlaced.put {r : Registry σ Id} (hr : r.IsWellPlaced) {h : Handler σ}
    (hh : h.IsWellPlaced) : (r.put h).IsWellPlaced := by
  intro id d hd
  rw [dataSource?_put] at hd
  split at hd
  · next hid => rw [hh d hd, hid]
  · exact hr id d hd

theorem entry_put_of_wellPlaced {r : Registry σ Id} (hr : r.IsWellPlaced) (ht : r.IsTidy)
    (h : Handler σ) (k : String) :
    (r.put h).entry k = if h.id = k then (none, none) else r.entry k := by
  rw [entry_put]
  cases hd : r.dataSource? h.id with
  | none =>
    by_cases hk : h.id = k
    · simpa [hk] using ht k (hk ▸ hd)
    · simp [hk]
  | some d => simp only [Option.map_some, Option.some.injEq, hr _ _ hd]

theorem IsTidy.put {r : Registry σ Id} (ht : r.IsTidy) (hr : r.IsWellPlaced) (h : Handler σ) :
    (r.put h).IsTidy := by
  intro id hd
  rw [dataSource?_put] at hd
  rw [entry_put_of_wellPlaced hr ht]
  split
  · rfl
  · next hid => exact ht id (by rwa [if_neg hid] at hd)

/-- Putting in a batch forgets the entries of its ids, and no others. -/
theorem entry_foldl_put {r : Registry σ Id} (hr : r.IsWellPlaced) (ht : r.IsTidy)
    {hs : List (Handler σ)} (hh : ∀ h ∈ hs, h.IsWellPlaced) :
    (hs.foldl Registry.put r).IsWellPlaced ∧ ∀ k,
      (hs.foldl Registry.put r).entry k =
        if k ∈ hs.map (·.id) then (none, none) else r.entry k := by
  induction hs generalizing r with
  | nil => exact ⟨hr, fun k => by simp⟩
  | cons h hs ih =>
    have hw := hh h List.mem_cons_self
    obtain ⟨ihr, ihe⟩ := ih (hr.put hw) (ht.put hr h) fun g hg => hh g (List.mem_cons_of_mem _ hg)
    refine ⟨ihr, fun k => ?_⟩
    rw [List.foldl_cons, ihe, entry_put_of_wellPlaced hr ht, List.map_cons]
    by_cases hk : h.id = k
    · simp [hk]
    · simp [hk, Ne.symm hk]

/-- Under well-placed handlers an id can bear only the data source that has the id. -/
theorem IsWellPlaced.lastBorne_eq {r : Registry σ Id} (hr : r.IsWellPlaced) (ids : List String)
    (k : String) : r.lastBorne ids k = if k ∈ ids then r.dataSource? k else none := by
  induction ids with
  | nil => rfl
  | cons id ids ih =>
    have hf : (r.dataSource? id).filter (·.id = k) = if id = k then r.dataSource? k else none := by
      cases hd : r.dataSource? id with
      | none =>
        split
        · next hk => rw [← hk, hd]; rfl
        · rfl
      | some d =>
        rw [Option.filter_some, hr id d hd]
        by_cases hk : id = k
        · simp [← hk, hd]
        · simp [hk]
    rw [lastBorne_cons, ih, hf]
    by_cases hk : id = k
    · subst hk
      by_cases hm : id ∈ ids <;> simp [hm]
    · simp [hk, Ne.symm hk]

/-- The entry that the handlers of a registry give to an id. -/
def HasDerived (r : Registry σ Id) (id : String) (e : Entry) : Prop :=
  match r.dataSource? id with
  | none => e = (none, none)
  | some d => ∃ derived, (r.derive d).run = .ok derived ∧ e = derived.entry

/-- An extension derives the entries of the ids of the batch, and changes no others. -/
theorem extend_wellPlaced {r r' : Registry σ Id} (hr : r.IsWellPlaced) (ht : r.IsTidy)
    {batch : List (Handler σ)} (hb : ∀ h ∈ batch, h.IsWellPlaced)
    (h : (r.extend batch).run = .ok r') :
    r'.IsWellPlaced ∧ (∀ id, r'.get? id = (lastUnder id batch).or (r.get? id)) ∧ ∀ id,
      if ∃ h ∈ batch, h.id = id then r'.HasDerived id (r'.entry id)
      else r'.entry id = r.entry id := by
  obtain ⟨hp, he⟩ := entry_foldl_put hr ht hb
  obtain ⟨hh, hrules, hx⟩ := extend_eq_ok h
  have hd := dataSource?_congr hh
  refine ⟨fun id d => ?_, get?_extend h, fun id => ?_⟩
  · rw [hd]
    exact hp id d
  · have hid := hx id
    rw [hp.lastBorne_eq] at hid
    simp only [mem_distinct, List.mem_map] at hid
    split
    · next hm =>
      rw [if_pos hm] at hid
      unfold HasDerived
      rw [hd]
      cases hs : (batch.foldl put r).dataSource? id with
      | none =>
        rw [hs] at hid
        have hi : r'.entry id = (batch.foldl put r).entry id := hid
        rw [hi, he, if_pos (List.mem_map.2 hm)]
      | some d =>
        rw [hs] at hid
        obtain ⟨derived, hdr, hi⟩ := hid
        rw [← derive_congr hh (hrules.trans (rules_foldl_put r batch).symm)] at hdr
        exact ⟨derived, hdr, hi⟩
    · next hm =>
      rw [if_neg hm] at hid
      have hi : r'.entry id = (batch.foldl put r).entry id := hid
      rw [hi, he, if_neg fun hm' => hm (List.mem_map.1 hm')]

/-! ## Histories -/

/-- The data sources that the last handlers of a history bear, by id. -/
def targetsAfter (batches : List (List (Handler σ))) : Targets :=
  fun id => (lastUnder id batches.flatten).bind (·.dataSource)

/-- The entry of an id is the one derived for a data source against the handlers that there were
after the last batch with the id. -/
def IsSettled (rules : RelationRules Id) (batches : List (List (Handler σ))) (id : String)
    (d : DataSource) (e : Entry) : Prop :=
  ∃ before batch after derived, batches = before ++ batch :: after ∧
    (∃ h ∈ batch, h.id = id) ∧ (∀ b ∈ after, ∀ h ∈ b, h.id ≠ id) ∧
    (Relations.derive rules d (targetsAfter (before ++ [batch]))).run = .ok derived ∧
    e = derived.entry

theorem IsSettled.snoc {rules : RelationRules Id} {batches : List (List (Handler σ))}
    {id : String} {d : DataSource} {e : Entry} (hs : IsSettled rules batches id d e)
    {batch : List (Handler σ)} (hb : ∀ h ∈ batch, h.id ≠ id) :
    IsSettled rules (batches ++ [batch]) id d e := by
  obtain ⟨before, last, after, derived, rfl, hl, ha, hd, he⟩ := hs
  refine ⟨before, last, after ++ [batch], derived, by simp, hl, fun b hb' => ?_, hd, he⟩
  rcases List.mem_append.1 hb' with hb' | hb'
  · exact ha b hb'
  · rw [List.mem_singleton.1 hb']
    exact hb

/-- What the history of a registry tells of it. -/
structure Tells (rules : RelationRules Id) (batches : List (List (Handler σ)))
    (r : Registry σ Id) : Prop where
  wellPlaced : r.IsWellPlaced
  tidy : r.IsTidy
  rules_eq : r.rules = rules
  get? : ∀ id, r.get? id = lastUnder id batches.flatten
  settled : ∀ id d, r.dataSource? id = some d → IsSettled rules batches id d (r.entry id)

theorem tells_empty (rules : RelationRules Id) : Tells rules [] (empty rules : Registry σ Id) where
  wellPlaced id d h := by simp [empty, dataSource?, Registry.get?] at h
  tidy id _ := by simp [empty, entry]
  rules_eq := rfl
  get? id := by simp [empty, Registry.get?, lastUnder]
  settled id d h := by simp [empty, dataSource?, Registry.get?] at h

theorem dataSource?_eq_targetsAfter {batches : List (List (Handler σ))} {r : Registry σ Id}
    (h : ∀ id, r.get? id = lastUnder id batches.flatten) :
    r.dataSource? = targetsAfter batches := by
  funext id
  rw [dataSource?, targetsAfter, h]

theorem Tells.extend {rules : RelationRules Id} {batches : List (List (Handler σ))}
    {r r' : Registry σ Id} (ht : Tells rules batches r) {batch : List (Handler σ)}
    (hb : ∀ h ∈ batch, h.IsWellPlaced) (h : (r.extend batch).run = .ok r') :
    Tells rules (batches ++ [batch]) r' := by
  obtain ⟨hw, hg, he⟩ := extend_wellPlaced ht.wellPlaced ht.tidy hb h
  have hrules : r'.rules = rules := (extend_eq_ok h).2.1.trans ht.rules_eq
  have hlast : ∀ id, r'.get? id = lastUnder id (batches ++ [batch]).flatten := fun id => by
    rw [hg, ht.get?, List.flatten_append, lastUnder_append, List.flatten_singleton]
  -- Of an id that the batch does not have, nothing changes.
  have hkept : ∀ id, (¬ ∃ h ∈ batch, h.id = id) →
      r'.dataSource? id = r.dataSource? id ∧ r'.entry id = r.entry id := by
    intro id hm
    have hi := he id
    rw [if_neg hm] at hi
    exact ⟨by rw [dataSource?, dataSource?, get?_extend_of_not_exists h hm], hi⟩
  have hderived : ∀ id, (∃ h ∈ batch, h.id = id) → r'.HasDerived id (r'.entry id) := by
    intro id hm
    have hi := he id
    rwa [if_pos hm] at hi
  refine ⟨hw, fun id hd => ?_, hrules, hlast, fun id d hd => ?_⟩
  · by_cases hm : ∃ h ∈ batch, h.id = id
    · have hi := hderived id hm
      rw [HasDerived, hd] at hi
      exact hi
    · obtain ⟨hs, hi⟩ := hkept id hm
      rw [hi]
      exact ht.tidy id (hs ▸ hd)
  · by_cases hm : ∃ h ∈ batch, h.id = id
    · have hi := hderived id hm
      rw [HasDerived, hd] at hi
      obtain ⟨derived, hdr, hi⟩ := hi
      rw [derive, hrules, dataSource?_eq_targetsAfter hlast] at hdr
      exact ⟨batches, batch, [], derived, rfl, hm, by simp, hdr, hi⟩
    · obtain ⟨hs, hi⟩ := hkept id hm
      rw [hi]
      exact (ht.settled id d (hs ▸ hd)).snoc fun h hh hid => hm ⟨h, hh, hid⟩

theorem BuiltBy.tells {rules : RelationRules Id} {batches : List (List (Handler σ))}
    {r : Registry σ Id} (h : BuiltBy rules batches r)
    (placed : ∀ batch ∈ batches, ∀ h ∈ batch, h.IsWellPlaced) : Tells rules batches r := by
  induction h with
  | empty => exact tells_empty rules
  | @extend batches r r' batch hr he ih =>
    have hb := fun b hb => placed b (List.mem_append_left _ hb)
    exact (ih hb).extend (placed batch (by simp)) he

/-! ## Looking up -/

theorem relation_eq_unknown_iff {ρ : Type} {index : Std.ExtTreeMap String (ByField ρ)}
    {kind : RelationKind} {id field : String} :
    relation index kind id field = .error (.unknownDataSource id) ↔ index[id]? = none := by
  unfold relation
  cases index[id]? with
  | none => simp
  | some fields => cases hf : fields[field]? <;> simp [hf]

theorem relation_eq_ok_iff {ρ : Type} {index : Std.ExtTreeMap String (ByField ρ)}
    {kind : RelationKind} {id field : String} {x : ρ} :
    relation index kind id field = .ok x ↔
      ∃ fields, index[id]? = some fields ∧ fields[field]? = some x := by
  unfold relation
  cases index[id]? with
  | none => simp
  | some fields => cases hf : fields[field]? <;> simp [hf]

/-- Relations are known of exactly the ids whose handlers bear a data source. -/
theorem Tells.known_iff {rules : RelationRules Id} {batches : List (List (Handler σ))}
    {r : Registry σ Id} (ht : Tells rules batches r) (id : String) :
    (r.foreignKeys[id]? ≠ none ↔ ∃ d, r.dataSource? id = some d) ∧
      (r.imports[id]? ≠ none ↔ ∃ d, r.dataSource? id = some d) := by
  cases hd : r.dataSource? id with
  | none =>
    obtain ⟨hk, hi⟩ := Prod.mk.inj (ht.tidy id hd)
    simp [hk, hi]
  | some d =>
    obtain ⟨-, -, -, derived, -, -, -, -, he⟩ := ht.settled id d hd
    obtain ⟨hk, hi⟩ := Prod.mk.inj he
    simp [hk, hi]

/-- Of a registry that well-placed handlers lead to, the history tells every answer about an id: the
handler that was put there last is found; the relations are known exactly when it bears a data
source, and then they are those derived for that data source against the handlers after the last
batch with the id. -/
theorem BuiltBy.answers_from_history {batches : List (List (Handler σ))} {r : Registry σ Id}
    (built : BuiltBy .standard batches r) (placed : ∀ batch ∈ batches, ∀ h ∈ batch, h.IsWellPlaced)
    (id : String) :
    (r.lookup id = match lastUnder id batches.flatten with
      | some h => .ok h
      | none => .error ⟨id⟩) ∧
    (∀ field, r.foreignKey id field ≠ .error (.unknownDataSource id) ↔
      ∃ d, targetsAfter batches id = some d) ∧
    (∀ field, r.importFrom id field ≠ .error (.unknownDataSource id) ↔
      ∃ d, targetsAfter batches id = some d) ∧
    ∀ d, targetsAfter batches id = some d → IsSettled .standard batches id d (r.entry id) := by
  have ht := built.tells placed
  have hd : r.dataSource? id = targetsAfter batches id :=
    congrFun (dataSource?_eq_targetsAfter ht.get?) id
  refine ⟨?_, fun field => ?_, fun field => ?_, fun d hs => ht.settled id d (hd.trans hs)⟩
  · unfold lookup
    cases hl : lastUnder id batches.flatten with
    | none => simp only [ht.get?, hl]
    | some h => simp only [ht.get?, hl]
  · rw [foreignKey, Ne, relation_eq_unknown_iff, ← hd]
    exact (ht.known_iff id).1
  · rw [importFrom, Ne, relation_eq_unknown_iff, ← hd]
    exact (ht.known_iff id).2

/-- Orders, which refer to customers. -/
def orders : DataSource where
  id := "orders"
  fields := [⟨"customer", some "customers.id", none⟩,
    ⟨"name", none, some ⟨"customer", "name", none⟩⟩]
  bindings := []

/-- Orders and customers; then customers without fields; then a handler in the place of customers
that bears no data source. -/
def shop : List (List (Handler Unit)) :=
  [[.ofDataSource orders none, .ofDataSource ⟨"customers", [.new "id", .new "name"], []⟩ none],
    [.ofDataSource (.new "customers") none],
    [⟨"customers", none, fun _ => return .empty⟩]]

theorem shop_answers_from_history :
    (∀ batch ∈ shop, ∀ h ∈ batch, h.IsWellPlaced) ∧ ∃ r, BuiltBy .standard shop r ∧
      IsSettled .standard shop "orders" orders (r.entry "orders") := by
  have placed : ∀ batch ∈ shop, ∀ h ∈ batch, h.IsWellPlaced := by
    simp [shop, Handler.IsWellPlaced, Handler.ofDataSource, DataSource.new]
  obtain ⟨r, r', r'', h, h', h''⟩ : ∃ r r' r'' : Registry Unit Id,
      ((empty .standard : Registry Unit Id).extend shop[0]).run = .ok r ∧
        (r.extend shop[1]).run = .ok r' ∧ (r'.extend shop[2]).run = .ok r'' :=
    ⟨_, _, _, rfl, rfl, rfl⟩
  have built : BuiltBy .standard shop r'' := .extend (.extend (.extend .empty h) h') h''
  exact ⟨placed, r'', built, (built.answers_from_history placed "orders").2.2.2 _ rfl⟩

end Registry

end Switchboard
