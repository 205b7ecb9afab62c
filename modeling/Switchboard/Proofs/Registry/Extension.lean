import Switchboard.Proofs.Latest
import Switchboard.Proofs.Relations.Targets
import Switchboard.Registry.Basic

/-!
# What an extension does

A batch is put into a registry handler by handler, and then the relations are derived of the data
sources that the ids of the batch bear. Both indices change in the same places, so what a registry
knows of the relations of a data source is looked at as one entry.

* `get?_foldl_put`: a batch leaves the last of its handlers under each of their ids.
* `entry_put`: a handler that gives way takes the entry of its data source with it.
* `deriveFor_eq_ok`, `foldlM_deriveFor_eq_ok`: deriving for ids writes the entries of what they
  bear, the last of a data source id staying, and no others.
* `exists_foldlM_deriveFor_iff`: when deriving for ids succeeds.
* `extend_eq_ok`: what an extension that succeeds leaves behind.
* `get?_extend`, `get?_extend_of_not_exists`: under the ids of the batch stand the last handlers of
  it, and under all others what stood there.
-/

namespace Switchboard

variable {σ : Type}

/-- The last handler of a list that has an id. -/
def lastUnder (id : String) (hs : List (Handler σ)) : Option (Handler σ) :=
  hs.reverse.find? (·.id = id)

theorem lastUnder_cons (id : String) (h : Handler σ) (hs : List (Handler σ)) :
    lastUnder id (h :: hs) = (lastUnder id hs).or (if h.id = id then some h else none) :=
  lastBy_cons id h hs

theorem lastUnder_append (id : String) (hs hs' : List (Handler σ)) :
    lastUnder id (hs ++ hs') = (lastUnder id hs').or (lastUnder id hs) :=
  lastBy_append id hs hs'

theorem lastUnder_eq_none_iff {id : String} {hs : List (Handler σ)} :
    lastUnder id hs = none ↔ ∀ h ∈ hs, h.id ≠ id :=
  lastBy_eq_none_iff

theorem mem_map_id_iff {hs : List (Handler σ)} {id : String} :
    id ∈ hs.map (·.id) ↔ lastUnder id hs ≠ none := by
  rw [Ne, lastUnder_eq_none_iff]
  simp

/-- What a registry knows of the relations of a data source, if it knows them. -/
abbrev Entry : Type := Option (ByField ForeignKey) × Option (ByField ImportFrom)

/-- The entry of derived relations. -/
def Relations.entry (derived : Relations) : Entry :=
  (some derived.foreignKeys, some derived.imports)

namespace Registry

section

variable {m : Type → Type}

/-- The entry of a data source. -/
def entry (r : Registry σ m) (dataSource : String) : Entry :=
  (r.foreignKeys[dataSource]?, r.imports[dataSource]?)

@[simp] theorem get?_put (r : Registry σ m) (h : Handler σ) (id : String) :
    (r.put h).get? id = if h.id = id then some h else r.get? id := by
  rw [get?, handlers_put, Names.getElem?_insert]
  rfl

@[simp] theorem get?_foldl_put (r : Registry σ m) (hs : List (Handler σ)) (id : String) :
    (hs.foldl put r).get? id = (lastUnder id hs).or (r.get? id) := by
  induction hs generalizing r with
  | nil => rfl
  | cons h hs ih =>
    rw [List.foldl_cons, ih, get?_put, lastUnder_cons, Option.or_assoc]
    split <;> rfl

@[simp] theorem rules_put (r : Registry σ m) (h : Handler σ) : (r.put h).rules = r.rules := by
  unfold put
  cases r.dataSource? h.id <;> rfl

@[simp] theorem rules_foldl_put (r : Registry σ m) (hs : List (Handler σ)) :
    (hs.foldl put r).rules = r.rules := by
  induction hs generalizing r with
  | nil => rfl
  | cons h hs ih => rw [List.foldl_cons, ih, rules_put]

@[simp] theorem entry_forget (r : Registry σ m) (d k : String) :
    (r.forget d).entry k = if d = k then (none, none) else r.entry k := by
  simp only [entry, forget, Names.getElem?_erase]
  split <;> rfl

/-- A handler that gives way takes the entry of its data source with it. -/
theorem entry_put (r : Registry σ m) (h : Handler σ) (k : String) :
    (r.put h).entry k =
      if (r.dataSource? h.id).map (·.id) = some k then (none, none) else r.entry k := by
  unfold put
  cases r.dataSource? h.id with
  | none => rfl
  | some d =>
    simp only [Option.map_some, Option.some.injEq]
    exact entry_forget r d.id k

end

/-! ## Deriving -/

theorem dataSource?_congr {r r' : Registry σ Id} (h : r'.handlers = r.handlers) :
    r'.dataSource? = r.dataSource? := by
  funext id
  rw [dataSource?, dataSource?, get?, get?, h]

theorem derive_congr {r r' : Registry σ Id} (hh : r'.handlers = r.handlers)
    (hr : r'.rules = r.rules) (d : DataSource) : r'.derive d = r.derive d := by
  rw [derive, derive, hr, dataSource?_congr hh]

/-- The data source of an id that comes last among those that the handlers of some ids bear. -/
def lastBorne (r : Registry σ Id) (ids : List String) (dataSource : String) : Option DataSource :=
  (ids.filterMap r.dataSource?).reverse.find? (·.id = dataSource)

theorem lastBorne_cons (r : Registry σ Id) (id : String) (ids : List String) (k : String) :
    r.lastBorne (id :: ids) k =
      (r.lastBorne ids k).or ((r.dataSource? id).filter (·.id = k)) := by
  unfold lastBorne
  cases hd : r.dataSource? id with
  | none => rw [List.filterMap_cons_none hd, Option.filter_none, Option.or_none]
  | some d =>
    rw [List.filterMap_cons_some hd, List.reverse_cons, List.find?_append, List.find?_singleton,
      Option.filter_some]

theorem lastBorne_congr {r r' : Registry σ Id} (h : r'.handlers = r.handlers) (ids : List String)
    (k : String) : r'.lastBorne ids k = r.lastBorne ids k := by
  rw [lastBorne, lastBorne, dataSource?_congr h]

/-- The entry that a registry has after deriving for some ids of another one. -/
def IsEntryAfter (r : Registry σ Id) (borne : Option DataSource) (k : String) (e : Entry) : Prop :=
  match borne with
  | none => e = r.entry k
  | some d => ∃ derived, (r.derive d).run = .ok derived ∧ e = derived.entry

/-- Deriving for an id writes the entry of the data source that its handler bears, if it bears
one. -/
theorem deriveFor_eq_ok {r r' : Registry σ Id} {id : String}
    (h : (r.deriveFor id).run = .ok r') :
    r'.handlers = r.handlers ∧ r'.rules = r.rules ∧
      ∀ k, r.IsEntryAfter ((r.dataSource? id).filter (·.id = k)) k (r'.entry k) := by
  unfold deriveFor at h
  cases hd : r.dataSource? id with
  | none =>
    rw [hd] at h
    cases h
    exact ⟨rfl, rfl, fun k => rfl⟩
  | some d =>
    rw [hd] at h
    obtain ⟨derived, hr, h⟩ := run_bind_eq_ok h
    cases h
    refine ⟨rfl, rfl, fun k => ?_⟩
    simp only [entry, Names.getElem?_insert, Option.filter_some]
    by_cases hk : d.id = k
    · simp only [hk, decide_true, if_pos]
      exact ⟨derived, hr, rfl⟩
    · simp only [hk, decide_false, Bool.false_eq_true, if_false]
      rfl

/-- Deriving for some ids writes the entries of the data sources that they bear. -/
theorem foldlM_deriveFor_eq_ok {ids : List String} {r r' : Registry σ Id}
    (h : (ids.foldlM deriveFor r).run = .ok r') :
    r'.handlers = r.handlers ∧ r'.rules = r.rules ∧
      ∀ k, r.IsEntryAfter (r.lastBorne ids k) k (r'.entry k) := by
  induction ids generalizing r with
  | nil =>
    cases h
    exact ⟨rfl, rfl, fun k => rfl⟩
  | cons id ids ih =>
    rw [List.foldlM_cons] at h
    obtain ⟨mid, hm, h⟩ := run_bind_eq_ok h
    obtain ⟨hh, hr, he⟩ := deriveFor_eq_ok hm
    obtain ⟨ihh, ihr, ihe⟩ := ih h
    refine ⟨ihh.trans hh, ihr.trans hr, fun k => ?_⟩
    have ihk := ihe k
    rw [lastBorne_congr hh] at ihk
    rw [lastBorne_cons]
    cases hl : r.lastBorne ids k with
    | none =>
      rw [hl] at ihk
      rw [Option.none_or, show r'.entry k = mid.entry k from ihk]
      exact he k
    | some d =>
      rw [hl] at ihk
      obtain ⟨derived, hd, hk⟩ := ihk
      rw [derive_congr hh hr] at hd
      exact ⟨derived, hd, hk⟩

/-- The data source that the handler of an id bears, if it bears one, can have its relations
derived. -/
def CanDerive (r : Registry σ Id) (id : String) : Prop :=
  ∀ d, r.dataSource? id = some d → ∃ derived, (r.derive d).run = .ok derived

theorem canDerive_congr {r r' : Registry σ Id} (hh : r'.handlers = r.handlers)
    (hr : r'.rules = r.rules) (id : String) : r'.CanDerive id ↔ r.CanDerive id := by
  simp only [CanDerive, dataSource?_congr hh, derive_congr hh hr]

theorem exists_deriveFor_iff {r : Registry σ Id} {id : String} :
    (∃ r', (r.deriveFor id).run = .ok r') ↔ r.CanDerive id := by
  unfold deriveFor CanDerive
  cases r.dataSource? id with
  | none => simp only [run_pure_eq_ok_iff, exists_eq, reduceCtorEq, false_implies, implies_true]
  | some d =>
    simp only [run_bind_eq_ok_iff, run_pure_eq_ok_iff, Option.some.injEq, forall_eq']
    constructor
    · rintro ⟨-, derived, hd, -⟩
      exact ⟨derived, hd⟩
    · rintro ⟨derived, hd⟩
      exact ⟨_, derived, hd, rfl⟩

/-- Deriving for some ids succeeds when it would for each of them alone: handlers stay as they
are. -/
theorem exists_foldlM_deriveFor_iff {r : Registry σ Id} {ids : List String} :
    (∃ r', (ids.foldlM deriveFor r).run = .ok r') ↔ ∀ id ∈ ids, r.CanDerive id := by
  induction ids generalizing r with
  | nil => simp only [List.foldlM_nil, run_pure_eq_ok_iff, exists_eq, List.not_mem_nil,
      false_implies, implies_true]
  | cons id ids ih =>
    rw [List.forall_mem_cons, ← exists_deriveFor_iff]
    simp only [List.foldlM_cons, run_bind_eq_ok_iff]
    constructor
    · rintro ⟨r', mid, hm, h⟩
      obtain ⟨hh, hr, -⟩ := deriveFor_eq_ok hm
      exact ⟨⟨mid, hm⟩, fun k hk => (canDerive_congr hh hr k).1 (ih.1 ⟨r', h⟩ k hk)⟩
    · rintro ⟨⟨mid, hm⟩, h⟩
      obtain ⟨hh, hr, -⟩ := deriveFor_eq_ok hm
      obtain ⟨r', h'⟩ := ih.2 fun k hk => (canDerive_congr hh hr k).2 (h k hk)
      exact ⟨r', mid, hm, h'⟩

/-- An extension puts the batch in, and then writes the entries of what the ids of the batch
bear. -/
theorem extend_eq_ok {r r' : Registry σ Id} {batch : List (Handler σ)}
    (h : (r.extend batch).run = .ok r') :
    r'.handlers = (batch.foldl put r).handlers ∧ r'.rules = r.rules ∧
      ∀ k, (batch.foldl put r).IsEntryAfter
        ((batch.foldl put r).lastBorne (distinct (batch.map (·.id))) k) k (r'.entry k) := by
  obtain ⟨hh, hr, he⟩ := foldlM_deriveFor_eq_ok h
  exact ⟨hh, hr.trans (rules_foldl_put r batch), he⟩

theorem get?_extend {r r' : Registry σ Id} {batch : List (Handler σ)}
    (h : (r.extend batch).run = .ok r') (id : String) :
    r'.get? id = (lastUnder id batch).or (r.get? id) := by
  rw [get?, (extend_eq_ok h).1]
  exact get?_foldl_put r batch id

theorem get?_extend_of_not_exists {r r' : Registry σ Id} {batch : List (Handler σ)}
    (h : (r.extend batch).run = .ok r') {id : String} (hid : ¬ ∃ g ∈ batch, g.id = id) :
    r'.get? id = r.get? id := by
  rw [get?_extend h, lastUnder_eq_none_iff.2 fun g hg he => hid ⟨g, hg, he⟩, Option.none_or]

end Registry

end Switchboard
