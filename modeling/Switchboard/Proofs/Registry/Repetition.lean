import Switchboard.Proofs.Registry.Bearers
import Switchboard.Proofs.Registry.Order

/-!
# A batch once more

A batch that is put on top of what it has led to leads there again. The second time every handler of
it makes one give way, also those that stood there for a while only, and with each goes the entry
under the id of its data source, which may be that of another handler. But what gives way the second
time either is what stays in the end, so that its entry is derived anew, or gave way to a later
handler of the batch the first time already, so that its entry was gone.

* `entry_foldl_put_cases`: an entry stays, or some handler with the data source gives way.
* `entry_foldl_put_again`: what a batch forgets the second time, it has forgotten or derives.
* `exists_extend_again`: it succeeds once more.
* `extend_again`: and changes nothing.
-/

namespace Switchboard

namespace Registry

variable {σ : Type} {r r' : Registry σ Id} {batch : List (Handler σ)}

/-- An entry stays as it is while a batch is put in, or at some point a handler of the batch makes
one give way that bears a data source with the id. -/
theorem entry_foldl_put_cases (r : Registry σ Id) (hs : List (Handler σ)) (k : String) :
    (hs.foldl put r).entry k = r.entry k ∨
      ∃ before h after d, hs = before ++ h :: after ∧
        (before.foldl put r).dataSource? h.id = some d ∧ d.id = k := by
  induction hs generalizing r with
  | nil => exact .inl rfl
  | cons h hs ih =>
    by_cases hk : (r.dataSource? h.id).map (·.id) = some k
    · obtain ⟨d, hd, hid⟩ := Option.map_eq_some_iff.1 hk
      exact .inr ⟨[], h, hs, d, rfl, hd, hid⟩
    · rcases ih (r.put h) with he | ⟨before, g, after, d, rfl, hd, hid⟩
      · exact .inl (he.trans (by rw [entry_put, if_neg hk]))
      · exact .inr ⟨h :: before, g, after, d, rfl, hd, hid⟩

theorem dataSource?_foldl_put (r : Registry σ Id) (hs : List (Handler σ)) (id : String) :
    (hs.foldl put r).dataSource? id = ((lastUnder id hs).or (r.get? id)).bind (·.dataSource) := by
  rw [dataSource?, get?_foldl_put]

section

variable (h : (r.extend batch).run = .ok r')
include h

theorem handlers_foldl_put_again : (batch.foldl put r').handlers = r'.handlers := by
  refine Std.ExtTreeMap.ext_getElem? fun {id} => ?_
  show (batch.foldl put r').get? id = r'.get? id
  rw [get?_foldl_put, get?_extend h, ← Option.or_assoc, Option.or_self]

theorem rules_foldl_put_again : (batch.foldl put r').rules = (batch.foldl put r).rules := by
  rw [rules_foldl_put, rules_foldl_put, (extend_eq_ok h).2.1]

/-- The entry of an id that nothing bears that stays of the batch is left alone the second time. -/
theorem entry_foldl_put_again {k : String}
    (hk : r'.lastBorne (distinct (batch.map (·.id))) k = none) :
    (batch.foldl put r').entry k = r'.entry k := by
  obtain ⟨hh, -, he⟩ := extend_eq_ok h
  have hkept := he k
  rw [← lastBorne_congr hh, hk] at hkept
  rcases entry_foldl_put_cases r' batch k with hsame | ⟨before, g, after, d, hbatch, hd, rfl⟩
  · exact hsame
  rw [dataSource?_foldl_put] at hd
  cases hl : lastUnder g.id before with
  | none =>
    -- The one that gives way is the last handler of the batch with its id.
    rw [hl, Option.none_or] at hd
    have hg : g.id ∈ batch.map (·.id) := hbatch ▸ List.mem_map_of_mem List.mem_append_cons_self
    exact absurd rfl (lastBorne_eq_none hk (mem_distinct.2 hg) hd)
  | some x =>
    -- It stands in front in the batch, and gave way the first time too.
    have hfirst : (batch.foldl put r).entry d.id = (none, none) := by
      rw [hbatch, List.foldl_append]
      refine entry_foldl_put_of_replaced List.mem_cons_self ?_
      rw [dataSource?_foldl_put, hl]
      rwa [hl] at hd
    have hgone : r'.entry d.id = (none, none) := hkept.trans hfirst
    rcases entry_foldl_put_eq_or r' batch d.id with hnone | hsame
    · exact hnone.trans hgone.symm
    · exact hsame

theorem exists_extend_again : ∃ s, (r'.extend batch).run = .ok s := by
  have hfirst := exists_foldlM_deriveFor_iff.1 ⟨r', h⟩
  refine exists_foldlM_deriveFor_iff.2 fun id hid => ?_
  rw [canDerive_congr ((handlers_foldl_put_again h).trans (extend_eq_ok h).1)
    (rules_foldl_put_again h)]
  exact hfirst id hid

/-- To extend a registry by the batch that has led to it changes nothing: it succeeds, and all
handlers and all relations are the same, whatever ids the handlers and their data sources have. -/
theorem extend_again : (r'.extend batch).run = .ok r' := by
  obtain ⟨s, hs⟩ := exists_extend_again h
  obtain ⟨hh, hrules, he⟩ := extend_eq_ok h
  obtain ⟨-, hrules', he'⟩ := extend_eq_ok hs
  have hhandlers := handlers_foldl_put_again h
  have hput : (batch.foldl put r').handlers = (batch.foldl put r).handlers := hhandlers.trans hh
  have hsame : s = r' := by
    refine ext_of_entry (fun id => ?_) (fun k => ?_) hrules'
    · rw [get?_extend hs, get?_extend h, ← Option.or_assoc, Option.or_self]
    · have hk := he k
      have hk' := he' k
      rw [← lastBorne_congr hh] at hk
      rw [lastBorne_congr hhandlers] at hk'
      cases hl : r'.lastBorne (distinct (batch.map (·.id))) k with
      | none =>
        rw [hl] at hk'
        exact Eq.trans hk' (entry_foldl_put_again h hl)
      | some d =>
        rw [hl] at hk hk'
        obtain ⟨derived, hd, hek⟩ := hk
        obtain ⟨derived', hd', hek'⟩ := hk'
        rw [derive_congr hput (rules_foldl_put_again h)] at hd'
        cases hd.symm.trans hd'
        exact hek'.trans hek.symm
  rw [hs, hsame]

end

/-- Orders and customers. -/
def stand : List (Handler Unit) :=
  [.ofDataSource orders none, .ofDataSource ⟨"customers", [.new "id", .new "name"], []⟩ none]

/-- A stall that bears orders of its own and then none, and two handlers that bear customers. -/
def refit : List (Handler Unit) :=
  [⟨"stall", some ⟨"orders", [.new "number"], []⟩, fun _ => return .empty⟩,
    ⟨"stall", none, fun _ => return .empty⟩,
    ⟨"clients", some ⟨"customers", [.new "id"], []⟩, fun _ => return .empty⟩,
    ⟨"buyers", some ⟨"customers", [.new "id", ⟨"patron", some "clients.id", none⟩], []⟩,
      fun _ => return .empty⟩]

/-- The stall takes the relations of the orders with it, though they stay, and two handlers have a
claim on those of the customers. -/
theorem refit_extend_again :
    ∃ r r' : Registry Unit Id, ((empty .standard : Registry Unit Id).extend stand).run = .ok r ∧
      (r.foreignKeys[("orders" : String)]?).isSome = true ∧ (r.extend refit).run = .ok r' ∧
      r'.contains "orders" = true ∧ r'.foreignKeys[("orders" : String)]? = none ∧
      (r'.foreignKeys[("customers" : String)]?).isSome = true ∧ (r'.extend refit).run = .ok r' := by
  obtain ⟨r, r', hr, hknown, h, hstays, hgone, hc⟩ : ∃ r r' : Registry Unit Id,
      ((empty .standard : Registry Unit Id).extend stand).run = .ok r ∧
        (r.foreignKeys[("orders" : String)]?).isSome = true ∧ (r.extend refit).run = .ok r' ∧
        r'.contains "orders" = true ∧ r'.foreignKeys[("orders" : String)]? = none ∧
        (r'.foreignKeys[("customers" : String)]?).isSome = true :=
    ⟨_, _, rfl, rfl, rfl, rfl, rfl, rfl⟩
  exact ⟨r, r', hr, hknown, h, hstays, hgone, hc, extend_again h⟩

end Registry

end Switchboard
