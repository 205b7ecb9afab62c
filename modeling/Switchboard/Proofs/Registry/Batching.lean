import Switchboard.Proofs.Registry.Extension
import Switchboard.Proofs.Relations.Derived

/-!
# Batches of new handlers

Handlers under new ids make nothing give way, whatever data sources they bear. Where several batches
of them are put in one after the other, the relations of the earlier ones are derived before the
later handlers are there. Had they been there, a derivation that succeeded would have found what it
found: so all batches at once lead to the same registry. The converse fails, since handlers of one
batch may refer to each other in any order.

* `AreNew.foldl_put_eq`: new handlers leave the relations alone.
* `deriveFor_of_more_handlers`, `foldlM_deriveFor_of_more_handlers`: more handlers change no
  derivation that succeeds.
* `extend_append`: two batches at once.
* `extend_of_cut`: a list of handlers, and the batches it is cut into.
-/

namespace Switchboard

namespace Registry

variable {σ : Type}

/-- The registry with other handlers, and its relations as they are. -/
def withHandlers (r : Registry σ Id) (handlers : Std.ExtTreeMap String (Handler σ)) :
    Registry σ Id :=
  { r with handlers }

/-! ## New handlers -/

/-- Handlers have ids of their own, and none of those is registered. -/
def AreNew (r : Registry σ Id) (hs : List (Handler σ)) : Prop :=
  (hs.map (·.id)).Nodup ∧ ∀ h ∈ hs, r.get? h.id = none

theorem AreNew.of_cons {r : Registry σ Id} {h : Handler σ} {hs : List (Handler σ)}
    (new : r.AreNew (h :: hs)) : r.get? h.id = none ∧ (r.put h).AreNew hs := by
  obtain ⟨hid, hids⟩ := List.nodup_cons.1 new.1
  refine ⟨new.2 h List.mem_cons_self, hids, fun g hg => ?_⟩
  have hne : h.id ≠ g.id := (ne_of_mem_of_not_mem (List.mem_map_of_mem hg) hid).symm
  rw [get?_put, if_neg hne]
  exact new.2 g (List.mem_cons_of_mem h hg)

theorem AreNew.of_append {r : Registry σ Id} {hs hs' : List (Handler σ)}
    (new : r.AreNew (hs ++ hs')) : (hs.foldl put r).AreNew hs' := by
  induction hs generalizing r with
  | nil => exact new
  | cons h hs ih => exact ih new.of_cons.2

theorem AreNew.of_append_left {r : Registry σ Id} {first second : List (Handler σ)}
    (new : r.AreNew (first ++ second)) : r.AreNew first := by
  refine ⟨?_, fun h hm => new.2 h (List.mem_append_left _ hm)⟩
  have hn := new.1
  rw [List.map_append] at hn
  exact (List.nodup_append.1 hn).1

theorem AreNew.congr {r r' : Registry σ Id} {hs : List (Handler σ)} (new : r.AreNew hs)
    (hh : r'.handlers = r.handlers) : r'.AreNew hs := by
  refine ⟨new.1, fun h hm => ?_⟩
  rw [get?, hh]
  exact new.2 h hm

/-- What was registered before is found as it was. -/
theorem AreNew.get?_foldl_put {r : Registry σ Id} {hs : List (Handler σ)} (new : r.AreNew hs)
    {id : String} {g : Handler σ} (hg : r.get? id = some g) :
    (hs.foldl put r).get? id = some g := by
  have hl : lastUnder id hs = none := by
    rw [lastUnder_eq_none_iff]
    rintro h hm rfl
    rw [new.2 h hm] at hg
    cases hg
  rw [Registry.get?_foldl_put, hl, Option.none_or, hg]

/-- New handlers leave the relations alone. -/
theorem AreNew.foldl_put_eq {r : Registry σ Id} {hs : List (Handler σ)} (new : r.AreNew hs) :
    hs.foldl put r = r.withHandlers (hs.foldl put r).handlers := by
  induction hs generalizing r with
  | nil => rfl
  | cons h hs ih =>
    obtain ⟨hn, hnew⟩ := new.of_cons
    have hput : r.put h = r.withHandlers (r.handlers.insert h.id h) := by
      have hd : r.dataSource? h.id = none := by rw [dataSource?, hn, Option.bind_none]
      unfold put
      rw [hd]
      rfl
    rw [List.foldl_cons, ih hnew, hput]
    rfl

theorem handlers_foldl_put_congr {r r' : Registry σ Id} (hh : r'.handlers = r.handlers)
    (hs : List (Handler σ)) : (hs.foldl put r').handlers = (hs.foldl put r).handlers := by
  induction hs generalizing r r' with
  | nil => exact hh
  | cons h hs ih => exact ih (by rw [handlers_put, handlers_put, hh])

/-! ## Deriving among more handlers -/

/-- What is derived for a registered id is derived all the same among more handlers. -/
theorem deriveFor_of_more_handlers {r r' : Registry σ Id} (standard : r.rules = .standard)
    {handlers : Std.ExtTreeMap String (Handler σ)}
    (more : ∀ (id : String) h, r.get? id = some h → handlers[id]? = some h) {id : String}
    (registered : r.get? id ≠ none) (h : (r.deriveFor id).run = .ok r') :
    ((r.withHandlers handlers).deriveFor id).run = .ok (r'.withHandlers handlers) := by
  obtain ⟨g, hg⟩ := Option.ne_none_iff_exists'.1 registered
  have hds : (r.withHandlers handlers).dataSource? id = r.dataSource? id := by
    rw [dataSource?, dataSource?, hg]
    exact congrArg (Option.bind · _) (more id g hg)
  unfold deriveFor at h ⊢
  rw [hds]
  cases hd : r.dataSource? id with
  | none =>
    rw [hd] at h
    cases h
    rfl
  | some d =>
    rw [hd] at h
    obtain ⟨derived, hdr, h⟩ := run_bind_eq_ok h
    cases h
    refine run_bind_eq_ok_iff.2 ⟨derived, ?_, rfl⟩
    rw [derive, standard] at hdr
    rw [derive, show (r.withHandlers handlers).rules = .standard from standard]
    refine Relations.derive_of_more_targets (fun k x hk => ?_) hdr
    obtain ⟨f, hf, hx⟩ := Option.bind_eq_some_iff.1 hk
    exact Option.bind_eq_some_iff.2 ⟨f, more k f hf, hx⟩

theorem foldlM_deriveFor_of_more_handlers {ids : List String} {r r' : Registry σ Id}
    (standard : r.rules = .standard) {handlers : Std.ExtTreeMap String (Handler σ)}
    (more : ∀ (id : String) h, r.get? id = some h → handlers[id]? = some h)
    (registered : ∀ id ∈ ids, r.get? id ≠ none) (h : (ids.foldlM deriveFor r).run = .ok r') :
    (ids.foldlM deriveFor (r.withHandlers handlers)).run = .ok (r'.withHandlers handlers) := by
  -- On the way the handlers stay, so what was registered in the beginning still is.
  have steps : ∃ c, (ids.foldlM deriveFor (r.withHandlers handlers)).run = .ok c ∧
      r'.handlers = r.handlers ∧ r'.rules = r.rules ∧ c = r'.withHandlers handlers := by
    refine exists_foldlM_of_steps
      (V := fun s c => s.handlers = r.handlers ∧ s.rules = r.rules ∧ c = s.withHandlers handlers)
      (fun id hid s c s' ⟨hh, hr, hc⟩ hs => ?_) ⟨rfl, rfl, rfl⟩ h
    obtain ⟨hh', hr', -⟩ := deriveFor_eq_ok hs
    have hget : s.get? = r.get? := by
      funext k
      rw [get?, get?, hh]
    have hc' := deriveFor_of_more_handlers (hr.trans standard) (hget ▸ more)
      (hget ▸ registered id hid) hs
    exact ⟨s'.withHandlers handlers, hc ▸ hc', hh'.trans hh, hr'.trans hr, rfl⟩
  obtain ⟨c, hc, -, -, rfl⟩ := steps
  exact hc

/-! ## Batches at once -/

theorem AreNew.extend_eq {r : Registry σ Id} {hs : List (Handler σ)} (new : r.AreNew hs) :
    r.extend hs = (hs.map (·.id)).foldlM deriveFor (hs.foldl put r) := by
  rw [extend, distinct_of_nodup new.1]

theorem AreNew.of_extend {r mid : Registry σ Id} {first second : List (Handler σ)}
    (new : r.AreNew (first ++ second)) (h : (r.extend first).run = .ok mid) :
    mid.AreNew second :=
  new.of_append.congr (extend_eq_ok h).1

/-- Two batches of new handlers at once lead where they lead one after the other. -/
theorem extend_append {r mid s : Registry σ Id} (standard : r.rules = .standard)
    {first second : List (Handler σ)} (new : r.AreNew (first ++ second))
    (h : (r.extend first).run = .ok mid) (h' : (mid.extend second).run = .ok s) :
    (r.extend (first ++ second)).run = .ok s := by
  have later := new.of_append
  have hmid : mid.AreNew second := new.of_extend h
  -- Among all handlers, the first ids lead from the first registry to the one the second batch
  -- starts to derive from.
  have hput : (first ++ second).foldl put r =
      (first.foldl put r).withHandlers (second.foldl put (first.foldl put r)).handlers := by
    rw [List.foldl_append]
    exact later.foldl_put_eq
  have hnext : second.foldl put mid =
      mid.withHandlers (second.foldl put (first.foldl put r)).handlers := by
    rw [hmid.foldl_put_eq, handlers_foldl_put_congr (extend_eq_ok h).1]
  rw [new.of_append_left.extend_eq] at h
  rw [hmid.extend_eq, hnext] at h'
  rw [new.extend_eq, List.map_append, List.foldlM_append, run_bind_eq_ok_iff, hput]
  refine ⟨_, foldlM_deriveFor_of_more_handlers ((rules_foldl_put r first).trans standard)
    (fun id g hg => later.get?_foldl_put hg) (fun id hid => ?_) h, h'⟩
  rw [get?_foldl_put]
  exact fun hn => mem_map_id_iff.1 hid (Option.or_eq_none_iff.1 hn).1

/-- A list of new handlers is cut into batches, and these are put in one after the other: where each
of them succeeds, so does the whole list at once, and leads to the same registry. -/
theorem extend_of_cut {r s : Registry σ Id} (standard : r.rules = .standard)
    {hs : List (Handler σ)} (new : r.AreNew hs) {batches : List (List (Handler σ))}
    (cut : batches.flatten = hs) (h : (batches.foldlM extend r).run = .ok s) :
    (r.extend hs).run = .ok s := by
  subst cut
  induction batches generalizing r with
  | nil =>
    cases h
    rfl
  | cons batch batches ih =>
    rw [List.foldlM_cons] at h
    obtain ⟨mid, hm, h⟩ := run_bind_eq_ok h
    have hmid := ih ((extend_eq_ok hm).2.1.trans standard) h (new.of_extend hm)
    exact extend_append standard new hm hmid

/-- Customers. -/
def market : List (Handler Unit) :=
  [.ofDataSource ⟨"customers", [.new "id", .new "name"], []⟩ none]

/-- Batches of handlers that bear customers under ids of their own, the later one after a batch of
none and referring to the earlier one. -/
def fair : List (List (Handler Unit)) :=
  [[⟨"clients", some ⟨"customers", [.new "id"], []⟩, fun _ => return .empty⟩],
    [],
    [⟨"buyers", some ⟨"customers", [.new "id", ⟨"patron", some "clients.id", none⟩], []⟩,
        fun _ => return .empty⟩,
      .ofDataSource ⟨"orders", [⟨"buyer", some "buyers.id", none⟩], []⟩ none]]

theorem fair_extend_of_cut :
    ∃ r s : Registry Unit Id, ((empty .standard : Registry Unit Id).extend market).run = .ok r ∧
      r.AreNew fair.flatten ∧ (fair.foldlM extend r).run = .ok s ∧
      (r.extend fair.flatten).run = .ok s := by
  obtain ⟨r, s, hr, hs, hrules, hclients, hbuyers, horders⟩ : ∃ r s : Registry Unit Id,
      ((empty .standard : Registry Unit Id).extend market).run = .ok r ∧
        (fair.foldlM extend r).run = .ok s ∧ r.rules = .standard ∧ r.get? "clients" = none ∧
        r.get? "buyers" = none ∧ r.get? "orders" = none := ⟨_, _, rfl, rfl, rfl, rfl, rfl, rfl⟩
  have new : r.AreNew fair.flatten :=
    ⟨by decide, by simp [fair, Handler.ofDataSource, hclients, hbuyers, horders]⟩
  exact ⟨r, s, hr, new, hs, extend_of_cut hrules new rfl hs⟩

/-- Orders that come a batch before the customers they refer to come too early. -/
example :
    let orders : Handler Unit :=
      .ofDataSource ⟨"orders", [⟨"customer", some "customers.id", none⟩], []⟩ none
    let customers : Handler Unit := .ofDataSource ⟨"customers", [.new "id"], []⟩ none
    let start : Registry Unit Id := empty .standard
    (∃ s, (start.extend [orders, customers]).run = .ok s) ∧
      ∃ e, ([[orders], [customers]].foldlM extend start).run = .error e :=
  ⟨⟨_, rfl⟩, _, rfl⟩

end Registry

end Switchboard
