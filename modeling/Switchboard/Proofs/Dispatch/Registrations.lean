import Switchboard.Proofs.Dispatch.NameIndex

/-!
# Registrations from many places

An application collects registrations in whatever order they come. A name that is met once is
registered, one that is met again is contested, and stays so however often it is met: so what the
register answers depends on how often each name was registered, and not on the order.

* `namesOf_congr`, `size_congr`: the names of types and the size follow from the tables.
* `Collects`: what a register tells of the registrations it was collected from.
* `Collects.register`, `collects_ofRegistrations`: what one registration keeps of that, and so every
  collection.
* `ofRegistrations_of_perm`: the answers of a register, whatever the order of the registrations.
-/

namespace Switchboard

open Std (ExtTreeMap ExtTreeSet)

variable {σ : Type}

namespace TypeRegister

/-! ## What follows from the tables -/

/-- The names of a type follow from the types of the tables. -/
theorem namesOf_congr {r r' : TypeRegister σ} (hr : r.IsIndexed) (hr' : r'.IsIndexed)
    (h : ∀ name, (r'.get? name).map (·.type) = (r.get? name).map (·.type)) (type : TypeId) :
    r'.namesOf type = r.namesOf type := by
  have hn : r'.names.namesOf type = r.names.namesOf type := by
    refine ExtTreeSet.ext_mem fun name => ?_
    rw [hr, hr', ← Option.map_eq_some_iff, ← Option.map_eq_some_iff, h]
  rw [namesOf, namesOf, hn]

theorem size_congr {r r' : TypeRegister σ} (h : ∀ name, r'.get? name = r.get? name) :
    r'.size = r.size := by
  have ht : r'.tables = r.tables := ExtTreeMap.ext_getElem? fun {name} => h name
  rw [size, size, ht]

/-! ## Collecting -/

/-- The registrations of a name, in their order. -/
def registrationsOf (ts : List (TypeTable σ)) (name : String) : List (TypeTable σ) :=
  ts.filter (·.name = name)

theorem registrationsOf_concat (ts : List (TypeTable σ)) (t : TypeTable σ) (name : String) :
    registrationsOf (ts ++ [t]) name =
      if t.name = name then registrationsOf ts name ++ [t] else registrationsOf ts name := by
  by_cases h : t.name = name <;> simp [registrationsOf, h]

/-- How often a name was registered. -/
theorem count_eq_length_registrationsOf (ts : List (TypeTable σ)) (name : String) :
    (ts.map (·.name)).count name = (registrationsOf ts name).length := by
  rw [List.count, List.countP_map, List.countP_eq_length_filter, registrationsOf]
  rfl

/-- A register holds the table of every name that was registered once, and the names that were
registered more than once are contested. -/
structure Collects (ts : List (TypeTable σ)) (r : TypeRegister σ) : Prop where
  get?_iff : ∀ name t, r.get? name = some t ↔ registrationsOf ts name = [t]
  contested_iff : ∀ name, r.isContested name = true ↔ 2 ≤ (registrationsOf ts name).length

theorem collects_empty : Collects [] (empty : TypeRegister σ) where
  get?_iff name t := by simp [empty, get?, registrationsOf]
  contested_iff name := by simp [empty, isContested, registrationsOf]

/-- A registration decides over its own name, by whether the name was registered before. -/
theorem Collects.concat {ts : List (TypeTable σ)} {r r' : TypeRegister σ} (h : Collects ts r)
    {t : TypeTable σ}
    (others : ∀ n, t.name ≠ n → r'.get? n = r.get? n ∧ r'.isContested n = r.isContested n)
    (first : registrationsOf ts t.name = [] →
      r'.get? t.name = some t ∧ r'.isContested t.name = false)
    (again : registrationsOf ts t.name ≠ [] →
      r'.get? t.name = none ∧ r'.isContested t.name = true) :
    Collects (ts ++ [t]) r' := by
  have own : ∀ u, r'.get? t.name = some u ↔ registrationsOf ts t.name ++ [t] = [u] := by
    intro u
    by_cases hn : registrationsOf ts t.name = []
    · simp [hn, (first hn).1]
    · simp [hn, (again hn).1, List.append_eq_singleton_iff]
  have met : r'.isContested t.name = true ↔ 2 ≤ (registrationsOf ts t.name ++ [t]).length := by
    by_cases hn : registrationsOf ts t.name = []
    · simp [hn, (first hn).2]
    · simp [(again hn).2, Nat.one_le_iff_ne_zero, hn]
  refine ⟨fun n u => ?_, fun n => ?_⟩ <;> rw [registrationsOf_concat] <;> split
  · next hn => exact hn ▸ own u
  · next hn => rw [(others n hn).1, h.get?_iff]
  · next hn => exact hn ▸ met
  · next hn => rw [(others n hn).2, h.contested_iff]

@[simp] theorem isContested_insert (r : TypeRegister σ) (t : TypeTable σ) (n : String) :
    (r.insert t).isContested n = if t.name = n then false else r.isContested n := by
  have hc : (r.insert t).contested = (r.erase t.name).contested.erase t.name := rfl
  rw [isContested, hc, ExtTreeSet.contains_erase, ← isContested_erase r t.name, isContested]
  split <;> simp_all

/-- A name that was met before is contested from now on. -/
theorem contains_contest (r : TypeRegister σ) (name n : String) :
    (r.contested.insert name).contains n = if name = n then true else r.isContested n := by
  rw [ExtTreeSet.contains_insert, isContested]
  split <;> simp_all

theorem Collects.register {ts : List (TypeTable σ)} {r : TypeRegister σ} (h : Collects ts r)
    (t : TypeTable σ) : Collects (ts ++ [t]) (r.register t) := by
  rw [TypeRegister.register]
  split
  · next hc =>
    -- Met for the third time or a later one.
    have two := (h.contested_iff t.name).1 hc
    refine h.concat (fun n _ => ⟨rfl, rfl⟩) (fun hn => ?_) (fun _ => ⟨?_, hc⟩)
    · simp [hn] at two
    · refine Option.eq_none_iff_forall_ne_some.2 fun u hu => ?_
      simp [(h.get?_iff t.name u).1 hu] at two
  · next hc =>
    split
    · next hm =>
      -- Met for the second time.
      obtain ⟨u, hu⟩ : ∃ u, r.get? t.name = some u :=
        Option.isSome_iff_exists.1 (by rwa [get?, ExtTreeMap.isSome_getElem?_eq_contains])
      refine h.concat (fun n hn => ⟨?_, ?_⟩) (fun hn => ?_) (fun _ => ⟨?_, ?_⟩)
      · show (r.erase t.name).get? n = r.get? n
        rw [get?_erase, if_neg hn]
      · exact (r.contains_contest t.name n).trans (if_neg hn)
      · rw [(h.get?_iff t.name u).1 hu] at hn
        cases hn
      · show (r.erase t.name).get? t.name = none
        rw [get?_erase, if_pos rfl]
      · exact (r.contains_contest t.name t.name).trans (if_pos rfl)
    · next hm =>
      refine h.concat (fun n hn => ⟨?_, ?_⟩) (fun _ => ⟨?_, ?_⟩) (fun hn => ?_)
      · rw [get?_insert, if_neg hn]
      · rw [isContested_insert, if_neg hn]
      · rw [get?_insert, if_pos rfl]
      · rw [isContested_insert, if_pos rfl]
      · -- One registration would have left a table, and two or more a contested name.
        refine absurd ?_ hm
        cases hl : registrationsOf ts t.name with
        | nil => exact absurd hl hn
        | cons u us =>
          cases us with
          | nil =>
            rw [← ExtTreeMap.isSome_getElem?_eq_contains]
            exact Option.isSome_iff_exists.2 ⟨u, (h.get?_iff t.name u).2 hl⟩
          | cons v us => exact absurd ((h.contested_iff t.name).2 (by simp [hl])) hc

theorem Collects.foldl_register {before : List (TypeTable σ)} {r : TypeRegister σ}
    (h : Collects before r) (ts : List (TypeTable σ)) :
    Collects (before ++ ts) (ts.foldl TypeRegister.register r) := by
  induction ts generalizing before r with
  | nil => rwa [List.append_nil]
  | cons t ts ih =>
    rw [List.append_cons]
    exact ih (h.register t)

theorem collects_ofRegistrations (ts : List (TypeTable σ)) : Collects ts (ofRegistrations ts) :=
  collects_empty.foldl_register ts

/-! ## The order of registrations -/

theorem perm_registrationsOf {ts ts' : List (TypeTable σ)} (h : ts.Perm ts') (name : String) :
    (registrationsOf ts name).Perm (registrationsOf ts' name) :=
  h.filter _

theorem get?_ofRegistrations_of_perm {ts ts' : List (TypeTable σ)} (h : ts.Perm ts')
    (name : String) : (ofRegistrations ts').get? name = (ofRegistrations ts).get? name := by
  have hp := perm_registrationsOf h name
  refine Option.ext fun t => ?_
  rw [(collects_ofRegistrations ts').get?_iff, (collects_ofRegistrations ts).get?_iff]
  exact ⟨fun ht => List.perm_singleton.1 (ht ▸ hp), fun ht => List.perm_singleton.1 (ht ▸ hp.symm)⟩

theorem isContested_ofRegistrations_of_perm {ts ts' : List (TypeTable σ)} (h : ts.Perm ts')
    (name : String) :
    (ofRegistrations ts').isContested name = (ofRegistrations ts).isContested name := by
  rw [Bool.eq_iff_iff, (collects_ofRegistrations ts').contested_iff,
    (collects_ofRegistrations ts).contested_iff, (perm_registrationsOf h name).length_eq]

/-- A register of registrations answers alike whatever their order: the names that were registered
once are those that a table stands under, namely the one registered; the names that were registered
more than once are contested, and no further registration changes that. -/
theorem ofRegistrations_of_perm {ts ts' : List (TypeTable σ)} (h : ts.Perm ts') :
    ((∀ name, (ofRegistrations ts').get? name = (ofRegistrations ts).get? name) ∧
      (∀ type, (ofRegistrations ts').namesOf type = (ofRegistrations ts).namesOf type) ∧
      (∀ name,
        (ofRegistrations ts').isContested name = (ofRegistrations ts).isContested name) ∧
      (ofRegistrations ts').size = (ofRegistrations ts).size) ∧
    (∀ name, ((∃ t, (ofRegistrations ts).get? name = some t) ↔ (ts.map (·.name)).count name = 1) ∧
      ∀ t, (ofRegistrations ts).get? name = some t → t ∈ ts ∧ t.name = name) ∧
    (∀ name, (ofRegistrations ts).isContested name = true ↔ 2 ≤ (ts.map (·.name)).count name) ∧
    ∀ name more, 2 ≤ (ts.map (·.name)).count name →
      (ofRegistrations (ts ++ more)).get? name = none ∧
        (ofRegistrations (ts ++ more)).isContested name = true := by
  have collected := collects_ofRegistrations ts
  refine ⟨⟨get?_ofRegistrations_of_perm h, fun type => ?_, isContested_ofRegistrations_of_perm h,
    size_congr (get?_ofRegistrations_of_perm h)⟩, fun name => ⟨?_, fun t ht => ?_⟩, fun name => ?_,
    fun name more two => ?_⟩
  · refine namesOf_congr (Reachable.ofRegistrations ts).isIndexed
      (Reachable.ofRegistrations ts').isIndexed (fun name => ?_) type
    rw [get?_ofRegistrations_of_perm h]
  · rw [count_eq_length_registrationsOf, List.length_eq_one_iff]
    exact exists_congr (collected.get?_iff name)
  · have ht : t ∈ registrationsOf ts name := by
      rw [(collected.get?_iff name t).1 ht]
      exact List.mem_singleton_self t
    simpa [registrationsOf] using ht
  · rw [count_eq_length_registrationsOf]
    exact collected.contested_iff name
  · have hc : (ofRegistrations (ts ++ more)).isContested name = true := by
      rw [(collects_ofRegistrations _).contested_iff, ← count_eq_length_registrationsOf,
        List.map_append, List.count_append]
      omega
    exact ⟨(Reachable.ofRegistrations _).isConsistent.uncontested name hc, hc⟩

/-- Screws from three places, and a nut. -/
def fasteners : List (TypeTable Unit) :=
  [⟨"screw", "Screw", none, []⟩, ⟨"nut", "Nut", none, []⟩, ⟨"screw", "Nut", none, []⟩,
    ⟨"screw", "Screw", none, []⟩]

theorem fasteners_ofRegistrations_of_perm :
    fasteners.Perm fasteners.reverse ∧
      (ofRegistrations fasteners.reverse).get? "screw" = none ∧
      (ofRegistrations fasteners.reverse).namesOf "Nut" = ["nut"] := by
  have perm : fasteners.Perm fasteners.reverse := (List.reverse_perm fasteners).symm
  obtain ⟨⟨get?, names, -, -⟩, -, -, never⟩ := ofRegistrations_of_perm perm
  refine ⟨perm, (get? "screw").trans (never "screw" [] (by decide)).1, (names "Nut").trans rfl⟩

end TypeRegister

end Switchboard
