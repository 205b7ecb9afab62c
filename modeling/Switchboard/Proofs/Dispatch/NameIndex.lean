import Mathlib.Data.List.Sort
import Switchboard.Dispatch.TypeRegister

/-!
# The names of a type

A register knows its tables by name, and beside them the names of each type. The two are updated
apart from each other: a table that comes in adds a name to its type, one that gives way takes its
name from the type it had, and a contested name loses its table. They agree in every register that
registrations and insertions lead to.

The names of a type are a row in order: a name that comes in is placed in front of the first one
behind it, and one that goes is left out.

* `toList_insert`, `toList_erase`: the row after a name comes in or goes.
* `namesOf_erase`, `namesOf_insert`: the rows of all types after a table gives way or comes in.
* `mem_namesOf_add`, `mem_namesOf_drop`: what adding and dropping a name changes.
* `IsIndexed`: the names of a type are those of the tables that have the type.
* `Reachable.isIndexed`: every register that can come about is indexed.
* `IsConsistent`: beside that, no type is kept without names, and no table has a contested name.
* `Reachable.names_consistent`: what a register that can come about tells of names and types.
-/

namespace Switchboard

open Std (ExtTreeMap ExtTreeSet)

variable {σ : Type}

namespace NameIndex

/-! ## Names in a row -/

/-- A row of names with one more, in front of the first name behind it. -/
def place (names : List String) (name : String) : List String :=
  if name ∈ names then names else names.orderedInsert (· ≤ ·) name

theorem pairwise_toList (names : ExtTreeSet String) : names.toList.Pairwise (· < ·) :=
  (ExtTreeSet.ordered_toList (t := names)).imp compareOfLessAndEq_eq_lt.1

theorem toList_insert (names : ExtTreeSet String) (name : String) :
    (names.insert name).toList = place names.toList name := by
  have hmem : ∀ n, n ∈ (names.insert name).toList ↔ n = name ∨ n ∈ names.toList := by
    intro n
    rw [ExtTreeSet.mem_toList, ExtTreeSet.mem_toList, ExtTreeSet.mem_insert,
      Std.LawfulEqCmp.compare_eq_iff_eq, eq_comm]
  rw [place]
  split
  · next h =>
    refine (pairwise_toList _).eq_of_mem_iff (pairwise_toList _) fun n => ?_
    rw [hmem]
    exact or_iff_right_of_imp fun he => he ▸ h
  · next h =>
    have nodup : ∀ ns : ExtTreeSet String, ns.toList.Nodup := fun ns => (pairwise_toList ns).nodup
    have ordered : ∀ ns : ExtTreeSet String, ns.toList.Pairwise (· ≤ ·) := fun ns =>
      (pairwise_toList ns).imp Std.le_of_lt
    have hperm : (names.insert name).toList.Perm (name :: names.toList) :=
      (List.perm_ext_iff_of_nodup (nodup _) (List.nodup_cons.2 ⟨h, nodup _⟩)).2 fun n => by
        rw [hmem, List.mem_cons]
    exact (hperm.trans (List.perm_orderedInsert _ _ _).symm).eq_of_pairwise' (ordered _)
      ((ordered names).orderedInsert _ _)

theorem toList_erase (names : ExtTreeSet String) (name : String) :
    (names.erase name).toList = names.toList.filter (· ≠ name) := by
  refine (pairwise_toList _).eq_of_mem_iff ((pairwise_toList _).filter _) fun n => ?_
  rw [ExtTreeSet.mem_toList, ExtTreeSet.mem_erase, Ne, Std.LawfulEqCmp.compare_eq_iff_eq,
    List.mem_filter, ExtTreeSet.mem_toList, decide_eq_true_eq, and_comm, eq_comm]

/-! ## Names of a type -/

@[simp] theorem namesOf_insert (index : NameIndex) (type : TypeId) (names : ExtTreeSet String)
    (t : TypeId) :
    namesOf (ExtTreeMap.insert index type names) t =
      if type = t then names else index.namesOf t := by
  rw [namesOf, Names.getElem?_insert]
  split <;> rfl

@[simp] theorem mem_namesOf_add (index : NameIndex) (type : TypeId) (name : String) {t : TypeId}
    {n : String} :
    n ∈ (index.add type name).namesOf t ↔ (type = t ∧ name = n) ∨ n ∈ index.namesOf t := by
  rw [add, namesOf_insert]
  split
  · next h =>
    subst h
    rw [ExtTreeSet.mem_insert, Std.LawfulEqCmp.compare_eq_iff_eq]
    simp
  · next h => simp [h]

@[simp] theorem namesOf_drop (index : NameIndex) (type : TypeId) (name : String) (t : TypeId) :
    (index.drop type name).namesOf t =
      if type = t then (index.namesOf t).erase name else index.namesOf t := by
  rw [drop]
  split
  · -- A type without names is not kept, so it has the empty set of names.
    next h =>
    rw [namesOf, Names.getElem?_erase]
    split
    · next ht =>
      subst ht
      exact (ExtTreeSet.isEmpty_iff.1 h).symm
    · rfl
  · rw [namesOf_insert]
    split
    · next ht => rw [ht]
    · rfl

@[simp] theorem mem_namesOf_drop (index : NameIndex) (type : TypeId) (name : String) {t : TypeId}
    {n : String} :
    n ∈ (index.drop type name).namesOf t ↔ n ∈ index.namesOf t ∧ ¬ (type = t ∧ name = n) := by
  rw [namesOf_drop]
  split
  · next h =>
    rw [ExtTreeSet.mem_erase, Ne, Std.LawfulEqCmp.compare_eq_iff_eq]
    simp [h, and_comm]
  · next h => simp [h]

/-- Every type that is kept has a name. -/
def HasNames (index : NameIndex) : Prop := ∀ type : TypeId, index[type]? ≠ some ∅

theorem HasNames.add {index : NameIndex} (h : index.HasNames) (type : TypeId) (name : String) :
    (index.add type name).HasNames := by
  intro t ht
  rw [NameIndex.add, Names.getElem?_insert] at ht
  split at ht
  · have hn : name ∈ (∅ : ExtTreeSet String) := by
      rw [← Option.some.inj ht]
      exact ExtTreeSet.mem_insert_self
    exact ExtTreeSet.not_mem_empty hn
  · exact h t ht

theorem HasNames.drop {index : NameIndex} (h : index.HasNames) (type : TypeId) (name : String) :
    (index.drop type name).HasNames := by
  intro t ht
  rw [NameIndex.drop] at ht
  split at ht
  · rw [Names.getElem?_erase] at ht
    split at ht
    · cases ht
    · exact h t ht
  · next hne =>
    rw [Names.getElem?_insert] at ht
    split at ht
    · exact hne (ExtTreeSet.isEmpty_iff.2 (Option.some.inj ht))
    · exact h t ht

end NameIndex

namespace TypeRegister

/-- A register that registrations from many places, and insertions after them, lead to. -/
inductive Reachable : TypeRegister σ → Prop where
  | empty : Reachable empty
  | ofRegistrations (ts : List (TypeTable σ)) : Reachable (ofRegistrations ts)
  | insert {r : TypeRegister σ} (t : TypeTable σ) : Reachable r → Reachable (r.insert t)

/-- The names of a type are those under which a table of the type stands. -/
def IsIndexed (r : TypeRegister σ) : Prop :=
  ∀ type name, name ∈ r.names.namesOf type ↔ ∃ t, r.get? name = some t ∧ t.type = type

@[simp] theorem get?_erase (r : TypeRegister σ) (name n : String) :
    (r.erase name).get? n = if name = n then none else r.get? n := by
  rw [get?, tables_erase, Names.getElem?_erase]
  rfl

/-- The name of a table that gives way is left out of the row of its type. -/
theorem namesOf_erase (r : TypeRegister σ) (name : String) (type : TypeId) :
    (r.erase name).namesOf type =
      if (r.get? name).map (·.type) = some type then (r.namesOf type).filter (· ≠ name)
      else r.namesOf type := by
  rw [erase, get?]
  cases r.tables[name]? with
  | none => rfl
  | some t =>
    simp only [namesOf, NameIndex.namesOf_drop, Option.map_some, Option.some.injEq]
    split
    · exact NameIndex.toList_erase _ name
    · rfl

/-- The name of a table that comes in is placed in the row of its type, after a table of the name has
given way. -/
theorem namesOf_insert (r : TypeRegister σ) (t : TypeTable σ) (type : TypeId) :
    (r.insert t).namesOf type =
      if t.type = type then NameIndex.place ((r.erase t.name).namesOf type) t.name
      else (r.erase t.name).namesOf type := by
  simp only [namesOf, insert, NameIndex.add, NameIndex.namesOf_insert]
  split
  · next h => rw [NameIndex.toList_insert, h]
  · rfl

theorem isIndexed_empty : (empty : TypeRegister σ).IsIndexed := by
  intro type name
  simp [empty, get?, NameIndex.namesOf]

theorem IsIndexed.erase {r : TypeRegister σ} (h : r.IsIndexed) (name : String) :
    (r.erase name).IsIndexed := by
  intro type n
  rw [get?_erase]
  cases ht : r.tables[name]? with
  | none =>
    have hr : r.erase name = r := by rw [TypeRegister.erase, ht]
    rw [hr, h]
    split
    · next hn =>
      subst hn
      simp [get?, ht]
    · rfl
  | some t =>
    have hn : (r.erase name).names = r.names.drop t.type name := by
      rw [TypeRegister.erase, ht]
    rw [hn, NameIndex.mem_namesOf_drop, h]
    split
    · next hn =>
      subst hn
      simp [get?, ht]
    · next hn => simp [hn]

theorem IsIndexed.insert {r : TypeRegister σ} (h : r.IsIndexed) (t : TypeTable σ) :
    (r.insert t).IsIndexed := by
  intro type n
  have hn : (r.insert t).names = (r.erase t.name).names.add t.type t.name := rfl
  rw [hn, NameIndex.mem_namesOf_add, h.erase, get?_insert, get?_erase]
  by_cases ht : t.name = n <;> simp [ht]

theorem IsIndexed.register {r : TypeRegister σ} (h : r.IsIndexed) (t : TypeTable σ) :
    (r.register t).IsIndexed := by
  rw [TypeRegister.register]
  split
  · exact h
  · split
    · exact h.erase t.name
    · exact h.insert t

theorem IsIndexed.foldl_register {r : TypeRegister σ} (h : r.IsIndexed)
    (ts : List (TypeTable σ)) : (ts.foldl TypeRegister.register r).IsIndexed := by
  induction ts generalizing r with
  | nil => exact h
  | cons t ts ih => exact ih (h.register t)

theorem Reachable.isIndexed {r : TypeRegister σ} (h : r.Reachable) : r.IsIndexed := by
  induction h with
  | empty => exact isIndexed_empty
  | ofRegistrations ts => exact isIndexed_empty.foldl_register ts
  | insert t _ ih => exact ih.insert t

/-! ## Types without names, and contested names -/

/-- The tables, the names of the types and the contested names fit together. -/
structure IsConsistent (r : TypeRegister σ) : Prop where
  indexed : r.IsIndexed
  hasNames : r.names.HasNames
  uncontested : ∀ name, r.isContested name = true → r.get? name = none

theorem isConsistent_empty : (empty : TypeRegister σ).IsConsistent where
  indexed := isIndexed_empty
  hasNames type := by simp [empty]
  uncontested name _ := by simp [empty, get?]

@[simp] theorem isContested_erase (r : TypeRegister σ) (name n : String) :
    (r.erase name).isContested n = r.isContested n := by
  unfold erase
  split <;> rfl

theorem hasNames_erase {r : TypeRegister σ} (h : r.names.HasNames) (name : String) :
    (r.erase name).names.HasNames := by
  unfold erase
  split
  · exact h
  · next t _ => exact h.drop t.type name

theorem IsConsistent.erase {r : TypeRegister σ} (h : r.IsConsistent) (name : String) :
    (r.erase name).IsConsistent where
  indexed := h.indexed.erase name
  hasNames := hasNames_erase h.hasNames name
  uncontested n hn := by
    rw [isContested_erase] at hn
    rw [get?_erase, h.uncontested n hn, ite_self]

theorem IsConsistent.insert {r : TypeRegister σ} (h : r.IsConsistent) (t : TypeTable σ) :
    (r.insert t).IsConsistent where
  indexed := h.indexed.insert t
  hasNames := (hasNames_erase h.hasNames t.name).add t.type t.name
  uncontested n hn := by
    -- The table's own name is contested no longer, and it is the only new one.
    have hc : n ∈ (r.erase t.name).contested.erase t.name := ExtTreeSet.contains_iff_mem.1 hn
    rw [ExtTreeSet.mem_erase, Ne, Std.LawfulEqCmp.compare_eq_iff_eq] at hc
    rw [get?_insert, if_neg hc.1]
    refine h.uncontested n ?_
    rw [← isContested_erase r t.name]
    exact ExtTreeSet.contains_iff_mem.2 hc.2

theorem IsConsistent.register {r : TypeRegister σ} (h : r.IsConsistent) (t : TypeTable σ) :
    (r.register t).IsConsistent := by
  rw [TypeRegister.register]
  split
  · exact h
  · split
    · have he := h.erase t.name
      refine ⟨he.indexed, he.hasNames, fun n hn => ?_⟩
      show (r.erase t.name).get? n = none
      have hc : n ∈ r.contested.insert t.name := ExtTreeSet.contains_iff_mem.1 hn
      rw [ExtTreeSet.mem_insert, Std.LawfulEqCmp.compare_eq_iff_eq] at hc
      rcases hc with rfl | hc
      · rw [get?_erase, if_pos rfl]
      · refine he.uncontested n ?_
        rw [isContested_erase]
        exact ExtTreeSet.contains_iff_mem.2 hc
    · exact h.insert t

theorem Reachable.isConsistent {r : TypeRegister σ} (h : r.Reachable) : r.IsConsistent := by
  induction h with
  | empty => exact isConsistent_empty
  | ofRegistrations ts =>
    exact List.foldlRecOn ts TypeRegister.register isConsistent_empty fun _ hr t _ => hr.register t
  | insert t _ ih => exact ih.insert t

/-- The names of a type are in order, each once. -/
theorem pairwise_namesOf (r : TypeRegister σ) (type : TypeId) :
    (r.namesOf type).Pairwise (· < ·) :=
  NameIndex.pairwise_toList _

/-- However a register comes about, the names of a type are exactly those that a table of the type
stands under, in order and each once; no type is kept without names; and no table stands under a
contested name. -/
theorem Reachable.names_consistent {r : TypeRegister σ} (h : r.Reachable) :
    (∀ type, (r.namesOf type).Pairwise (· < ·) ∧
      ∀ name, name ∈ r.namesOf type ↔ ∃ t, r.get? name = some t ∧ t.type = type) ∧
    (∀ type : TypeId, r.names[type]? ≠ some ∅) ∧
    ∀ name, ¬ (r.isContested name = true ∧ (r.get? name).isSome = true) := by
  have hc := h.isConsistent
  refine ⟨fun type => ⟨r.pairwise_namesOf type, fun name => ?_⟩, hc.hasNames, ?_⟩
  · rw [namesOf, ExtTreeSet.mem_toList]
    exact hc.indexed type name
  · rintro name ⟨hn, hs⟩
    rw [hc.uncontested name hn] at hs
    cases hs

/-- Gears and two contested screws, from many places; then a screw is put in after all, and a gear
gives way to one of the screw's type. -/
def toolbox : TypeRegister Unit :=
  ((ofRegistrations [⟨"gear", "Gear", none, []⟩, ⟨"screw", "Screw", none, []⟩,
      ⟨"cog", "Gear", none, []⟩, ⟨"screw", "Gear", none, []⟩, ⟨"nut", "Nut", none, []⟩,
      ⟨"nut", "Nut", none, []⟩]).insert
    ⟨"screw", "Screw", none, []⟩).insert ⟨"gear", "Screw", none, []⟩

theorem toolbox_names_consistent :
    toolbox.Reachable ∧ "gear" ∈ toolbox.namesOf "Screw" ∧ "gear" ∉ toolbox.namesOf "Gear" ∧
      toolbox.isContested "nut" = true ∧ toolbox.get? "nut" = none := by
  have reachable : toolbox.Reachable := .insert _ (.insert _ (.ofRegistrations _))
  obtain ⟨names, -, contested⟩ := reachable.names_consistent
  refine ⟨reachable, ((names "Screw").2 "gear").2 ⟨_, rfl, rfl⟩, fun h => ?_, rfl, ?_⟩
  · obtain ⟨t, ht, hg⟩ := ((names "Gear").2 "gear").1 h
    cases ht
    exact absurd hg (by decide)
  · exact Option.not_isSome_iff_eq_none.1 fun h => contested "nut" ⟨rfl, h⟩

end TypeRegister

end Switchboard
