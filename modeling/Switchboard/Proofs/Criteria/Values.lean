import Switchboard.Proofs.Criteria.RoundTrip

/-!
# Filters as values

A template sees a filter as a value. That of a tree of conditions lacks the mark, yet the tree can
be told from it: unlike a condition that is read, a value tells null from absence, and it has every
other part of every node.

* `exists_normalize?_write`: every condition stands for a value.
* `normalize?_write_inj`: different conditions stand for different values.
* `Criteria.toValue_advanced_inj`: trees that are filters are known by their values.
-/

namespace Switchboard

open Json (find? normalize? normalizeItems?)

namespace Condition

theorem exists_normalize?_write (c : Condition) : ∃ v, normalize? c.write = some v := by
  obtain ⟨v, hv, -⟩ := (readsNormal c.write).1 _ (read_write c)
  exact ⟨v, hv⟩

theorem exists_normalizeItems?_writeNested (cs : List Condition) :
    ∃ vs, normalizeItems? (writeNested cs) = some vs := by
  refine Json.exists_normalizeItems?_iff.2 fun j hj => ?_
  rw [writeNested_eq_map] at hj
  obtain ⟨c, -, rfl⟩ := List.mem_map.1 hj
  exact exists_normalize?_write c

/-- Conditions in a row are known by their values, if each of them is. -/
theorem eq_of_map_normalize?_write {cs ds : List Condition}
    (hc : ∀ c ∈ cs, ∀ d : Condition, normalize? c.write = normalize? d.write → c = d)
    (h : (cs.map write).map normalize? = (ds.map write).map normalize?) : cs = ds := by
  induction cs generalizing ds with
  | nil => simpa using h
  | cons c cs ih =>
    obtain ⟨hfirst, hrest⟩ := List.forall_mem_cons.1 hc
    cases ds with
    | nil => cases h
    | cons d ds =>
      obtain ⟨hd, hds⟩ := List.cons.inj h
      rw [hfirst d hd, ih hrest hds]

@[simp] theorem bind_normalize?_field (s : Option String) :
    (s.map Json.string).bind normalize? = s.map .string := by
  cases s <;> rfl

@[simp] theorem bind_normalize?_value (v : Option Value) :
    (v.map Value.json).bind normalize? = v.map Value.json := by
  cases v with
  | none => rfl
  | some v => exact Json.normalize?_of_canonical v.canonical

/-- The list of conditions in a node, which is only there if it has any. -/
theorem writeNested_inj {cs ds : List Condition}
    (hc : ∀ c ∈ cs, ∀ d : Condition, normalize? c.write = normalize? d.write → c = d)
    (h : (if cs = [] then none else some (Json.list (writeNested cs))).bind normalize? =
      (if ds = [] then none else some (Json.list (writeNested ds))).bind normalize?) : cs = ds := by
  have given (cs : List Condition) (hne : cs ≠ []) :
      ∃ vs, (if cs = [] then none else some (Json.list (writeNested cs))).bind normalize? =
        some (.list vs) ∧ normalizeItems? (writeNested cs) = some vs := by
    obtain ⟨vs, hvs⟩ := exists_normalizeItems?_writeNested cs
    exact ⟨vs, by rw [if_neg hne, Option.bind_some, normalize?, hvs, Option.map_some], hvs⟩
  by_cases hcs : cs = [] <;> by_cases hds : ds = []
  · rw [hcs, hds]
  · obtain ⟨vs, hvs, -⟩ := given ds hds
    rw [hvs, if_pos hcs] at h
    cases h
  · obtain ⟨vs, hvs, -⟩ := given cs hcs
    rw [hvs, if_pos hds] at h
    cases h
  · obtain ⟨vs, hvs, hitems⟩ := given cs hcs
    obtain ⟨ws, hws, hitems'⟩ := given ds hds
    rw [hvs, hws] at h
    cases h
    rw [writeNested_eq_map, Json.normalizeItems?_eq_some_iff] at hitems hitems'
    exact eq_of_map_normalize?_write hc (hitems.trans hitems'.symm)

/-- Different conditions stand for different values. -/
theorem normalize?_write_inj {c d : Condition} (h : normalize? c.write = normalize? d.write) :
    c = d := by
  induction c using Condition.induction generalizing d with
  | node operator field value nested ih =>
    obtain ⟨v, hv⟩ := exists_normalize?_write d
    rw [hv] at h
    obtain ⟨vs, hvs, rfl⟩ := Option.map_eq_some_iff.1 hv
    obtain ⟨ws, hws, he⟩ := Option.map_eq_some_iff.1 h
    cases he
    -- What stands under a name of one of them, stands there in the other.
    have found (key : String) : (find? key (members ⟨operator, field, value, nested⟩)).bind
        normalize? = (find? key d.members).bind normalize? := by
      rw [← Json.find?_normalizeMembers? (hasDistinctNames_members _) hws,
        ← Json.find?_normalizeMembers? (hasDistinctNames_members _) hvs]
    obtain ⟨operator', field', value', nested'⟩ := d
    have hoperator := found "operator"
    have hfield := found "fieldName"
    have hvalue := found "value"
    have hnested := found "criteria"
    simp only [find?_members, reduceIte, String.reduceEq] at hoperator hfield hvalue hnested
    rw [bind_normalize?_field, bind_normalize?_field] at hfield
    rw [bind_normalize?_value, bind_normalize?_value] at hvalue
    have ho : operator = operator' := Json.string.inj (Option.some.inj hoperator)
    have hf : field = field' := Option.map_injective (fun _ _ => Json.string.inj) hfield
    have hv : value = value' := Option.map_injective (fun _ _ => Value.ext) hvalue
    have hn : nested = nested' := writeNested_inj ih hnested
    rw [ho, hf, hv, hn]

end Condition

namespace Criteria

open Condition (exists_normalize?_write normalize?_write_inj)

theorem toValue_advanced {c : Condition} {v : Value} (h : normalize? c.write = some v.json) :
    (advanced c).toValue = v := by
  rw [toValue, Value.ofJson?_eq_some_iff.2 h, Option.getD_some]

/-- Trees that are filters are known by their values. -/
theorem toValue_advanced_inj {c d : Condition}
    (h : (advanced c).toValue = (advanced d).toValue) : c = d := by
  obtain ⟨v, hv⟩ := exists_normalize?_write c
  obtain ⟨w, hw⟩ := exists_normalize?_write d
  rw [toValue_advanced (v := ⟨v, Json.normalize?_canonical hv⟩) hv,
    toValue_advanced (v := ⟨w, Json.normalize?_canonical hw⟩) hw] at h
  cases h
  exact normalize?_write_inj (hv.trans hw.symm)

end Criteria

end Switchboard
