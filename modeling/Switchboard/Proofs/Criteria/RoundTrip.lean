import Switchboard.Proofs.Criteria.Normal

/-!
# Conditions written and read back

A condition is written without what is absent or empty, and read with that filled in again. Only a
value that is null does not come back: it is written as such, but read as no value. The mark, which
is written in front of a whole tree, is read anywhere and leaves no trace.

* `withoutNulls`, `HoldsNull`: what is lost of a condition, and where something is.
* `read_write`: a condition is read back without the values that are null.
* `read_mark_cons`: a mark in front changes nothing.
* `Criteria.reads_back`: trees and flat filters, read from what is written of them.
-/

namespace Switchboard

open Json (ReadError HasDistinctNames find?)

/-- Something is read from what is written: from the tree as it is, and from the value that the tree
stands for. -/
def Json.IsReadFrom {α : Type} (read : Json → Except ReadError α) (written : Json) (a : α) : Prop :=
  read written = .ok a ∧ ∃ v, Value.ofJson? written = some v ∧ read v.json = .ok a

theorem Json.IsReadFrom.iff_eq {α : Type} {read : Json → Except ReadError α} {written : Json}
    {a b : α} (h : IsReadFrom read written a) : IsReadFrom read written b ↔ a = b :=
  ⟨fun h' => Except.ok.inj (h.1.symm.trans h'.1), fun he => he ▸ h⟩

namespace Condition

mutual

/-- What holds of a condition wherever it holds of those in it holds of all conditions. -/
theorem induction {P : Condition → Prop}
    (node : ∀ operator field value nested, (∀ c ∈ nested, P c) →
      P ⟨operator, field, value, nested⟩) : ∀ c, P c
  | ⟨operator, field, value, nested⟩ =>
    node operator field value nested (inductionNested node nested)

theorem inductionNested {P : Condition → Prop}
    (node : ∀ operator field value nested, (∀ c ∈ nested, P c) →
      P ⟨operator, field, value, nested⟩) : ∀ cs : List Condition, ∀ c ∈ cs, P c
  | [] => nofun
  | c :: cs => List.forall_mem_cons.2 ⟨induction node c, inductionNested node cs⟩

end

/-! ## What is written -/

theorem writeNested_eq_map (cs : List Condition) : writeNested cs = cs.map write := by
  induction cs with
  | nil => rfl
  | cons c cs ih => rw [writeNested, ih]; rfl

theorem find?_members (c : Condition) (key : String) :
    find? key c.members =
      if "operator" = key then some (.string c.operator)
      else if "fieldName" = key then c.field.map .string
      else if "value" = key then c.value.map Value.json
      else if "criteria" = key then
        if c.nested = [] then none else some (.list (writeNested c.nested))
      else none := by
  obtain ⟨operator, field, value, nested⟩ := c
  cases field <;> cases value <;> cases nested <;> grind [members, find?]

theorem hasDistinctNames_members (c : Condition) : HasDistinctNames c.members := by
  obtain ⟨operator, field, value, nested⟩ := c
  cases field <;> cases value <;> cases nested <;> simp [HasDistinctNames, members]

theorem mem_keys_of_mem_members {c : Condition} {m : String × Json} (h : m ∈ c.members) :
    m.1 ∈ keys := by
  have hf := (Json.find?_eq_some_iff_mem (hasDistinctNames_members c)).2 h
  rw [find?_members] at hf
  grind [keys]

/-! ## Null values -/

mutual

/-- The condition with no value where the value is null, in all its nodes. -/
def withoutNulls : Condition → Condition
  | ⟨operator, field, value, nested⟩ =>
    ⟨operator, field, value.filter (· ≠ .null), nestedWithoutNulls nested⟩
termination_by structural c => c

/-- The conditions of a list with no value where the value is null. -/
def nestedWithoutNulls : List Condition → List Condition
  | [] => []
  | c :: cs => c.withoutNulls :: nestedWithoutNulls cs
termination_by structural cs => cs

end

/-- The value of some node is null. -/
inductive HoldsNull : Condition → Prop where
  | own {c : Condition} : c.value = some .null → HoldsNull c
  | inner {c d : Condition} : d ∈ c.nested → HoldsNull d → HoldsNull c

theorem nestedWithoutNulls_eq_map (cs : List Condition) :
    nestedWithoutNulls cs = cs.map withoutNulls := by
  induction cs with
  | nil => rfl
  | cons c cs ih => rw [nestedWithoutNulls, ih, List.map_cons]

theorem holdsNull_iff {c : Condition} :
    c.HoldsNull ↔ c.value = some .null ∨ ∃ d ∈ c.nested, d.HoldsNull := by
  constructor
  · intro h
    cases h with
    | own h => exact .inl h
    | inner hd h => exact .inr ⟨_, hd, h⟩
  · rintro (h | ⟨d, hd, h⟩)
    · exact .own h
    · exact .inner hd h

theorem withoutNulls_eq_self_iff {c : Condition} : c.withoutNulls = c ↔ ¬ c.HoldsNull := by
  induction c using Condition.induction with
  | node operator field value nested ih =>
    have hv : value.filter (· ≠ .null) = value ↔ value ≠ some .null := by
      cases value <;> simp
    have hn : nested.map withoutNulls = nested.map id ↔ ∀ c ∈ nested, ¬ c.HoldsNull :=
      List.map_inj_left.trans (forall₂_congr ih)
    rw [List.map_id] at hn
    rw [holdsNull_iff, withoutNulls, nestedWithoutNulls_eq_map]
    simp only [mk.injEq, hv, hn, true_and, not_or, not_exists, not_and, ne_eq]

/-! ## Reading what is written -/

@[simp] theorem readValue?_json (v : Value) :
    readValue? v.json = .ok (if v = .null then none else some v) := by
  have hv : v.json = .null ↔ v = .null := ⟨fun h => Value.ext h, congrArg Value.json⟩
  simp only [readValue?, Value.ofJson?_json, hv]

theorem readNested_writeNested {cs : List Condition}
    (h : ∀ c ∈ cs, read c.write = .ok c.withoutNulls) :
    readNested (writeNested cs) = .ok (nestedWithoutNulls cs) := by
  rw [readNested_eq_ok_iff, writeNested_eq_map, nestedWithoutNulls_eq_map, List.map_map,
    List.map_map]
  exact List.map_congr_left h

@[simp] theorem read_write (c : Condition) : read c.write = .ok c.withoutNulls := by
  induction c using Condition.induction with
  | node operator field value nested ih =>
    refine read_object_eq_ok_iff.2
      ⟨hasDistinctNames_members _, ?_, ⟨none, ?_, nofun⟩, ?_, ?_, ?_, ?_⟩
    · exact fun m => mem_keys_of_mem_members
    · simp [find?_members, markKey, given]
    · simp [find?_members, withoutNulls]
    · cases field <;> simp [find?_members, withoutNulls, given, readText?]
    · cases value with
      | none => simp [find?_members, withoutNulls, given]
      | some v =>
        by_cases hv : v = .null <;>
          simp [find?_members, withoutNulls, given, Option.filter_some, hv]
    · cases nested with
      | nil => simp [find?_members, withoutNulls, given, nestedWithoutNulls]
      | cons c cs =>
        simp only [find?_members, withoutNulls, given, readList, reduceCtorEq, if_false]
        exact readNested_writeNested ih

/-- A mark of its own in front of the members changes nothing. -/
theorem read_mark_cons {ms : List (String × Json)} {c : Condition} (h : read (.object ms) = .ok c)
    (hm : find? markKey ms = none) :
    read (.object ((markKey, .string mark) :: ms)) = .ok c := by
  obtain ⟨hn, hs⟩ := read_object_eq_ok_iff.1 h
  have hf : ∀ {key}, markKey ≠ key →
      find? key ((markKey, .string mark) :: ms) = find? key ms := fun hk => if_neg hk
  refine read_object_eq_ok_iff.2 ⟨List.nodup_cons.2 ⟨Json.find?_eq_none_iff.1 hm, hn⟩, ?_⟩
  constructor
  · exact List.forall_mem_cons.2 ⟨List.mem_cons_self, hs.known⟩
  · exact ⟨some mark, rfl, fun s hs => (Option.some.inj hs).symm⟩
  · exact (hf (by decide)).trans hs.operator
  · rw [hf (by decide)]
    exact hs.field
  · rw [hf (by decide)]
    exact hs.value
  · rw [hf (by decide)]
    exact hs.nested

theorem isReadFrom_of_read {j : Json} {c : Condition} (h : read j = .ok c) :
    Json.IsReadFrom read j c := by
  obtain ⟨v, hv, hc⟩ := (readsNormal j).1 c h
  exact ⟨h, ⟨v, Json.normalize?_canonical hv⟩, Value.ofJson?_eq_some_iff.2 hv, hc⟩

end Condition

namespace Criteria

open Condition (markKey mark)

theorem isMarked_iff {r : Record} :
    isMarked r = true ↔ r.find? markKey = some (.ofString mark) := by
  rw [isMarked, decide_eq_true_iff, Record.find?_eq_some_iff]
  rfl

/-- A filter is read from a tree as from the value that the tree stands for. -/
theorem read_json {j : Json} {v : Value} (h : Value.ofJson? j = some v) : read v.json = read j := by
  simp only [read, Record.ofJson?, Value.ofJson?_json, h]

/-- An object that is marked is read as a tree of conditions. -/
theorem read_of_mark {ms : List (String × Json)} {c : Condition}
    (h : Condition.read (.object ms) = .ok c) (hm : find? markKey ms = some (.string mark)) :
    read (.object ms) = .ok (.advanced c) := by
  obtain ⟨v, hv, hc⟩ := (Condition.readsNormal (.object ms)).1 c h
  obtain ⟨vs, hvs, rfl⟩ := Option.map_eq_some_iff.1 hv
  have hn := (Condition.read_object_eq_ok_iff.1 h).1
  have hr : Record.ofJson? (.object ms) = some ⟨vs, Json.normalizeMembers?_canonical hvs⟩ :=
    Record.ofJson?_eq_some_iff.2 hv
  have hmarked : isMarked ⟨vs, Json.normalizeMembers?_canonical hvs⟩ = true := by
    rw [isMarked, decide_eq_true_iff, Json.find?_normalizeMembers? hn hvs, hm]
    rfl
  rw [read_eq hr, ofRecord, if_pos hmarked, hc]
  rfl

theorem read_write_advanced (c : Condition) :
    read (advanced c).write = .ok (.advanced c.withoutNulls) := by
  have hm : find? markKey c.members = none := by
    simp [Condition.find?_members, markKey]
  exact read_of_mark (Condition.read_mark_cons (Condition.read_write c) hm) (if_pos rfl)

theorem read_write_simple (r : Record) :
    read (simple r).write = .ok (.simple r) ↔ r.find? markKey ≠ some (.ofString mark) := by
  rw [write, read_object, ofRecord]
  by_cases h : isMarked r
  · simp [h, isMarked_iff.1 h]
  · simp [h, ← isMarked_iff]

theorem isReadFrom_of_read {j : Json} {x : Criteria} (h : read j = .ok x) :
    Json.IsReadFrom read j x := by
  cases hv : Value.ofJson? j with
  | none =>
    rw [read, Record.ofJson?, hv] at h
    cases h
  | some v => exact ⟨h, v, hv, (read_json hv).trans h⟩

/-- What is written is read back, but for null values in a tree of conditions and for flat filters
that are marked as a tree: every tree, on its own or as a filter, is read back without its null
values, and so as it was exactly when no node holds one; a flat filter is read back exactly when it
is not marked. -/
theorem reads_back :
    (∀ a : Condition,
      Json.IsReadFrom Condition.read a.write a.withoutNulls ∧
      Json.IsReadFrom read (advanced a).write (.advanced a.withoutNulls) ∧
      (Json.IsReadFrom Condition.read a.write a ↔ ¬ a.HoldsNull) ∧
      (Json.IsReadFrom read (advanced a).write (.advanced a) ↔ ¬ a.HoldsNull)) ∧
    ∀ m : Record, Json.IsReadFrom read (simple m).write (.simple m) ↔
      m.find? "_constructor" ≠ some (.ofString "AdvancedCriteria") := by
  refine ⟨fun a => ?_, fun m => ?_⟩
  · have hc := Condition.isReadFrom_of_read (Condition.read_write a)
    have hx := isReadFrom_of_read (read_write_advanced a)
    refine ⟨hc, hx, ?_, ?_⟩
    · rw [hc.iff_eq, Condition.withoutNulls_eq_self_iff]
    · rw [hx.iff_eq, advanced.injEq, Condition.withoutNulls_eq_self_iff]
  · exact Iff.trans ⟨fun h => h.1, isReadFrom_of_read⟩ (read_write_simple m)

end Criteria

end Switchboard
