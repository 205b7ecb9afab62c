import Switchboard.Proofs.Criteria.RoundTrip

/-!
# Objects accepted as conditions

Which objects are read as a filter, and what is left of them. A flat filter is any object that is
not marked, and stays as it is. A tree of conditions is an object of nodes, in which a member may
say nothing: a field name or value that is null, no conditions, or a mark below the root. Such
members are left out when the tree is written again; everything else is kept.

* `IsNode`: the members that a node and all those below it may have.
* `exists_read_iff`: an object is read as a condition where it is a node.
* `trim`: a node without the members that say nothing.
* `normalize?_write`: a condition is written as it was read, but for those.
* `Criteria.read_keeps_conditions`: flat filters and trees alike.
-/

namespace Switchboard

open Json (ReadError HasDistinctNames find? normalize? normalizeItems? normalizeMembers? Sorted)

namespace Condition

/-! ## Nodes -/

/-- No node of a tree is written as a list: whatever stands among the conditions of an object is no
list, nor is anything among the conditions of that. -/
inductive IsByName : Json → Prop where
  | object {ms : List (String × Json)} :
      (∀ items, find? "criteria" ms = some (.list items) → ∀ j ∈ items, IsByName j) →
      IsByName (.object ms)
  | other {j : Json} : (∀ items, j ≠ .list items) → (∀ ms, j ≠ .object ms) → IsByName j

/-- An object with no other members than a node may have: an operator, perhaps a field name and a
mark, either of which may be null, and perhaps a list of nodes. The value may be anything. -/
inductive IsNode : Json → Prop where
  | object {ms : List (String × Json)}
      (known : ∀ m ∈ ms, m.1 ∈ ["_constructor", "operator", "fieldName", "value", "criteria"])
      (operator : ∃ s, find? "operator" ms = some (.string s))
      (field : ∀ j, find? "fieldName" ms = some j → j = .null ∨ ∃ s, j = .string s)
      (list : ∀ j, find? "criteria" ms = some j → ∃ items, j = .list items)
      (nodes : ∀ items, find? "criteria" ms = some (.list items) → ∀ j ∈ items, IsNode j)
      (marked : ∀ j, find? "_constructor" ms = some j →
        j = .null ∨ j = .string "AdvancedCriteria") :
      IsNode (.object ms)

theorem exists_readNested_iff {items : List Json} :
    (∃ cs, readNested items = .ok cs) ↔ ∀ j ∈ items, ∃ c, read j = .ok c := by
  simp only [readNested_eq_ok_iff]
  induction items with
  | nil => exact ⟨fun _ _ hj => absurd hj List.not_mem_nil, fun _ => ⟨[], rfl⟩⟩
  | cons j items ih =>
    rw [List.forall_mem_cons, ← ih]
    constructor
    · rintro ⟨cs, h⟩
      cases cs with
      | nil => cases h
      | cons c cs =>
        obtain ⟨hc, hcs⟩ := List.cons.inj h
        exact ⟨⟨c, hc⟩, cs, hcs⟩
    · rintro ⟨⟨c, hc⟩, cs, hcs⟩
      exact ⟨c :: cs, by rw [List.map_cons, List.map_cons, hc, hcs]⟩

theorem exists_readText?_iff {found : Option Json} :
    (∃ s, given readText? none found = .ok s) ↔
      ∀ j, found = some j → j = .null ∨ ∃ s, j = .string s := by
  cases found with
  | none => simp [given]
  | some j => cases j <;> simp [given, readText?]

theorem exists_readList_iff {found : Option Json} :
    (∃ cs, given readList [] found = .ok cs) ↔
      (∀ j, found = some j → ∃ items, j = .list items) ∧
        ∀ items, found = some (.list items) → ∀ j ∈ items, ∃ c, read j = .ok c := by
  cases found with
  | none => simp [given]
  | some j => cases j <;> simp [given, readList, exists_readNested_iff]

theorem exists_readValue?_of_canonical {found : Option Json}
    (h : ∀ j, found = some j → j.Canonical) : ∃ v, given readValue? none found = .ok v := by
  cases found with
  | none => exact ⟨none, rfl⟩
  | some j => exact ⟨_, readValue?_json ⟨j, h j rfl⟩⟩

theorem exists_marked_iff {found : Option Json} :
    (∃ name, given readText? none found = .ok name ∧ ∀ s, name = some s → s = mark) ↔
      ∀ j, found = some j → j = .null ∨ j = .string mark := by
  cases found with
  | none => simp [given]
  | some j => cases j <;> simp [given, readText?]

/-- When the members of an object spell some condition. -/
theorem exists_spells_iff {ms : List (String × Json)}
    (hv : ∀ j, find? "value" ms = some j → j.Canonical) :
    (∃ c, Spells ms c) ↔
      (∀ m ∈ ms, m.1 ∈ keys) ∧ (∃ s, find? "operator" ms = some (.string s)) ∧
      (∀ j, find? "fieldName" ms = some j → j = .null ∨ ∃ s, j = .string s) ∧
      ((∀ j, find? "criteria" ms = some j → ∃ items, j = .list items) ∧
        ∀ items, find? "criteria" ms = some (.list items) → ∀ j ∈ items, ∃ c, read j = .ok c) ∧
      ∀ j, find? markKey ms = some j → j = .null ∨ j = .string mark := by
  rw [← exists_readText?_iff, ← exists_readList_iff, ← exists_marked_iff]
  constructor
  · rintro ⟨c, h⟩
    exact ⟨h.known, ⟨_, h.operator⟩, ⟨_, h.field⟩, ⟨_, h.nested⟩, h.marked⟩
  · rintro ⟨known, ⟨s, hs⟩, ⟨f, hf⟩, ⟨cs, hcs⟩, marked⟩
    obtain ⟨v, hv⟩ := exists_readValue?_of_canonical hv
    exact ⟨⟨s, f, v, cs⟩, known, marked, hs, hf, hv, hcs⟩

/-- Among values, what is read as a condition is what is a node, as far as nodes are written as
objects. -/
theorem exists_read_iff {j : Json} (hj : j.Canonical) (hb : IsByName j) :
    (∃ c, read j = .ok c) ↔ IsNode j := by
  induction hb with
  | other hl ho =>
    rename_i j
    constructor
    · rintro ⟨c, hc⟩
      cases j with
      | list items => exact absurd rfl (hl items)
      | object ms => exact absurd rfl (ho ms)
      | _ => cases hc
    · intro h
      cases h with
      | object => exact absurd rfl (ho _)
  | object hb ih =>
    rename_i ms
    have hitems : ∀ items, find? "criteria" ms = some (.list items) → ∀ j ∈ items,
        ((∃ c, read j = .ok c) ↔ IsNode j) := fun items hf j hm =>
      ih items hf j hm ((Json.canonical_find? hf hj.members).items j hm)
    have hread : (∃ c, read (.object ms) = .ok c) ↔ ∃ c, Spells ms c :=
      exists_congr fun c => read_object_eq_ok_iff.trans
        (and_iff_right hj.sorted.hasDistinctNames)
    rw [hread, exists_spells_iff fun j hf => Json.canonical_find? hf hj.members]
    constructor
    · rintro ⟨known, operator, field, ⟨list, nodes⟩, marked⟩
      exact .object known operator field list
        (fun items hf j hm => (hitems items hf j hm).1 (nodes items hf j hm)) marked
    · intro h
      cases h with
      | object known operator field list nodes marked =>
        exact ⟨known, operator, field,
          ⟨list, fun items hf j hm => (hitems items hf j hm).2 (nodes items hf j hm)⟩, marked⟩

/-! ## What says nothing -/

/-- A member of a node says nothing: a field name or value that is null, no conditions, or a mark
below the root. -/
def isIdle (root : Bool) (key : String) (j : Json) : Bool :=
  (key = "fieldName" || key = "value") && j = .null || key = "criteria" && j = .list [] ||
    key = "_constructor" && !root

mutual

/-- A node without the members that say nothing, and so are the nodes below it. -/
def trim : Json → Json
  | .object ms => .object (trimMembers false ms)
  | j => j
termination_by structural j => j

/-- The members of a node that say something. -/
def trimMembers (root : Bool) : List (String × Json) → List (String × Json)
  | [] => []
  | (key, j) :: ms =>
    if isIdle root key j then trimMembers root ms
    else (key, trimMember key j) :: trimMembers root ms
termination_by structural ms => ms

/-- A member of a node, of which the conditions are trimmed. -/
def trimMember (key : String) : Json → Json
  | .list items => if key = "criteria" then .list (trimItems items) else .list items
  | j => j
termination_by structural j => j

/-- Trims every node of a list. -/
def trimItems : List Json → List Json
  | [] => []
  | j :: js => trim j :: trimItems js
termination_by structural js => js

end

theorem find?_trimMembers {root : Bool} {ms : List (String × Json)} (hn : HasDistinctNames ms)
    (key : String) : find? key (trimMembers root ms) =
      (find? key ms).bind fun j => if isIdle root key j then none else some (trimMember key j) := by
  induction ms with
  | nil => rfl
  | cons m ms ih =>
    obtain ⟨hm, hms⟩ := List.nodup_cons.1 hn
    rw [trimMembers, find?]
    by_cases hk : m.1 = key
    · subst hk
      have hnone : find? m.1 ms = none := Json.find?_eq_none_iff.2 hm
      split
      · next hi => simp [ih hms, hnone, hi]
      · next hi => simp [find?, hi]
    · split
      · simp [ih hms]
      · simp [find?, ih hms, hk]

theorem names_trimMembers_sublist (root : Bool) (ms : List (String × Json)) :
    ((trimMembers root ms).map Prod.fst).Sublist (ms.map Prod.fst) := by
  induction ms with
  | nil => exact .slnil
  | cons m ms ih =>
    rw [trimMembers]
    split
    · exact ih.cons _
    · exact ih.cons_cons _

theorem sorted_trimMembers (root : Bool) {ms : List (String × Json)} (h : Sorted ms) :
    Sorted (trimMembers root ms) :=
  List.pairwise_map.1 ((List.pairwise_map.2 h).sublist (names_trimMembers_sublist root ms))

/-! ## Writing what was read -/

theorem normalizeItems?_writeNested {items : List Json} {cs : List Condition}
    (hr : readNested items = .ok cs)
    (h : ∀ j ∈ items, ∀ c, read j = .ok c → normalize? c.write = some (trim j)) :
    normalizeItems? (writeNested cs) = some (trimItems items) := by
  rw [readNested_eq_ok_iff] at hr
  induction items generalizing cs with
  | nil =>
    cases cs with
    | nil => rfl
    | cons c cs => cases hr
  | cons j items ih =>
    cases cs with
    | nil => cases hr
    | cons c cs =>
      obtain ⟨hc, hcs⟩ := List.cons.inj hr
      obtain ⟨hj, hs⟩ := List.forall_mem_cons.1 h
      have hw : normalize? (.object c.members) = some (trim j) := hj c hc
      rw [writeNested, normalizeItems?, hw, ih hcs hs]
      rfl

theorem trimMember_of_ne {key : String} (h : key ≠ "criteria") (j : Json) :
    trimMember key j = j := by
  cases j with
  | list items => exact if_neg h
  | _ => rfl

theorem normalize?_field {found : Option Json} {s : Option String}
    (h : given readText? none found = .ok s) :
    (s.map Json.string).bind normalize? =
      found.bind fun j => if isIdle false "fieldName" j then none
        else some (trimMember "fieldName" j) := by
  cases found with
  | none =>
    cases h
    rfl
  | some j => cases j <;> cases h <;> rfl

theorem normalize?_value {found : Option Json} (hc : ∀ j, found = some j → j.Canonical)
    {v : Option Value} (h : given readValue? none found = .ok v) :
    (v.map Value.json).bind normalize? =
      found.bind fun j => if isIdle false "value" j then none else some (trimMember "value" j) := by
  cases found with
  | none =>
    cases h
    rfl
  | some j =>
    have hj := hc j rfl
    rw [given, readValue?_json ⟨j, hj⟩] at h
    cases h
    have hnull : (⟨j, hj⟩ : Value) = .null ↔ j = .null :=
      ⟨congrArg Value.json, fun h => Value.ext h⟩
    by_cases hn : j = .null
    · rw [if_pos (hnull.2 hn)]
      simp [hn, isIdle]
    · rw [if_neg fun he => hn (hnull.1 he)]
      simp [hn, isIdle, trimMember_of_ne, Json.normalize?_of_canonical hj]

theorem normalize?_nested {found : Option Json} {cs : List Condition}
    (hi : ∀ items, found = some (.list items) → ∀ j ∈ items, ∀ d, read j = .ok d →
      normalize? d.write = some (trim j))
    (h : given readList [] found = .ok cs) :
    (if cs = [] then none else some (Json.list (writeNested cs))).bind normalize? =
      found.bind fun j => if isIdle false "criteria" j then none
        else some (trimMember "criteria" j) := by
  cases found with
  | none =>
    cases h
    rfl
  | some j =>
    cases j with
    | list items =>
      have hr : readNested items = .ok cs := h
      have hw := normalizeItems?_writeNested hr (hi items rfl)
      have hnil : cs = [] ↔ items = [] := by
        have hl := congrArg List.length (readNested_eq_ok_iff.1 hr)
        simp only [List.length_map] at hl
        rw [← List.length_eq_zero_iff, ← List.length_eq_zero_iff, hl]
      by_cases hcs : cs = []
      · simp [hcs, hnil.1 hcs, isIdle]
      · have hne : items ≠ [] := fun he => hcs (hnil.2 he)
        simp [hcs, hne, isIdle, trimMember, normalize?, hw]
    | _ => cases h

/-- What is found among the members of a condition that was read, in normal form: what was found
where it was read, unless that says nothing. -/
theorem Spells.find?_members {ms : List (String × Json)} {c : Condition} (h : Spells ms c)
    (hms : Json.Canonical (.object ms))
    (hi : ∀ items, find? "criteria" ms = some (.list items) → ∀ j ∈ items, ∀ d, read j = .ok d →
      normalize? d.write = some (trim j)) (key : String) :
    (find? key c.members).bind normalize? = find? key (trimMembers false ms) := by
  rw [find?_trimMembers hms.sorted.hasDistinctNames, Condition.find?_members]
  by_cases hk : key ∈ keys
  · simp only [keys, List.mem_cons, List.not_mem_nil, or_false] at hk
    rcases hk with rfl | rfl | rfl | rfl | rfl
    · simp [markKey, isIdle]
    · simp [h.operator, isIdle, trimMember, normalize?]
    · exact normalize?_field h.field
    · exact normalize?_value (fun j hj => Json.canonical_find? hj hms.members) h.value
    · exact normalize?_nested hi h.nested
  · have hnone : find? key ms = none := by
      rw [Json.find?_eq_none_iff]
      intro hm
      obtain ⟨m, hmem, rfl⟩ := List.mem_map.1 hm
      exact hk (h.known m hmem)
    simp only [keys, List.mem_cons, List.not_mem_nil, or_false, not_or] at hk
    simp [hnone, Ne.symm hk.2.1, Ne.symm hk.2.2.1, Ne.symm hk.2.2.2.1, Ne.symm hk.2.2.2.2]

/-- A condition that was read is written, in normal form, as it was read, less what says nothing. -/
theorem normalize?_write {j : Json} {c : Condition} (hj : j.Canonical) (hb : IsByName j)
    (h : read j = .ok c) : normalize? c.write = some (trim j) := by
  induction hb generalizing c with
  | other hl ho =>
    rename_i j
    cases j with
    | list items => exact absurd rfl (hl items)
    | object ms => exact absurd rfl (ho ms)
    | _ => cases h
  | object hb ih =>
    rename_i ms
    obtain ⟨v, hv, -⟩ := (readsNormal c.write).1 _ (read_write c)
    obtain ⟨vs, hvs, rfl⟩ := Option.map_eq_some_iff.1 hv
    have hitems : ∀ items, find? "criteria" ms = some (.list items) → ∀ j ∈ items, ∀ d,
        read j = .ok d → normalize? d.write = some (trim j) := fun items hf j hm d hd =>
      ih items hf j hm ((Json.canonical_find? hf hj.members).items j hm) hd
    have hfound : ∀ key, find? key vs = find? key (trimMembers false ms) := fun key => by
      rw [Json.find?_normalizeMembers? (hasDistinctNames_members c) hvs]
      exact (read_object_eq_ok_iff.1 h).2.find?_members hj hitems key
    have heq : vs = trimMembers false ms := (Json.normalizeMembers?_canonical hvs).sorted.ext
      (sorted_trimMembers false hj.sorted) hfound
    rw [hv, heq, trim]

/-- A tree that is written with a mark keeps the mark. -/
theorem normalize?_write_mark {ms : List (String × Json)} {c : Condition}
    (hj : Json.Canonical (.object ms)) (hb : IsByName (.object ms))
    (h : read (.object ms) = .ok c) (hm : find? markKey ms = some (.string mark)) :
    normalize? (.object ((markKey, .string mark) :: c.members)) =
      some (.object (trimMembers true ms)) := by
  have hnone : find? markKey c.members = none := by simp [Condition.find?_members, markKey]
  obtain ⟨v, hv, hread⟩ := (readsNormal _).1 _ (read_mark_cons (read_write c) hnone)
  obtain ⟨vs, hvs, rfl⟩ := Option.map_eq_some_iff.1 hv
  obtain ⟨ws, hws, hwrite⟩ := Option.map_eq_some_iff.1 (normalize?_write hj hb h)
  rw [trim, Json.object.injEq] at hwrite
  have hdistinct : HasDistinctNames ((markKey, Json.string mark) :: c.members) :=
    List.nodup_cons.2 ⟨Json.find?_eq_none_iff.1 hnone, hasDistinctNames_members c⟩
  have hfound : ∀ key, find? key vs = find? key (trimMembers true ms) := fun key => by
    rw [Json.find?_normalizeMembers? hdistinct hvs,
      find?_trimMembers hj.sorted.hasDistinctNames, find?]
    by_cases hk : markKey = key
    · subst hk
      rw [if_pos rfl, hm]
      rfl
    · have hne : key ≠ "_constructor" := Ne.symm hk
      have hroot : ∀ j, isIdle true key j = isIdle false key j := fun j => by
        simp [isIdle, hne]
      simp only [hk, if_false, hroot]
      rw [← find?_trimMembers hj.sorted.hasDistinctNames, ← hwrite,
        Json.find?_normalizeMembers? (hasDistinctNames_members c) hws]
  rw [hv, (Json.normalizeMembers?_canonical hvs).sorted.ext (sorted_trimMembers true hj.sorted)
    hfound]

end Condition

namespace Criteria

open Condition (IsByName IsNode trimMembers)

/-- No condition is lost or read as another one. An object that is not marked is a flat filter, and
stays what it is. One that is marked, with all nodes below written as objects, is read exactly when
it is a node. It is a tree of conditions then, which is written as the object was without the
members that say nothing; the value of it lacks the mark too. -/
theorem read_keeps_conditions (r : Record) :
    (r.find? "_constructor" ≠ some (.ofString "AdvancedCriteria") →
      read (.object r.members) = .ok (.simple r) ∧ (simple r).toValue = .ofRecord r) ∧
    (r.find? "_constructor" = some (.ofString "AdvancedCriteria") → IsByName (.object r.members) →
      ((∃ x, read (.object r.members) = .ok x) ↔ IsNode (.object r.members)) ∧
      ∀ x, read (.object r.members) = .ok x →
        (∃ c, x = .advanced c) ∧
        (∃ v, Value.ofJson? x.write = some v ∧ v.json = .object (trimMembers true r.members)) ∧
        x.toValue.json = .object (trimMembers false r.members)) := by
  rw [read_object, ofRecord]
  refine ⟨fun h => ⟨if_neg (mt isMarked_iff.1 h), rfl⟩, fun h hb => ?_⟩
  rw [if_pos (isMarked_iff.2 h)]
  rw [Record.find?_eq_some_iff] at h
  have hc := r.canonical
  have hread : ∀ x, (Condition.read (.object r.members)).map advanced = .ok x ↔
      ∃ c, Condition.read (.object r.members) = .ok c ∧ advanced c = x :=
    fun x => except_map_eq_ok_iff
  refine ⟨?_, fun x hx => ?_⟩
  · rw [← Condition.exists_read_iff hc hb]
    constructor
    · rintro ⟨x, hx⟩
      obtain ⟨c, hr, -⟩ := (hread x).1 hx
      exact ⟨c, hr⟩
    · rintro ⟨c, hr⟩
      exact ⟨.advanced c, (hread _).2 ⟨c, hr, rfl⟩⟩
  · obtain ⟨c, hr, rfl⟩ := (hread x).1 hx
    have hv := Condition.normalize?_write hc hb hr
    have hw := Condition.normalize?_write_mark hc hb hr h
    have hvalue : Value.ofJson? c.write = some ⟨_, Json.normalize?_canonical hv⟩ :=
      Value.ofJson?_eq_some_iff.2 hv
    refine ⟨⟨c, rfl⟩, ⟨⟨_, Json.normalize?_canonical hw⟩, Value.ofJson?_eq_some_iff.2 hw, rfl⟩, ?_⟩
    rw [toValue, hvalue]
    rfl

/-- The condition that an order is open, with all that may say nothing: members that are null, no
conditions in the inner node, and a mark there. -/
def openOrders : List (String × Json) :=
  [("_constructor", .string "AdvancedCriteria"),
    ("criteria", .list [.object [("_constructor", .string "AdvancedCriteria"),
      ("criteria", .list []), ("fieldName", .string "status"), ("operator", .string "isNull"),
      ("value", .null)]]),
    ("fieldName", .null), ("operator", .string "and")]

theorem canonical_openOrders : Json.Canonical (.object openOrders) :=
  Json.normalize?_canonical (j := .object openOrders) (by decide +kernel)

theorem canonical_tail_openOrders : Json.Canonical (.object openOrders.tail) :=
  Json.normalize?_canonical (j := .object openOrders.tail) (by decide +kernel)

theorem isByName_openOrders : IsByName (.object openOrders) := by
  refine .object fun items hf j hj => ?_
  cases hf
  obtain rfl := List.mem_singleton.1 hj
  refine .object fun items hf j hj => ?_
  cases hf
  cases hj

/-- Without the mark, the same members are a flat filter. -/
theorem read_openOrders :
    (∃ x, read (.object openOrders) = .ok x ∧
      x.toValue.json = .object [("criteria", .list [.object [("fieldName", .string "status"),
        ("operator", .string "isNull")]]), ("operator", .string "and")]) ∧
    IsNode (.object openOrders) ∧
    read (.object openOrders.tail) =
      .ok (.simple ⟨openOrders.tail, canonical_tail_openOrders⟩) := by
  obtain ⟨hiff, hwrite⟩ := (read_keeps_conditions ⟨openOrders, canonical_openOrders⟩).2
    (by decide +kernel) isByName_openOrders
  have hread : ∃ x, read (.object openOrders) = .ok x := ⟨_, rfl⟩
  refine ⟨hread.imp fun x hx => ⟨hx, ?_⟩, hiff.1 hread, ?_⟩
  · rw [(hwrite x hx).2.2]
    decide +kernel
  · exact ((read_keeps_conditions ⟨openOrders.tail, canonical_tail_openOrders⟩).1
      (by decide +kernel)).1

end Criteria

end Switchboard
