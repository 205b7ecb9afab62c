import Switchboard.Proofs.Criteria.Nodes

/-!
# Conditions in normal form

A condition may be read from a tree as it is written, or from the value that the tree stands for,
which has its members in order of name. Both give the same. The proof goes through the tree: a list
may be a node as well as the conditions of one, so that both ways to read it are followed together.

* `ReadsNormal`: what is read from a tree is read from its normal form.
* `Takes.exists_normalize?`: so it is for one member.
* `readsNormal`: so it is for all trees.
-/

namespace Switchboard

open Json (ReadError HasDistinctNames find? normalize? normalizeItems? normalizeMembers?)

namespace Condition

/-- What is read from a tree is read from its normal form, which it has wherever it can be read. -/
def ReadsNormal {α : Type} (read : Json → Except ReadError α) (j : Json) : Prop :=
  ∀ a, read j = .ok a → ∃ v, normalize? j = some v ∧ read v = .ok a

/-! ## The parts of a node -/

theorem readsNormal_text? (j : Json) : ReadsNormal readText? j := by
  intro s h
  cases j with
  | null | string _ => exact ⟨_, rfl, h⟩
  | _ => cases h

theorem readValue?_eq_ok_iff {j : Json} {x : Option Value} :
    readValue? j = .ok x ↔
      ∃ v, Value.ofJson? j = some v ∧ x = if v.json = .null then none else some v := by
  unfold readValue?
  cases Value.ofJson? j <;> simp [eq_comm]

theorem readsNormal_value? (j : Json) : ReadsNormal readValue? j := by
  intro x h
  obtain ⟨v, hv, hx⟩ := readValue?_eq_ok_iff.1 h
  exact ⟨v.json, Value.ofJson?_eq_some_iff.1 hv,
    readValue?_eq_ok_iff.2 ⟨v, Value.ofJson?_json v, hx⟩⟩

/-- A member that is read has a normal form, from which the same is read. -/
theorem Takes.exists_normalize? {d d' : Draft} {key : String} {j : Json} (h : Takes d key j d')
    (hl : ReadsNormal readList j) : ∃ v, normalize? j = some v ∧ Takes d key v d' := by
  cases h with
  | mark name named read taken =>
    obtain ⟨v, hv, hread⟩ := readsNormal_text? j name read
    exact ⟨v, hv, .mark name named hread taken⟩
  | operator s named read taken =>
    subst read
    exact ⟨.string s, rfl, .operator s named rfl taken⟩
  | field s named read taken =>
    obtain ⟨v, hv, hread⟩ := readsNormal_text? j s read
    exact ⟨v, hv, .field s named hread taken⟩
  | value x named read taken =>
    obtain ⟨v, hv, hread⟩ := readsNormal_value? j x read
    exact ⟨v, hv, .value x named hread taken⟩
  | nested items cs named written read taken =>
    obtain ⟨v, hv, hread⟩ := hl cs (by rw [written]; exact read)
    subst written
    obtain ⟨vs, hvs, rfl⟩ := Option.map_eq_some_iff.1 hv
    exact ⟨.list vs, hv, .nested vs cs named rfl hread taken⟩

/-! ## Whole nodes -/

theorem readsNormal_nested {items : List Json} (h : ∀ j ∈ items, ReadsNormal read j) :
    ReadsNormal readList (.list items) := by
  intro cs hr
  have hcs := readNested_eq_ok_iff.1 hr
  induction items generalizing cs with
  | nil => exact ⟨.list [], rfl, hr⟩
  | cons j items ih =>
    obtain ⟨hj, hs⟩ := List.forall_mem_cons.1 h
    cases cs with
    | nil => cases hcs
    | cons c cs =>
      obtain ⟨hc, hcs⟩ := List.cons.inj hcs
      obtain ⟨v, hv, hvc⟩ := hj c hc
      obtain ⟨w, hw, hwr⟩ := ih hs cs (readNested_eq_ok_iff.2 hcs) hcs
      obtain ⟨vs, hvs, rfl⟩ := Option.map_eq_some_iff.1 hw
      refine ⟨.list (v :: vs), by simp [normalize?, normalizeItems?, hv, hvs], ?_⟩
      have hvcs := readNested_eq_ok_iff.1 hwr
      exact readNested_eq_ok_iff.2 (by rw [List.map_cons, List.map_cons, hvc, hvcs])

theorem readItems_cons_eq_ok_iff {d d' : Draft} {key : String} {keys : List String} {j : Json}
    {items : List Json} : readItems d (key :: keys) (j :: items) = .ok d' ↔
      ∃ mid, (key ∉ d.seen ∧ Takes d key j mid) ∧ readItems mid keys items = .ok d' := by
  simp only [← readMember_eq_ok_iff, readItems]
  cases readMember d key j <;> simp

theorem exists_normalizeItems?_of_readItems {d d' : Draft} {keys : List String} {items : List Json}
    (hl : ∀ j ∈ items, ReadsNormal readList j) (h : readItems d keys items = .ok d') :
    ∃ vs, normalizeItems? items = some vs ∧ readItems d keys vs = .ok d' := by
  induction items generalizing d keys with
  | nil => exact ⟨[], rfl, h⟩
  | cons j items ih =>
    obtain ⟨hj, hs⟩ := List.forall_mem_cons.1 hl
    cases keys with
    | nil => cases h
    | cons key keys =>
      obtain ⟨mid, ⟨hnew, ht⟩, h⟩ := readItems_cons_eq_ok_iff.1 h
      obtain ⟨v, hv, htv⟩ := ht.exists_normalize? hj
      obtain ⟨vs, hvs, hr⟩ := ih hs h
      exact ⟨v :: vs, by simp [normalizeItems?, hv, hvs],
        readItems_cons_eq_ok_iff.2 ⟨mid, ⟨hnew, htv⟩, hr⟩⟩

theorem given_normalize? {α : Type} {read : Json → Except ReadError α} {absent a : α}
    {found : Option Json} (hr : ∀ j, found = some j → ReadsNormal read j)
    (h : given read absent found = .ok a) : given read absent (found.bind normalize?) = .ok a := by
  cases found with
  | none => exact h
  | some j =>
    obtain ⟨v, hv, hread⟩ := hr j rfl a h
    rw [Option.bind_some, hv]
    exact hread

/-- Members in order of name spell what they spell in any order. -/
theorem Spells.normalizeMembers? {ms vs : List (String × Json)} {c : Condition} (h : Spells ms c)
    (hn : HasDistinctNames ms) (hl : ∀ m ∈ ms, ReadsNormal readList m.2)
    (hvs : Json.normalizeMembers? ms = some vs) : Spells vs c := by
  have hf : ∀ key, find? key vs = (find? key ms).bind normalize? :=
    Json.find?_normalizeMembers? hn hvs
  obtain ⟨name, hname, hmark⟩ := h.marked
  constructor
  · intro m hm
    have hvn : HasDistinctNames vs := (Json.normalizeMembers?_canonical hvs).sorted.hasDistinctNames
    have hfound : find? m.1 vs = some m.2 := (Json.find?_eq_some_iff_mem hvn).2 hm
    rw [hf] at hfound
    obtain ⟨j, hj, -⟩ := Option.bind_eq_some_iff.1 hfound
    exact h.known (m.1, j) (Json.mem_of_find?_eq_some hj)
  · rw [hf]
    exact ⟨name, given_normalize? (fun j _ => readsNormal_text? j) hname, hmark⟩
  · rw [hf, h.operator]
    rfl
  · rw [hf]
    exact given_normalize? (fun j _ => readsNormal_text? j) h.field
  · rw [hf]
    exact given_normalize? (fun j _ => readsNormal_value? j) h.value
  · rw [hf]
    exact given_normalize? (fun j hj => hl (_, j) (Json.mem_of_find?_eq_some hj)) h.nested

theorem readsNormal_object {ms : List (String × Json)} (hl : ∀ m ∈ ms, ReadsNormal readList m.2) :
    ReadsNormal read (.object ms) := by
  intro c hc
  obtain ⟨hn, hs⟩ := read_object_eq_ok_iff.1 hc
  obtain ⟨vs, hvs⟩ : ∃ vs, normalizeMembers? ms = some vs := by
    refine Json.exists_normalizeMembers?_iff.2 fun m hm => ?_
    obtain ⟨d', ht⟩ := hs.isReadable hn hm .blank
    obtain ⟨v, hv, -⟩ := ht.exists_normalize? (hl m hm)
    exact ⟨v, hv⟩
  refine ⟨.object vs, by rw [normalize?, hvs, Option.map_some], read_object_eq_ok_iff.2 ⟨?_, ?_⟩⟩
  · exact (Json.normalizeMembers?_canonical hvs).sorted.hasDistinctNames
  · exact hs.normalizeMembers? hn hl hvs

theorem readsNormal_items {items : List Json} (hl : ∀ j ∈ items, ReadsNormal readList j) :
    ReadsNormal read (.list items) := by
  intro c hc
  rw [read] at hc
  cases hd : readItems .blank keys items with
  | error e => rw [hd] at hc; cases hc
  | ok d =>
    rw [hd] at hc
    obtain ⟨vs, hvs, hr⟩ := exists_normalizeItems?_of_readItems hl hd
    refine ⟨.list vs, by rw [normalize?, hvs, Option.map_some], ?_⟩
    rw [read, hr]
    exact hc

/-- Whatever the order of its members, a tree is read as its normal form is. -/
theorem readsNormal (j : Json) : ReadsNormal read j ∧ ReadsNormal readList j := by
  induction j using Json.induction with
  | list items ih =>
    exact ⟨readsNormal_items fun j hj => (ih j hj).2, readsNormal_nested fun j hj => (ih j hj).1⟩
  | object ms ih => exact ⟨readsNormal_object fun m hm => (ih m hm).2, fun _ h => nomatch h⟩
  | leaf j hl ho =>
    cases j with
    | list items => exact absurd rfl (hl items)
    | object ms => exact absurd rfl (ho ms)
    | _ => exact ⟨fun _ h => (nomatch h), fun _ h => (nomatch h)⟩

end Condition

end Switchboard
