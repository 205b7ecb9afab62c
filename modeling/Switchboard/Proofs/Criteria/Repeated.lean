import Switchboard.Json.Document
import Switchboard.Proofs.Criteria.RoundTrip

/-!
# Names that are repeated

In a text a name may come twice in one object. A value keeps the last of its members only, and a
filter is read through its record, so that it is the same whether it is read from a text or from the
value that the text writes. A condition that is read on its own is not: its nodes are taken from the
text as they stand there, and a node that repeats a name is rejected. But for that, it is read as
from the value as well.

* `Superseded`, `normalize?_of_superseded`: what gives way to a later member of its name.
* `parts`, `read_eq_ok_iff_parts`: a node, whichever way it is written.
* `RepeatsKey`: a name is repeated in a node, at any depth.
* `readsAsWritten`: where none is, what is read from the value is read from the tree.
* `Criteria.text_and_value_agree`: filters and conditions, from a text and from its value.
-/

namespace Switchboard

open Json (ReadError HasDistinctNames find? normalize? normalizeItems? normalizeMembers?)

namespace Json

/-! ## Texts -/

/-- What is read from the tree that a text writes. -/
def directly? {α : Type} (read : Json → Except ReadError α) (s : String) : Option α :=
  (ofText? s).bind fun j => (read j).toOption

/-- What is read from the value that a text writes. -/
def throughValue? {α : Type} (read : Json → Except ReadError α) (s : String) : Option α :=
  (Value.ofText? s).bind fun v => (read v.json).toOption

section

variable {α : Type} {read : Json → Except ReadError α} {s : String} {a : α}

theorem directly?_eq_some_iff :
    directly? read s = some a ↔ ∃ j, ofText? s = some j ∧ read j = .ok a := by
  simp only [directly?, Option.bind_eq_some_iff, except_toOption_eq_some_iff]

theorem throughValue?_eq_some_iff : throughValue? read s = some a ↔
    ∃ j, ofText? s = some j ∧ ∃ v, Value.ofJson? j = some v ∧ read v.json = .ok a := by
  simp only [throughValue?, Value.ofText?, Option.bind_assoc, Option.bind_eq_some_iff,
    except_toOption_eq_some_iff]

end

/-! ## Members that give way -/

/-- A tree, and the same without one of its members or without a member of something in it. A later
member has the name of the one that is left out, and that one can be read. -/
inductive Superseded : Json → Json → Prop where
  | member {before after : List (String × Json)} {key : String} {old value : Json}
      (again : key ∈ after.map Prod.fst) (readable : normalize? old = some value) :
      Superseded (.object (before ++ (key, old) :: after)) (.object (before ++ after))
  | inMember {before after : List (String × Json)} {key : String} {j k : Json}
      (inner : Superseded j k) :
      Superseded (.object (before ++ (key, j) :: after)) (.object (before ++ (key, k) :: after))
  | inItem {before after : List Json} {j k : Json} (inner : Superseded j k) :
      Superseded (.list (before ++ j :: after)) (.list (before ++ k :: after))

/-- Normalising leaves no name out. -/
theorem find?_normalizeMembers?_eq_none_iff {ms vs : List (String × Json)}
    (h : normalizeMembers? ms = some vs) (key : String) :
    find? key vs = none ↔ find? key ms = none := by
  induction ms generalizing vs with
  | nil =>
    cases h
    rfl
  | cons m ms ih =>
    rw [normalizeMembers?] at h
    split at h
    · next v ws hv hws =>
      cases h
      rw [find?_precede (normalizeMembers?_canonical hws).sorted, find?]
      by_cases hk : m.1 = key <;> simp [hk, ih hws]
    · cases h

theorem normalizeMembers?_cons_of_mem {after : List (String × Json)} {key : String}
    {old value : Json} (again : key ∈ after.map Prod.fst) (readable : normalize? old = some value) :
    normalizeMembers? ((key, old) :: after) = normalizeMembers? after := by
  rw [normalizeMembers?, readable]
  cases hvs : normalizeMembers? after with
  | none => rfl
  | some vs =>
    have hfound : find? key vs ≠ none := fun h =>
      find?_eq_none_iff.1 ((find?_normalizeMembers?_eq_none_iff hvs key).1 h) again
    exact congrArg some (if_pos (Option.isSome_iff_ne_none.2 hfound))

theorem normalizeMembers?_append_congr {ms ns : List (String × Json)}
    (h : normalizeMembers? ms = normalizeMembers? ns) (before : List (String × Json)) :
    normalizeMembers? (before ++ ms) = normalizeMembers? (before ++ ns) := by
  induction before with
  | nil => exact h
  | cons m before ih =>
    rw [List.cons_append, List.cons_append, normalizeMembers?, ih, normalizeMembers?]

theorem normalizeItems?_append_congr {js ks : List Json}
    (h : normalizeItems? js = normalizeItems? ks) (before : List Json) :
    normalizeItems? (before ++ js) = normalizeItems? (before ++ ks) := by
  induction before with
  | nil => exact h
  | cons j before ih =>
    rw [List.cons_append, List.cons_append, normalizeItems?, ih, normalizeItems?]

/-- A tree stands for the same value without the members that give way. -/
theorem normalize?_of_superseded {j k : Json} (h : Superseded j k) :
    normalize? j = normalize? k := by
  induction h with
  | member again readable =>
    rw [normalize?, normalize?,
      normalizeMembers?_append_congr (normalizeMembers?_cons_of_mem again readable)]
  | inMember inner ih =>
    rw [normalize?, normalize?, normalizeMembers?_append_congr]
    rw [normalizeMembers?, normalizeMembers?, ih]
  | inItem inner ih =>
    rw [normalize?, normalize?, normalizeItems?_append_congr]
    rw [normalizeItems?, normalizeItems?, ih]

end Json

namespace Condition

/-! ## Nodes written as objects or as lists -/

/-- The members of a node; a list has them in their order. -/
def parts : Json → List (String × Json)
  | .object ms => ms
  | .list items => keys.zip items
  | _ => []

/-- A list has no more items than a node has members. -/
def Fits : Json → Prop
  | .list items => items.length ≤ keys.length
  | _ => True

theorem readItems_eq_ok_iff {d d' : Draft} {names : List String} {items : List Json} :
    readItems d names items = .ok d' ↔
      items.length ≤ names.length ∧ readMembers d (names.zip items) = .ok d' := by
  induction items generalizing d names with
  | nil => simp [readItems, readMembers]
  | cons j items ih =>
    cases names with
    | nil => simp [readItems]
    | cons name names =>
      rw [readItems_cons_eq_ok_iff, List.zip_cons_cons, readMembers_cons_eq_ok_iff]
      simp only [ih, List.length_cons, Nat.add_le_add_iff_right]
      constructor
      · rintro ⟨mid, hm, hl, h⟩
        exact ⟨hl, mid, hm, h⟩
      · rintro ⟨hl, mid, hm, h⟩
        exact ⟨mid, hm, hl, h⟩

/-- A list is read as the object of its items under the names they stand for. -/
theorem read_list_eq_ok_iff {items : List Json} {c : Condition} :
    read (.list items) = .ok c ↔
      items.length ≤ keys.length ∧ read (.object (keys.zip items)) = .ok c := by
  rw [read, read]
  constructor
  · intro h
    split at h
    · cases h
    · next d hd =>
      obtain ⟨hl, hm⟩ := readItems_eq_ok_iff.1 hd
      rw [hm]
      exact ⟨hl, h⟩
  · rintro ⟨hl, h⟩
    split at h
    · cases h
    · next d hd =>
      rw [readItems_eq_ok_iff.2 ⟨hl, hd⟩]
      exact h

theorem not_spells_nil (c : Condition) : ¬ Spells [] c := fun h => nomatch h.operator

/-- A tree is read as the condition that its parts spell. -/
theorem read_eq_ok_iff_parts {j : Json} {c : Condition} :
    read j = .ok c ↔ Fits j ∧ HasDistinctNames (parts j) ∧ Spells (parts j) c := by
  cases j with
  | object ms => simp only [read_object_eq_ok_iff, Fits, true_and, parts]
  | list items => rw [read_list_eq_ok_iff, read_object_eq_ok_iff, Fits, parts]
  | _ => exact iff_of_false nofun fun h => not_spells_nil c h.2.2

/-! ## Parts in normal form -/

theorem parts_eq_nil {j : Json} (hl : ∀ items, j ≠ .list items) (ho : ∀ ms, j ≠ .object ms) :
    parts j = [] := by
  cases j with
  | list items => exact absurd rfl (hl items)
  | object ms => exact absurd rfl (ho ms)
  | _ => rfl

theorem fits_iff_of_normalize? {j v : Json} (hv : normalize? j = some v) : Fits v ↔ Fits j := by
  rcases Json.normalize?_cases hv with ⟨items, vs, rfl, rfl, h⟩ | ⟨ms, vs, rfl, rfl, -⟩ | ⟨rfl, -⟩
  · have hl : items.length = vs.length := by simpa using congrArg List.length h
    rw [Fits, Fits, hl]
  · rfl
  · rfl

theorem find?_zip_normalizeItems? {names : List String} {items vs : List Json}
    (h : items.map normalize? = vs.map some) (key : String) :
    find? key (names.zip vs) = (find? key (names.zip items)).bind normalize? := by
  induction names generalizing items vs with
  | nil => rfl
  | cons name names ih =>
    cases items with
    | nil =>
      cases vs with
      | nil => rfl
      | cons v vs => cases h
    | cons j items =>
      cases vs with
      | nil => cases h
      | cons v vs =>
        obtain ⟨hv, hvs⟩ := List.cons.inj h
        rw [List.zip_cons_cons, List.zip_cons_cons, find?, find?, ih hvs]
        by_cases hk : name = key <;> simp [hk, hv]

theorem find?_parts {j v : Json} (hn : HasDistinctNames (parts j)) (hv : normalize? j = some v)
    (key : String) : find? key (parts v) = (find? key (parts j)).bind normalize? := by
  rcases Json.normalize?_cases hv with ⟨items, vs, rfl, rfl, h⟩ | ⟨ms, vs, rfl, rfl, h⟩ |
    ⟨rfl, hl, ho⟩
  · exact find?_zip_normalizeItems? h key
  · exact Json.find?_normalizeMembers? hn h key
  · rw [parts_eq_nil hl ho]
    rfl

theorem exists_normalize?_of_mem_parts {j v : Json} (hv : normalize? j = some v)
    {m : String × Json} (hm : m ∈ parts j) : ∃ w, normalize? m.2 = some w := by
  rcases Json.normalize?_cases hv with ⟨items, vs, rfl, rfl, h⟩ | ⟨ms, vs, rfl, rfl, h⟩ |
    ⟨rfl, hl, ho⟩
  · have hvs := Json.normalizeItems?_eq_some_iff.2 h
    exact Json.exists_normalizeItems?_iff.1 ⟨vs, hvs⟩ m.2 (List.of_mem_zip hm).2
  · exact Json.exists_normalizeMembers?_iff.1 ⟨vs, h⟩ m hm
  · rw [parts_eq_nil hl ho] at hm
    cases hm

/-! ## Repeated names -/

/-- A name is repeated among the parts of a node, or in one of the conditions in it. -/
inductive RepeatsKey : Json → Prop where
  | here {j : Json} (repeated : ¬ HasDistinctNames (parts j)) : RepeatsKey j
  | within {j k : Json} {items : List Json} (nested : ("criteria", .list items) ∈ parts j)
      (mem : k ∈ items) (inner : RepeatsKey k) : RepeatsKey j

/-- A tree with a repeated name is not read as it is written. -/
theorem RepeatsKey.read_ne_ok {j : Json} (h : RepeatsKey j) (c : Condition) : read j ≠ .ok c := by
  induction h generalizing c with
  | here repeated => exact fun hc => repeated (read_eq_ok_iff_parts.1 hc).2.1
  | within nested mem inner ih =>
    intro hc
    obtain ⟨-, hn, hs⟩ := read_eq_ok_iff_parts.1 hc
    have hread := hs.nested
    rw [(Json.find?_eq_some_iff_mem hn).2 nested] at hread
    have hk := List.mem_map_of_mem (f := read) mem
    rw [readNested_eq_ok_iff.1 hread] at hk
    obtain ⟨d, -, hd⟩ := List.mem_map.1 hk
    exact ih d hd.symm

/-! ## Reading as it is written -/

/-- What is read from the normal form of a tree is read from the tree. -/
def ReadsAsWritten {α : Type} (read : Json → Except ReadError α) (j : Json) : Prop :=
  ∀ v a, normalize? j = some v → read v = .ok a → read j = .ok a

theorem readsAsWritten_text? (j : Json) : ReadsAsWritten readText? j := by
  intro v s hv h
  rcases Json.normalize?_cases hv with ⟨items, vs, rfl, rfl, -⟩ | ⟨ms, vs, rfl, rfl, -⟩ | ⟨rfl, -⟩
  · cases h
  · cases h
  · exact h

theorem readsAsWritten_value? (j : Json) : ReadsAsWritten readValue? j := by
  intro v x hv h
  obtain ⟨w, hw, hx⟩ := readValue?_eq_ok_iff.1 h
  rw [Value.ofJson?_eq_some_iff, Json.normalize?_of_canonical (Json.normalize?_canonical hv)] at hw
  cases hw
  exact readValue?_eq_ok_iff.2 ⟨w, Value.ofJson?_eq_some_iff.2 hv, hx⟩

theorem map_read_asWritten {items vs : List Json} {cs : List Condition}
    (h : ∀ j ∈ items, ReadsAsWritten read j) (hv : items.map normalize? = vs.map some)
    (hr : vs.map read = cs.map .ok) : items.map read = cs.map .ok := by
  induction items generalizing vs cs with
  | nil =>
    cases vs with
    | nil => exact hr
    | cons v vs => cases hv
  | cons j items ih =>
    obtain ⟨hj, hs⟩ := List.forall_mem_cons.1 h
    cases vs with
    | nil => cases hv
    | cons v vs =>
      cases cs with
      | nil => cases hr
      | cons c cs =>
        obtain ⟨hv, hvs⟩ := List.cons.inj hv
        obtain ⟨hc, hcs⟩ := List.cons.inj hr
        rw [List.map_cons, List.map_cons, hj v c hv hc, ih hs hvs hcs]

theorem readsAsWritten_nested {items : List Json} (h : ∀ j ∈ items, ReadsAsWritten read j) :
    ReadsAsWritten readList (.list items) := by
  intro v cs hv hr
  obtain ⟨vs, hvs, rfl⟩ := Option.map_eq_some_iff.1 hv
  have hitems : items.map normalize? = vs.map some := Json.normalizeItems?_eq_some_iff.1 hvs
  have hread : vs.map read = cs.map .ok := readNested_eq_ok_iff.1 hr
  exact readNested_eq_ok_iff.2 (map_read_asWritten h hitems hread)

theorem string_of_normalize? {j : Json} {s : String} (h : normalize? j = some (.string s)) :
    j = .string s := by
  rcases Json.normalize?_cases h with ⟨_, _, -, hs, -⟩ | ⟨_, _, -, hs, -⟩ | ⟨hs, -⟩
  · cases hs
  · cases hs
  · exact hs.symm

theorem given_asWritten {α : Type} {read : Json → Except ReadError α} {absent a : α}
    {found : Option Json} (hr : ∀ j, found = some j → ReadsAsWritten read j)
    (hv : ∀ j, found = some j → ∃ v, normalize? j = some v)
    (h : given read absent (found.bind normalize?) = .ok a) : given read absent found = .ok a := by
  cases found with
  | none => exact h
  | some j =>
    obtain ⟨v, hj⟩ := hv j rfl
    rw [Option.bind_some, hj] at h
    exact hr j rfl v a hj h

theorem Spells.asWritten {j v : Json} {c : Condition} (h : Spells (parts v) c)
    (hn : HasDistinctNames (parts j)) (hv : normalize? j = some v)
    (hl : ∀ k, ("criteria", k) ∈ parts j → ReadsAsWritten readList k) : Spells (parts j) c := by
  have hf : ∀ key, find? key (parts v) = (find? key (parts j)).bind normalize? := find?_parts hn hv
  have hnormal : ∀ key k, find? key (parts j) = some k → ∃ w, normalize? k = some w :=
    fun key k hk => exists_normalize?_of_mem_parts hv (Json.mem_of_find?_eq_some hk)
  obtain ⟨name, hname, hmark⟩ := h.marked
  have ho := h.operator
  have hfield := h.field
  have hvalue := h.value
  have hnested := h.nested
  rw [hf] at hname ho hfield hvalue hnested
  constructor
  · intro m hm
    have hfound : find? m.1 (parts j) = some m.2 := (Json.find?_eq_some_iff_mem hn).2 hm
    obtain ⟨w, hw⟩ := hnormal m.1 m.2 hfound
    have hfoundv : find? m.1 (parts v) = some w := by rw [hf, hfound, Option.bind_some, hw]
    exact h.known (m.1, w) (Json.mem_of_find?_eq_some hfoundv)
  · exact ⟨name, given_asWritten (fun k _ => readsAsWritten_text? k) (hnormal _) hname, hmark⟩
  · obtain ⟨k, hk, hs⟩ := Option.bind_eq_some_iff.1 ho
    rw [hk, string_of_normalize? hs]
  · exact given_asWritten (fun k _ => readsAsWritten_text? k) (hnormal _) hfield
  · exact given_asWritten (fun k _ => readsAsWritten_value? k) (hnormal _) hvalue
  · exact given_asWritten (fun k hk => hl k (Json.mem_of_find?_eq_some hk)) (hnormal _) hnested

theorem readsAsWritten_node {j : Json} (h : ¬ RepeatsKey j)
    (hl : ∀ m ∈ parts j, (∀ items, m.2 = .list items → ∀ k ∈ items, ¬ RepeatsKey k) →
      ReadsAsWritten readList m.2) : ReadsAsWritten read j := by
  intro v c hv hc
  have hn : HasDistinctNames (parts j) := Classical.not_not.1 fun hn => h (.here hn)
  obtain ⟨hfits, -, hs⟩ := read_eq_ok_iff_parts.1 hc
  refine read_eq_ok_iff_parts.2 ⟨(fits_iff_of_normalize? hv).1 hfits, hn, ?_⟩
  refine hs.asWritten hn hv fun k hk => hl ("criteria", k) hk ?_
  rintro items rfl i hi hr
  exact h (.within hk hi hr)

/-- Where no name is repeated, a tree is read as its normal form is. -/
theorem readsAsWritten (j : Json) : (¬ RepeatsKey j → ReadsAsWritten read j) ∧
    ((∀ items, j = .list items → ∀ k ∈ items, ¬ RepeatsKey k) → ReadsAsWritten readList j) := by
  induction j using Json.induction with
  | list items ih =>
    refine ⟨fun h => readsAsWritten_node h fun m hm => (ih m.2 (List.of_mem_zip hm).2).2, ?_⟩
    exact fun h => readsAsWritten_nested fun k hk => (ih k hk).1 (h items rfl k hk)
  | object ms ih =>
    refine ⟨fun h => readsAsWritten_node h fun m hm => (ih m hm).2, fun _ v cs hv h => ?_⟩
    obtain ⟨vs, -, rfl⟩ := Option.map_eq_some_iff.1 hv
    cases h
  | leaf j hl ho =>
    have self {v : Json} (hv : normalize? j = some v) : v = j := by
      rcases Json.normalize?_cases hv with ⟨items, _, h, -⟩ | ⟨ms, _, h, -⟩ | ⟨h, -⟩
      · exact absurd h (hl items)
      · exact absurd h (ho ms)
      · exact h
    exact ⟨fun _ v c hv h => self hv ▸ h, fun _ v cs hv h => self hv ▸ h⟩

/-- Unless a name is repeated, a condition is read from a tree as from its value. -/
theorem read_eq_ok_iff_value {j : Json} (h : ¬ RepeatsKey j) {c : Condition} :
    read j = .ok c ↔ ∃ v, Value.ofJson? j = some v ∧ read v.json = .ok c := by
  constructor
  · exact fun hc => (isReadFrom_of_read hc).2
  · rintro ⟨v, hv, hc⟩
    exact (readsAsWritten j).1 h v.json c (Value.ofJson?_eq_some_iff.1 hv) hc

end Condition

namespace Criteria

open Condition (RepeatsKey)

theorem read_congr {j k : Json} (h : normalize? j = normalize? k) : read j = read k := by
  have hr : Record.ofJson? j = Record.ofJson? k := Option.ext fun r => by
    rw [Record.ofJson?_eq_some_iff, Record.ofJson?_eq_some_iff, h]
  rw [read, read, hr]

theorem read_eq_ok_iff_value {j : Json} {x : Criteria} :
    read j = .ok x ↔ ∃ v, Value.ofJson? j = some v ∧ read v.json = .ok x := by
  constructor
  · exact fun h => (isReadFrom_of_read h).2
  · rintro ⟨v, hv, h⟩
    rwa [← read_json hv]

/-- What is read as a tree of conditions stands for a value that is read as them. -/
theorem exists_value_of_read_eq_advanced {j : Json} {c : Condition}
    (h : read j = .ok (.advanced c)) :
    ∃ v, Value.ofJson? j = some v ∧ Condition.read v.json = .ok c := by
  rw [read] at h
  split at h
  · next r hr =>
    obtain ⟨v, hv, hrecord⟩ := Option.bind_eq_some_iff.1 hr
    refine ⟨v, hv, ?_⟩
    rw [Value.record?_eq_some_iff.1 hrecord]
    rw [ofRecord] at h
    split at h
    · obtain ⟨d, hd, he⟩ := except_map_eq_ok_iff.1 h
      cases he
      exact hd
    · cases h
  · cases h

/-- A filter is the same whether it is read from a text or from the value that the text writes, and
it hangs on no member that a later one of its name supersedes. A condition is not read from a text
in which a node repeats a name. Every other text is read as a condition as its value is, and through
the value every tree of conditions that is a filter is read as a condition. -/
theorem text_and_value_agree :
    (∀ s, Json.directly? read s = Json.throughValue? read s) ∧
    (∀ s t j k, Json.ofText? s = some j → Json.ofText? t = some k → Json.Superseded j k →
      Json.directly? read s = Json.directly? read t) ∧
    (∀ s j, Json.ofText? s = some j → RepeatsKey j →
      Json.directly? Condition.read s = none) ∧
    (∀ s j, Json.ofText? s = some j → ¬ RepeatsKey j →
      Json.directly? Condition.read s = Json.throughValue? Condition.read s) ∧
    ∀ s c, Json.directly? read s = some (.advanced c) →
      Json.throughValue? Condition.read s = some c := by
  refine ⟨?_, ?_, ?_, ?_, ?_⟩
  · intro s
    refine Option.ext fun x => ?_
    simp only [Json.directly?_eq_some_iff, Json.throughValue?_eq_some_iff, ← read_eq_ok_iff_value]
  · intro s t j k hj hk h
    rw [Json.directly?, Json.directly?, hj, hk, Option.bind_some, Option.bind_some,
      read_congr (Json.normalize?_of_superseded h)]
  · intro s j hj h
    refine Option.eq_none_iff_forall_ne_some.2 fun c hc => ?_
    obtain ⟨k, hk, hread⟩ := Json.directly?_eq_some_iff.1 hc
    cases hj.symm.trans hk
    exact h.read_ne_ok c hread
  · intro s j hj h
    refine Option.ext fun c => ?_
    simp only [Json.directly?_eq_some_iff, Json.throughValue?_eq_some_iff, hj, Option.some.injEq,
      exists_eq_left']
    exact Condition.read_eq_ok_iff_value h
  · intro s c h
    obtain ⟨j, hj, hread⟩ := Json.directly?_eq_some_iff.1 h
    exact Json.throughValue?_eq_some_iff.2 ⟨j, hj, exists_value_of_read_eq_advanced hread⟩

/-- Of a mark and of an operator that are repeated the last ones count, but not for a condition. -/
example :
    let s := "\x7b\"_constructor\":\"None\",\"_constructor\":\"AdvancedCriteria\"," ++
      "\"operator\":\"and\",\"criteria\":[\x7b\"operator\":\"eq\",\"operator\":\"ne\"\x7d]\x7d"
    Json.directly? read s = some (.advanced (.join "and" [⟨"ne", none, none, []⟩])) ∧
      Json.directly? Condition.read s = none := by decide +kernel

end Criteria

end Switchboard
