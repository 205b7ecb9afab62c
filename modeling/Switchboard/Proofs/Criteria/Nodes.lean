import Switchboard.Criteria
import Switchboard.Proofs.Attempts
import Switchboard.Proofs.Json.Members

/-!
# Nodes by name

An object is read as a node member by member, into a draft of what was read so far. As each part of
the draft is read from the member of one name, and no name may come twice, the order of the members
is of no account: a condition is read where each part of it is what is found under its name.

* `readMember_eq_ok_iff`: what reading one member does, and where it can be read.
* `exists_readMembers_iff`: members are read where each can be and no two share a name.
* `IsPart.given_find?`: once all members are read, a part is what is found under its name.
* `read_object_eq_ok_iff`: an object is read as the condition that its members spell.
-/

namespace Switchboard

open Json (ReadError HasDistinctNames find?)

namespace Condition

/-! ## Reading one member -/

/-- What a draft becomes by reading a member. -/
inductive Takes (d : Draft) (key : String) (j : Json) (d' : Draft) : Prop where
  | mark (name : Option String) (named : key = markKey) (read : readText? j = .ok name)
      (taken : d' = { d with marked := name, seen := key :: d.seen })
  | operator (s : String) (named : key = "operator") (read : j = .string s)
      (taken : d' = { d with operator := some s, seen := key :: d.seen })
  | field (s : Option String) (named : key = "fieldName") (read : readText? j = .ok s)
      (taken : d' = { d with field := s, seen := key :: d.seen })
  | value (v : Option Value) (named : key = "value") (read : readValue? j = .ok v)
      (taken : d' = { d with value := v, seen := key :: d.seen })
  | nested (items : List Json) (cs : List Condition) (named : key = "criteria")
      (written : j = .list items) (read : readNested items = .ok cs)
      (taken : d' = { d with nested := cs, seen := key :: d.seen })

theorem readPlain_eq_ok_iff {d d' : Draft} {key : String} {j : Json} :
    (d.readPlain key j).map (fun d => { d with seen := key :: d.seen }) = .ok d' ↔
      Takes d key j d' ∧ key ≠ "criteria" := by
  constructor
  · intro h
    obtain ⟨e, he, rfl⟩ := except_map_eq_ok_iff.1 h
    unfold Draft.readPlain at he
    split at he
    · next hk =>
      obtain ⟨s, hs, rfl⟩ := except_map_eq_ok_iff.1 he
      exact ⟨.mark s hk hs rfl, hk ▸ by decide⟩
    split at he
    · next hk =>
      split at he
      · next s =>
        cases he
        exact ⟨.operator s hk rfl rfl, hk ▸ by decide⟩
      · cases he
    split at he
    · next hk =>
      obtain ⟨s, hs, rfl⟩ := except_map_eq_ok_iff.1 he
      exact ⟨.field s hk hs rfl, hk ▸ by decide⟩
    split at he
    · next hk =>
      obtain ⟨v, hv, rfl⟩ := except_map_eq_ok_iff.1 he
      exact ⟨.value v hk hv rfl, hk ▸ by decide⟩
    · cases he
  · rintro ⟨h, hk⟩
    cases h with
    | mark s named read taken => simp [Draft.readPlain, named, read, taken, Except.map]
    | operator s named read taken => simp [Draft.readPlain, named, read, taken, markKey, Except.map]
    | field s named read taken => simp [Draft.readPlain, named, read, taken, markKey, Except.map]
    | value v named read taken => simp [Draft.readPlain, named, read, taken, markKey, Except.map]
    | nested items cs named _ _ _ => exact absurd named hk

theorem takes_criteria_iff {d d' : Draft} {j : Json} :
    Takes d "criteria" j d' ↔ ∃ items cs, j = .list items ∧ readNested items = .ok cs ∧
      d' = { d with nested := cs, seen := "criteria" :: d.seen } := by
  constructor
  · intro h
    cases h with
    | nested items cs _ written read taken => exact ⟨items, cs, written, read, taken⟩
    | mark _ named _ _ | operator _ named _ _ | field _ named _ _ | value _ named _ _ =>
      exact absurd named (by decide)
  · rintro ⟨items, cs, written, read, taken⟩
    exact .nested items cs rfl written read taken

/-- A member is read where none of its name was, into the part of the node that it names. -/
theorem readMember_eq_ok_iff {d d' : Draft} {key : String} {j : Json} :
    readMember d key j = .ok d' ↔ key ∉ d.seen ∧ Takes d key j d' := by
  by_cases hs : key ∈ d.seen
  · cases j <;> simp [readMember, hs]
  simp only [hs, not_false_eq_true, true_and]
  by_cases hl : ∃ items, j = .list items ∧ key = "criteria"
  · obtain ⟨items, rfl, rfl⟩ := hl
    rw [takes_criteria_iff]
    cases hr : readNested items with
    | error e => simp [readMember, hs, hr]
    | ok cs => simp [readMember, hs, hr, eq_comm]
  · -- All other members are read as plain ones, and conditions cannot stand in those.
    have hp : readMember d key j =
        (d.readPlain key j).map fun d => { d with seen := key :: d.seen } := by
      cases j with
      | list items =>
        have hk : key ≠ "criteria" := fun hk => hl ⟨items, rfl, hk⟩
        simp [readMember, hs, hk]
      | _ => simp [readMember, hs]
    rw [hp, readPlain_eq_ok_iff, and_iff_left_iff_imp]
    rintro h rfl
    obtain ⟨items, cs, rfl, -, -⟩ := takes_criteria_iff.1 h
    exact hl ⟨items, rfl, rfl⟩

theorem Takes.seen_eq {d d' : Draft} {key : String} {j : Json} (h : Takes d key j d') :
    d'.seen = key :: d.seen := by
  cases h with
  | mark _ _ _ taken | operator _ _ _ taken | field _ _ _ taken | value _ _ _ taken
  | nested _ _ _ _ _ taken => rw [taken]

theorem Takes.mem_keys {d d' : Draft} {key : String} {j : Json} (h : Takes d key j d') :
    key ∈ keys := by
  cases h with
  | mark _ named _ _ | operator _ named _ _ | field _ named _ _ | value _ named _ _
  | nested _ _ named _ _ _ => simp [keys, named]

/-! ## The parts of a node -/

/-- Reads a text. -/
def readText : Json → Except ReadError (Option String)
  | .string s => .ok (some s)
  | _ => .error .form

/-- Reads conditions from a list. -/
def readList : Json → Except ReadError (List Condition)
  | .list items => readNested items
  | _ => .error .form

/-- A part of a draft is read from the member of a name, and no other member changes it. -/
structure IsPart {α : Type} (name : String) (read : Json → Except ReadError α) (part : Draft → α) :
    Prop where
  own : ∀ {d j d'}, Takes d name j d' → read j = .ok (part d')
  other : ∀ {d key j d'}, key ≠ name → Takes d key j d' → part d' = part d

theorem isPart_marked : IsPart markKey readText? Draft.marked where
  own h := by cases h <;> simp_all [markKey]
  other hk h := by cases h <;> simp_all

theorem isPart_operator : IsPart "operator" readText Draft.operator where
  own h := by cases h <;> simp_all [markKey, readText]
  other hk h := by cases h <;> simp_all

theorem isPart_field : IsPart "fieldName" readText? Draft.field where
  own h := by cases h <;> simp_all [markKey]
  other hk h := by cases h <;> simp_all

theorem isPart_value : IsPart "value" readValue? Draft.value where
  own h := by cases h <;> simp_all [markKey]
  other hk h := by cases h <;> simp_all

theorem isPart_nested : IsPart "criteria" readList Draft.nested where
  own h := by cases h <;> simp_all [markKey, readList]
  other hk h := by cases h <;> simp_all

/-! ## Reading all members -/

/-- A member can be read, whatever was read before members of other names. -/
def IsReadable (key : String) (j : Json) : Prop := ∀ d, ∃ d', Takes d key j d'

theorem Takes.isReadable {d d' : Draft} {key : String} {j : Json} (h : Takes d key j d') :
    IsReadable key j := by
  intro e
  cases h with
  | mark name named read _ => exact ⟨_, .mark name named read rfl⟩
  | operator s named read _ => exact ⟨_, .operator s named read rfl⟩
  | field s named read _ => exact ⟨_, .field s named read rfl⟩
  | value v named read _ => exact ⟨_, .value v named read rfl⟩
  | nested items cs named written read _ => exact ⟨_, .nested items cs named written read rfl⟩

theorem readMembers_cons_eq_ok_iff {d d' : Draft} {m : String × Json} {ms : List (String × Json)} :
    readMembers d (m :: ms) = .ok d' ↔
      ∃ mid, (m.1 ∉ d.seen ∧ Takes d m.1 m.2 mid) ∧ readMembers mid ms = .ok d' := by
  simp only [← readMember_eq_ok_iff, readMembers]
  cases readMember d m.1 m.2 <;> simp

/-- Members can be read one after the other when each can be on its own and no two share a name. -/
theorem exists_readMembers_iff {d : Draft} {ms : List (String × Json)} :
    (∃ d', readMembers d ms = .ok d') ↔
      HasDistinctNames ms ∧ (∀ m ∈ ms, m.1 ∉ d.seen) ∧ ∀ m ∈ ms, IsReadable m.1 m.2 := by
  induction ms generalizing d with
  | nil => simp [readMembers, HasDistinctNames]
  | cons m ms ih =>
    simp only [readMembers_cons_eq_ok_iff, List.forall_mem_cons]
    constructor
    · rintro ⟨d', mid, ⟨hm, ht⟩, h⟩
      obtain ⟨hn, hs, hr⟩ := ih.1 ⟨d', h⟩
      simp only [ht.seen_eq, List.mem_cons, not_or] at hs
      have hnew : m.1 ∉ ms.map Prod.fst := by
        intro hmem
        obtain ⟨n, hn, he⟩ := List.mem_map.1 hmem
        exact (hs n hn).1 he
      exact ⟨List.nodup_cons.2 ⟨hnew, hn⟩, ⟨hm, fun n hn => (hs n hn).2⟩, ht.isReadable, hr⟩
    · rintro ⟨hn, ⟨hm, hs⟩, hr, hrs⟩
      obtain ⟨hnew, hn⟩ := List.nodup_cons.1 hn
      obtain ⟨mid, ht⟩ := hr d
      have hs' : ∀ n ∈ ms, n.1 ∉ mid.seen := by
        intro n hmem
        rw [ht.seen_eq, List.mem_cons, not_or]
        exact ⟨fun he => hnew (he ▸ List.mem_map_of_mem hmem), hs n hmem⟩
      obtain ⟨d', h⟩ := ih.2 ⟨hn, hs', hrs⟩
      exact ⟨d', mid, ⟨hm, ht⟩, h⟩

/-- Reads what may be missing. -/
def given {α : Type} (read : Json → Except ReadError α) (absent : α) :
    Option Json → Except ReadError α
  | none => .ok absent
  | some j => read j

/-- Once all members are read, a part is what the member of its name holds. -/
theorem IsPart.given_find? {α : Type} {name : String} {read : Json → Except ReadError α}
    {part : Draft → α} (hp : IsPart name read part) {d d' : Draft} {ms : List (String × Json)}
    (hn : HasDistinctNames ms) (h : readMembers d ms = .ok d') :
    given read (part d) (find? name ms) = .ok (part d') := by
  induction ms generalizing d with
  | nil =>
    cases h
    rfl
  | cons m ms ih =>
    obtain ⟨hnew, hms⟩ := List.nodup_cons.1 hn
    obtain ⟨mid, ⟨-, ht⟩, h⟩ := readMembers_cons_eq_ok_iff.1 h
    have hrest := ih hms h
    by_cases hk : m.1 = name
    · subst hk
      rw [Json.find?_eq_none_iff.2 hnew, given] at hrest
      rw [find?, if_pos rfl, given, hp.own ht]
      exact hrest
    · rw [find?, if_neg hk, ← hp.other hk ht]
      exact hrest

/-! ## Nodes -/

/-- The members of an object spell a condition: no other members stand there than a node may have,
and each part of the condition is what the member of its name holds. -/
structure Spells (ms : List (String × Json)) (c : Condition) : Prop where
  known : ∀ m ∈ ms, m.1 ∈ keys
  marked : ∃ name, given readText? none (find? markKey ms) = .ok name ∧
    ∀ s, name = some s → s = mark
  operator : find? "operator" ms = some (.string c.operator)
  field : given readText? none (find? "fieldName" ms) = .ok c.field
  value : given readValue? none (find? "value" ms) = .ok c.value
  nested : given readList [] (find? "criteria" ms) = .ok c.nested

theorem finish_eq_ok_iff {d : Draft} {c : Condition} :
    d.finish = .ok c ↔ (∀ s, d.marked = some s → s = mark) ∧ d.operator = some c.operator ∧
      d.field = c.field ∧ d.value = c.value ∧ d.nested = c.nested := by
  obtain ⟨operator, field, value, nested⟩ := c
  unfold Draft.finish
  cases ho : d.operator with
  | none => simp
  | some o =>
    cases hm : d.marked with
    | none => simp
    | some s => by_cases hs : s = mark <;> simp [hs]

@[simp]
theorem readText_eq_ok_iff {j : Json} {s : String} : readText j = .ok (some s) ↔ j = .string s := by
  cases j <;> simp [readText]

theorem Spells.isReadable {ms : List (String × Json)} {c : Condition} (h : Spells ms c)
    (hn : HasDistinctNames ms) {m : String × Json} (hm : m ∈ ms) : IsReadable m.1 m.2 := by
  intro d
  have hf : find? m.1 ms = some m.2 := (Json.find?_eq_some_iff_mem hn).2 hm
  have hk := h.known m hm
  simp only [keys, List.mem_cons, List.not_mem_nil, or_false] at hk
  rcases hk with hk | hk | hk | hk | hk <;> rw [hk] at hf ⊢
  · obtain ⟨name, hname, -⟩ := h.marked
    rw [hf] at hname
    exact ⟨_, .mark name rfl hname rfl⟩
  · exact ⟨_, .operator c.operator rfl (Option.some.inj (hf.symm.trans h.operator)) rfl⟩
  · have hs := h.field
    rw [hf] at hs
    exact ⟨_, .field c.field rfl hs rfl⟩
  · have hv := h.value
    rw [hf] at hv
    exact ⟨_, .value c.value rfl hv rfl⟩
  · have hc := h.nested
    rw [hf] at hc
    cases hj : m.2 with
    | list items =>
      rw [hj] at hc
      exact ⟨_, .nested items c.nested rfl rfl hc rfl⟩
    | _ => rw [hj] at hc; cases hc

/-- An object is read as a condition when its members have different names and spell it. -/
theorem read_object_eq_ok_iff {ms : List (String × Json)} {c : Condition} :
    read (.object ms) = .ok c ↔ HasDistinctNames ms ∧ Spells ms c := by
  have hread : read (.object ms) = .ok c ↔
      ∃ d, readMembers .blank ms = .ok d ∧ d.finish = .ok c := by
    rw [read]
    cases readMembers .blank ms <;> simp
  rw [hread]
  constructor
  · rintro ⟨d, hd, hf⟩
    obtain ⟨hn, -, hr⟩ := exists_readMembers_iff.1 ⟨d, hd⟩
    obtain ⟨hm, ho, hs, hv, hc⟩ := finish_eq_ok_iff.1 hf
    refine ⟨hn, fun m hmem => ?_, ⟨d.marked, isPart_marked.given_find? hn hd, hm⟩, ?_, ?_, ?_, ?_⟩
    · obtain ⟨d', ht⟩ := hr m hmem .blank
      exact ht.mem_keys
    · have hop := isPart_operator.given_find? hn hd
      rw [ho] at hop
      cases hj : find? "operator" ms with
      | none => rw [hj] at hop; cases hop
      | some j =>
        rw [hj] at hop
        exact congrArg some (readText_eq_ok_iff.1 hop)
    · exact hs ▸ isPart_field.given_find? hn hd
    · exact hv ▸ isPart_value.given_find? hn hd
    · exact hc ▸ isPart_nested.given_find? hn hd
  · rintro ⟨hn, h⟩
    obtain ⟨d, hd⟩ := exists_readMembers_iff (d := .blank).2
      ⟨hn, fun _ _ => List.not_mem_nil, fun m hm => h.isReadable hn hm⟩
    obtain ⟨name, hname, hmark⟩ := h.marked
    have hm := isPart_marked.given_find? hn hd
    have ho := isPart_operator.given_find? hn hd
    rw [h.operator] at ho
    refine ⟨d, hd, finish_eq_ok_iff.2 ⟨?_, ?_, ?_, ?_, ?_⟩⟩
    · rwa [← Except.ok.inj (hname.symm.trans hm)]
    · exact (Except.ok.inj ho).symm
    · exact Except.ok.inj ((isPart_field.given_find? hn hd).symm.trans h.field)
    · exact Except.ok.inj ((isPart_value.given_find? hn hd).symm.trans h.value)
    · exact Except.ok.inj ((isPart_nested.given_find? hn hd).symm.trans h.nested)

theorem readNested_eq_ok_iff {items : List Json} {cs : List Condition} :
    readNested items = .ok cs ↔ items.map read = cs.map .ok := by
  induction items generalizing cs with
  | nil => cases cs <;> simp [readNested]
  | cons j items ih =>
    rw [readNested, List.map_cons]
    cases read j with
    | error e => cases cs <;> simp
    | ok c =>
      cases cs with
      | nil => simp
      | cons d ds =>
        simp only [except_map_eq_ok_iff, ih, List.cons.injEq, exists_eq_right_right,
          List.map_cons, Except.ok.injEq]
        exact and_comm

end Condition

end Switchboard
