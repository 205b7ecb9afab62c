import Switchboard.Json.Basic

/-!
# JSON values

A tree is canonical when the members of all its objects are in strictly increasing order of name,
and nothing in it is unreadable. `normalize?` reads any tree as a canonical one: members are sorted,
of those that share a name the last stays. A `Value` is a canonical tree and a `Record` an object of
one; two of them hold the same data exactly when they are equal.

* `normalize?_canonical`, `normalize?_of_canonical`: normalising yields a canonical tree, and leaves
  one as it is.
* `Record.find?_insert`: what writing a field changes.
-/

namespace Switchboard

namespace Json

/-- Members in strictly increasing order of name, everywhere, and nothing unreadable. -/
inductive Canonical : Json → Prop where
  | null : Canonical .null
  | bool (b : Bool) : Canonical (.bool b)
  | number (n : Decimal.Number) : Canonical (.number n)
  | string (s : String) : Canonical (.string s)
  | list {items : List Json} : (∀ j ∈ items, Canonical j) → Canonical (.list items)
  | object {ms : List (String × Json)} :
      Sorted ms → (∀ m ∈ ms, Canonical m.2) → Canonical (.object ms)

/-- Puts a member in front of sorted ones that may already have a later member of its name. -/
def precede (key : String) (value : Json) (ms : List (String × Json)) : List (String × Json) :=
  if (find? key ms).isSome then ms else insert key value ms

mutual

/-- The canonical tree that a tree stands for, if all of it can be read. -/
def normalize? : Json → Option Json
  | null => some null
  | bool b => some (bool b)
  | number n => some (number n)
  | string s => some (string s)
  | list items => (normalizeItems? items).map list
  | object ms => (normalizeMembers? ms).map object
  | unreadable _ => none
termination_by structural j => j

/-- The canonical trees of a list. -/
def normalizeItems? : List Json → Option (List Json)
  | [] => some []
  | j :: js =>
    match normalize? j, normalizeItems? js with
    | some v, some vs => some (v :: vs)
    | _, _ => none
termination_by structural js => js

/-- The members in order of name; of those that share one the last stays. -/
def normalizeMembers? : List (String × Json) → Option (List (String × Json))
  | [] => some []
  | (key, j) :: ms =>
    match normalize? j, normalizeMembers? ms with
    | some v, some vs => some (precede key v vs)
    | _, _ => none
termination_by structural ms => ms

end

theorem Canonical.items {items : List Json} (h : Canonical (.list items)) :
    ∀ j ∈ items, Canonical j := by
  cases h with
  | list h => exact h

theorem Canonical.sorted {ms : List (String × Json)} (h : Canonical (.object ms)) : Sorted ms := by
  cases h with
  | object h _ => exact h

theorem Canonical.members {ms : List (String × Json)} (h : Canonical (.object ms)) :
    ∀ m ∈ ms, Canonical m.2 := by
  cases h with
  | object _ h => exact h

theorem canonical_insert {key : String} {value : Json} {ms : List (String × Json)}
    (hv : Canonical value) (h : Canonical (.object ms)) :
    Canonical (.object (insert key value ms)) := by
  refine .object (insert_sorted h.sorted) fun m hm => ?_
  rcases mem_insert hm with rfl | hm
  · exact hv
  · exact h.members m hm

theorem canonical_find? {key : String} {value : Json} {ms : List (String × Json)}
    (hf : find? key ms = some value) (h : ∀ m ∈ ms, Canonical m.2) : Canonical value := by
  induction ms with
  | nil => cases hf
  | cons a ms ih =>
    simp only [find?] at hf
    split at hf
    · cases hf
      exact h a List.mem_cons_self
    · exact ih hf fun m hm => h m (List.mem_cons_of_mem _ hm)

mutual

/-- Normalising yields a canonical tree. -/
theorem normalize?_canonical : ∀ {j v : Json}, normalize? j = some v → Canonical v
  | null, v, h | bool _, v, h | number _, v, h | string _, v, h => by
    simp only [normalize?, Option.some.injEq] at h
    subst h
    constructor
  | list items, v, h => by
    simp only [normalize?, Option.map_eq_some_iff] at h
    obtain ⟨vs, hvs, rfl⟩ := h
    exact .list (normalizeItems?_canonical hvs)
  | object ms, v, h => by
    simp only [normalize?, Option.map_eq_some_iff] at h
    obtain ⟨vs, hvs, rfl⟩ := h
    exact normalizeMembers?_canonical hvs
  | unreadable _, v, h => by simp [normalize?] at h

theorem normalizeItems?_canonical :
    ∀ {js vs : List Json}, normalizeItems? js = some vs → ∀ v ∈ vs, Canonical v
  | [], vs, h => by
    simp only [normalizeItems?, Option.some.injEq] at h
    subst h
    simp
  | j :: js, vs, h => by
    simp only [normalizeItems?] at h
    split at h
    · next v ws hv hws =>
      cases h
      intro w hw
      rcases List.mem_cons.1 hw with rfl | hw
      · exact normalize?_canonical hv
      · exact normalizeItems?_canonical hws w hw
    · cases h

theorem normalizeMembers?_canonical :
    ∀ {ms vs : List (String × Json)}, normalizeMembers? ms = some vs → Canonical (.object vs)
  | [], vs, h => by
    simp only [normalizeMembers?, Option.some.injEq] at h
    subst h
    exact .object .nil (by simp)
  | (key, j) :: ms, vs, h => by
    simp only [normalizeMembers?] at h
    split at h
    · next v ws hv hws =>
      cases h
      simp only [precede]
      split
      · exact normalizeMembers?_canonical hws
      · exact canonical_insert (normalize?_canonical hv) (normalizeMembers?_canonical hws)
    · cases h

end

theorem find?_eq_none_of_lt {key : String} {ms : List (String × Json)} (h : ∀ m ∈ ms, key < m.1) :
    find? key ms = none := by
  induction ms with
  | nil => rfl
  | cons a ms ih =>
    have hne : ¬a.1 = key := fun he => String.lt_irrefl _ (he ▸ h a List.mem_cons_self)
    rw [find?, if_neg hne, ih fun m hm => h m (List.mem_cons_of_mem _ hm)]

theorem precede_of_lt {key : String} {value : Json} {ms : List (String × Json)}
    (h : ∀ m ∈ ms, key < m.1) : precede key value ms = (key, value) :: ms := by
  simp [precede, find?_eq_none_of_lt h, insert_of_lt h]

mutual

/-- Normalising leaves a canonical tree as it is. -/
theorem normalize?_of_canonical : ∀ {j : Json}, Canonical j → normalize? j = some j
  | null, _ | bool _, _ | number _, _ | string _, _ => rfl
  | list items, h => by simp [normalize?, normalizeItems?_of_canonical h.items]
  | object ms, h => by simp [normalize?, normalizeMembers?_of_canonical h.sorted h.members]
  | unreadable _, h => nomatch h

theorem normalizeItems?_of_canonical :
    ∀ {js : List Json}, (∀ j ∈ js, Canonical j) → normalizeItems? js = some js
  | [], _ => rfl
  | j :: js, h => by
    simp [normalizeItems?, normalize?_of_canonical (h j List.mem_cons_self),
      normalizeItems?_of_canonical fun k hk => h k (List.mem_cons_of_mem _ hk)]

theorem normalizeMembers?_of_canonical :
    ∀ {ms : List (String × Json)}, Sorted ms → (∀ m ∈ ms, Canonical m.2) →
      normalizeMembers? ms = some ms
  | [], _, _ => rfl
  | (key, j) :: ms, hs, h => by
    obtain ⟨hlt, hs⟩ := List.pairwise_cons.1 hs
    simp [normalizeMembers?, normalize?_of_canonical (h (key, j) List.mem_cons_self),
      normalizeMembers?_of_canonical hs fun m hm => h m (List.mem_cons_of_mem _ hm),
      precede_of_lt hlt]

end

end Json

/-- A JSON value: a canonical tree. -/
structure Value where
  json : Json
  canonical : json.Canonical
deriving DecidableEq

/-- A record: values by name. -/
structure Record where
  members : List (String × Json)
  canonical : (Json.object members).Canonical
deriving DecidableEq

namespace Value

/-- The value that a tree stands for, if all of it can be read. -/
def ofJson? (j : Json) : Option Value :=
  match h : j.normalize? with
  | none => none
  | some v => some ⟨v, Json.normalize?_canonical h⟩

/-- The value null. -/
def null : Value := ⟨.null, .null⟩

/-- A text as a value. -/
def ofString (s : String) : Value := ⟨.string s, .string s⟩

/-- A number as a value. -/
def ofNat (n : Nat) : Value := ⟨.number (.int n), .number _⟩

/-- A record as a value. -/
def ofRecord (r : Record) : Value := ⟨.object r.members, r.canonical⟩

/-- The text, if the value is one. -/
def text? (v : Value) : Option String :=
  match v.json with
  | .string s => some s
  | _ => none

/-- The record, if the value is one. -/
def record? (v : Value) : Option Record :=
  match h : v.json with
  | .object ms => some ⟨ms, h ▸ v.canonical⟩
  | _ => none

/-- The items, if the value is a list. -/
def items? (v : Value) : Option (List Value) :=
  match h : v.json with
  | .list js => some (js.attach.map fun j => ⟨j.1, (h ▸ v.canonical).items j.1 j.2⟩)
  | _ => none

@[ext] theorem ext {v w : Value} (h : v.json = w.json) : v = w := by
  cases v
  cases w
  simp_all

@[simp]
theorem text?_eq_some_iff {v : Value} {s : String} : v.text? = some s ↔ v = .ofString s := by
  constructor
  · intro h
    unfold text? at h
    split at h
    · next t ht =>
      cases h
      exact ext ht
    · cases h
  · rintro rfl
    rfl

@[simp]
theorem record?_eq_some_iff {v : Value} {r : Record} : v.record? = some r ↔ v = .ofRecord r := by
  constructor
  · intro h
    unfold record? at h
    split at h
    · next ms hv =>
      cases h
      exact ext hv
    · cases h
  · rintro rfl
    rfl

@[simp] theorem ofJson?_json (v : Value) : ofJson? v.json = some v := by
  unfold ofJson?
  split
  · next h => simp [Json.normalize?_of_canonical v.canonical] at h
  · next w h =>
    simp only [Json.normalize?_of_canonical v.canonical, Option.some.injEq] at h
    exact congrArg some (ext h.symm)

end Value

namespace Record

/-- The record with no fields. -/
def empty : Record := ⟨[], .object .nil (by simp)⟩

instance : Inhabited Record := ⟨empty⟩

/-- Writes a field; an earlier value under its name gives way. -/
def insert (r : Record) (key : String) (value : Value) : Record :=
  ⟨Json.insert key value.json r.members, Json.canonical_insert value.canonical r.canonical⟩

/-- The value under a name. -/
def find? (r : Record) (key : String) : Option Value :=
  match h : Json.find? key r.members with
  | none => none
  | some j => some ⟨j, Json.canonical_find? h r.canonical.members⟩

/-- The number of fields. -/
def size (r : Record) : Nat := r.members.length

/-- The record that a tree stands for, if it is an object and all of it can be read. -/
def ofJson? (j : Json) : Option Record :=
  (Value.ofJson? j).bind Value.record?

@[ext] theorem ext {r s : Record} (h : r.members = s.members) : r = s := by
  cases r
  cases s
  simp_all

theorem find?_eq_some_iff {r : Record} {key : String} {v : Value} :
    r.find? key = some v ↔ Json.find? key r.members = some v.json := by
  unfold find?
  split
  · next h => simp [h]
  · next j h =>
    constructor
    · intro hv
      cases hv
      exact h
    · intro hj
      exact congrArg some (Value.ext (Option.some.inj (h.symm.trans hj)))

@[simp] theorem find?_insert (r : Record) (key : String) (value : Value) (k : String) :
    (r.insert key value).find? k = if key = k then some value else r.find? k := by
  apply Option.ext
  intro v
  rw [find?_eq_some_iff, insert, Json.find?_insert key value.json r.members k r.canonical.sorted]
  split
  · simp only [Option.some.injEq]
    exact ⟨Value.ext, fun h => h ▸ rfl⟩
  · exact find?_eq_some_iff.symm

@[simp] theorem ofJson?_object (r : Record) : ofJson? (.object r.members) = some r := by
  rw [ofJson?, show Json.object r.members = (Value.ofRecord r).json from rfl, Value.ofJson?_json]
  rfl

end Record

end Switchboard
