import Switchboard.Proofs.Criteria.RoundTrip
import Switchboard.Proofs.Json.Layouts

/-!
# Records written and read back

A record is written slot by slot, and read back by the same slots, from what is written as well as
from the value that this stands for, where the members stand in another order. Each slot has its own
rule for what is absent: it may be written as null or left out, and a slot that is left out keeps
what the blank record has. So a record is read back when each slot brings back what it holds, from
the blank record to the one that was written.

* `perm_normalizeMembers?`: members in order of name are the members, each normalised.
* `Shape.isReadFrom_list`: a list is read back when its items are.
* `Slot.Restores`: a slot brings back what it holds, as by `Slot.restores_required`,
  `Slot.restores_optional` and `Slot.restores_nullable`.
* `Layout.Restores`, `Layout.isReadFrom_write`: all slots do, and so does the layout.
* `Layout.map_fst_members_sublist`: the names in the object that is written.
* `Layout.writesNames`: the names in all objects that are written, from those of the slots.
-/

namespace Switchboard.Json

variable {α β : Type} {d : Dialect}

/-! ## Members in order of name -/

theorem perm_insert {key : String} {value : Json} {ms : List (String × Json)}
    (h : key ∉ ms.map Prod.fst) : (insert key value ms).Perm ((key, value) :: ms) := by
  induction ms with
  | nil => exact .refl _
  | cons m ms ih =>
    rw [List.map_cons, List.mem_cons, not_or] at h
    unfold insert
    rw [if_neg h.1]
    split
    · exact .refl _
    · exact ((ih h.2).cons m).trans (.swap _ _ _)

/-- The second member holds under the same name what the first one holds, normalised. -/
def IsNormalOf (m v : String × Json) : Prop := v.1 = m.1 ∧ normalize? m.2 = some v.2

theorem map_fst_of_isNormalOf {ms vs : List (String × Json)} (h : List.Forall₂ IsNormalOf ms vs) :
    vs.map Prod.fst = ms.map Prod.fst := by
  induction h with
  | nil => rfl
  | cons hm _ ih => rw [List.map_cons, List.map_cons, hm.1, ih]

theorem perm_normalizeMembers? {ms vs : List (String × Json)} (hn : HasDistinctNames ms)
    (h : List.Forall₂ IsNormalOf ms vs) :
    ∃ ws, normalizeMembers? ms = some ws ∧ vs.Perm ws := by
  induction h with
  | nil => exact ⟨[], rfl, .refl _⟩
  | @cons m v ms vs hm hms ih =>
    obtain ⟨hnew, hn⟩ := List.nodup_cons.1 hn
    obtain ⟨ws, hws, hp⟩ := ih hn
    have hfresh : v.1 ∉ ws.map Prod.fst := by
      rw [← (hp.map Prod.fst).mem_iff, map_fst_of_isNormalOf hms, hm.1]
      exact hnew
    refine ⟨insert v.1 v.2 ws, ?_, (hp.cons v).trans (perm_insert hfresh).symm⟩
    simp only [normalizeMembers?, hm.2, hws, precede, ← hm.1, find?_eq_none_iff.2 hfresh,
      Option.isSome_none, Bool.false_eq_true, if_false]

/-! ## Shapes -/

theorem isReadFrom_iff {read : Json → Except ReadError α} {j : Json} {a : α} :
    IsReadFrom read j a ↔ read j = .ok a ∧ ∃ v, normalize? j = some v ∧ read v = .ok a := by
  refine and_congr_right fun _ => ⟨?_, ?_⟩
  · rintro ⟨v, hv, ha⟩
    exact ⟨v.json, Value.ofJson?_eq_some_iff.1 hv, ha⟩
  · rintro ⟨v, hv, ha⟩
    exact ⟨⟨v, normalize?_canonical hv⟩, Value.ofJson?_eq_some_iff.2 hv, ha⟩

theorem IsReadFrom.map {read : Json → Except ReadError α} {j : Json} {a : α}
    (h : IsReadFrom read j a) (f : α → β) : IsReadFrom (fun j => (read j).map f) j (f a) := by
  obtain ⟨hj, v, hv, hread⟩ := isReadFrom_iff.1 h
  exact isReadFrom_iff.2 ⟨by simp only [hj, Except.map], v, hv, by simp only [hread, Except.map]⟩

theorem normalize?_ne_null {j v : Json} (h : normalize? j = some v) (hj : j ≠ .null) :
    v ≠ .null := by
  rintro rfl
  cases j <;> simp_all [normalize?]

theorem IsReadFrom.orNull {read : Json → Except ReadError α} {j : Json} {a : α}
    (h : IsReadFrom read j a) (hj : j ≠ .null) (absent : α) :
    IsReadFrom (fun j => if j = .null then .ok absent else read j) j a := by
  obtain ⟨hread, v, hv, hreadv⟩ := isReadFrom_iff.1 h
  exact isReadFrom_iff.2 ⟨by simp only [if_neg hj, hread], v, hv,
    by simp only [if_neg (normalize?_ne_null hv hj), hreadv]⟩

theorem isReadFrom_of_canonical {read : Json → Except ReadError α} {j : Json} {a : α}
    (hc : j.Canonical) (h : read j = .ok a) : IsReadFrom read j a :=
  isReadFrom_iff.2 ⟨h, j, normalize?_of_canonical hc, h⟩

namespace Shape

theorem isReadFrom_text (s : String) : IsReadFrom (text.read d) (text.write s) s :=
  isReadFrom_of_canonical (.string s) rfl

theorem isReadFrom_record (r : Record) : IsReadFrom (record.read d) (record.write r) r :=
  isReadFrom_of_canonical r.canonical (by simp only [record, Record.ofJson?_object])

theorem isReadFrom_count {n : Nat} (h : n ≤ Decimal.Literal.limit) :
    IsReadFrom (count.read d) (count.write n) n :=
  isReadFrom_of_canonical (.number (.int n)) (if_pos h)

theorem isReadFrom_choice {read? : String → Option α} {name : α → String} {a : α}
    (h : read? (name a) = some a) :
    IsReadFrom ((choice read? name).read d) ((choice read? name).write a) a :=
  isReadFrom_of_canonical (.string (name a)) (by simp only [choice, h])

theorem isReadFrom_list {s : Shape α} {as : List α}
    (h : ∀ a ∈ as, IsReadFrom (s.read d) (s.write a) a) :
    IsReadFrom ((list s).read d) ((list s).write as) as := by
  have hvalues : ∃ vs, normalizeItems? (as.map s.write) = some vs ∧ readList s d vs = .ok as := by
    induction as with
    | nil => exact ⟨[], rfl, rfl⟩
    | cons a as ih =>
      obtain ⟨ha, hs⟩ := List.forall_mem_cons.1 h
      obtain ⟨-, v, hv, hva⟩ := isReadFrom_iff.1 ha
      obtain ⟨vs, hvs, hread⟩ := ih hs
      exact ⟨v :: vs, by simp only [List.map_cons, normalizeItems?, hv, hvs],
        by simp only [readList, hva, hread, Except.map]⟩
  obtain ⟨vs, hvs, hread⟩ := hvalues
  refine isReadFrom_iff.2 ⟨readList_map_write fun a ha => (h a ha).1, .list vs, ?_, hread⟩
  simp only [list, normalize?, hvs, Option.map_some]

end Shape

/-! ## Slots -/

namespace Slot

/-- A slot brings back what a record `a` holds: what it writes of it takes the record `b` that is
read so far to `b'`. A slot that writes nothing may be left out. -/
def Restores (s : Slot α) (d : Dialect) (a b b' : α) : Prop :=
  (s.write a = none ∧ s.presence ≠ .required ∧ b' = b) ∨
    ∃ j, s.write a = some j ∧ IsReadFrom (fun j => s.read d j b) j b'

variable {key : String} {aliases : List String} {shape : Shape β} {a : α}

theorem restores_required {get : α → β} {set : α → β → α}
    (h : IsReadFrom (shape.read d) (shape.write (get a)) (get a)) (b : α) :
    (required key aliases shape get set).Restores d a b (set b (get a)) :=
  .inr ⟨_, rfl, h.map (set b)⟩

theorem restores_defaulted {get : α → β} {set : α → β → α}
    (h : IsReadFrom (shape.read d) (shape.write (get a)) (get a)) (b : α) :
    (defaulted key aliases shape get set).Restores d a b (set b (get a)) :=
  .inr ⟨_, rfl, h.map (set b)⟩

section

variable {get : α → Option β} {set : α → Option β → α}

/-- What is not written must be absent already. -/
theorem restores_optional (h : ∀ x, get a = some x →
      IsReadFrom (shape.read d) (shape.write x) x ∧ shape.write x ≠ .null)
    {b : α} (hb : set b none = b) :
    (optional key aliases shape get set).Restores d a b (set b (get a)) := by
  unfold Restores
  cases hx : get a with
  | none => exact .inl ⟨congrArg (Option.map shape.write) hx, nofun, hb⟩
  | some x =>
    obtain ⟨hread, hnull⟩ := h x hx
    exact .inr ⟨_, congrArg (Option.map shape.write) hx,
      (hread.map fun x => set b (some x)).orNull hnull (set b none)⟩

theorem restores_nullable (h : ∀ x, get a = some x →
      IsReadFrom (shape.read d) (shape.write x) x ∧ shape.write x ≠ .null) (b : α) :
    (nullable key aliases shape get set).Restores d a b (set b (get a)) := by
  refine .inr ⟨_, rfl, ?_⟩
  cases hx : get a with
  | none => exact isReadFrom_of_canonical .null rfl
  | some x =>
    obtain ⟨hread, hnull⟩ := h x hx
    exact (hread.map fun x => set b (some x)).orNull hnull (set b none)

end

end Slot

/-! ## Layouts -/

namespace Layout

/-- All slots of a list bring back what a record `a` holds, from the record that is read so far to
`a` itself. -/
inductive Restores (d : Dialect) (a : α) : List (Slot α) → α → Prop where
  | done : Restores d a [] a
  | slot {s : Slot α} {slots : List (Slot α)} {b b' : α} :
      s.Restores d a b b' → Restores d a slots b' → Restores d a (s :: slots) b

/-- Members stand in the order of the slots, and take the record `b` that is read so far to `a`;
only slots that may be left out are missing. -/
inductive Fills (d : Dialect) (a : α) : List (Slot α) → List (String × Json) → α → Prop where
  | done : Fills d a [] [] a
  | skip {s : Slot α} {slots : List (Slot α)} {ms : List (String × Json)} {b : α} :
      s.presence ≠ .required → Fills d a slots ms b → Fills d a (s :: slots) ms b
  | take {s : Slot α} {slots : List (Slot α)} {j : Json} {ms : List (String × Json)} {b b' : α} :
      s.read d j b = .ok b' → Fills d a slots ms b' → Fills d a (s :: slots) ((s.key, j) :: ms) b

/-- The members that slots write of a record. -/
def members (slots : List (Slot α)) (a : α) : List (String × Json) :=
  slots.filterMap fun s => (s.write a).map fun j => (s.key, j)

theorem members_cons_of_none {s : Slot α} {slots : List (Slot α)} {a : α} (h : s.write a = none) :
    members (s :: slots) a = members slots a :=
  List.filterMap_cons_none (by rw [h, Option.map_none])

theorem members_cons_of_some {s : Slot α} {slots : List (Slot α)} {a : α} {j : Json}
    (h : s.write a = some j) : members (s :: slots) a = (s.key, j) :: members slots a :=
  List.filterMap_cons_some (by rw [h, Option.map_some])

/-- They have the names of their slots, and stand in their order. -/
theorem map_fst_members_sublist (slots : List (Slot α)) (a : α) :
    ((members slots a).map Prod.fst).Sublist (slots.map Slot.key) := by
  induction slots with
  | nil => exact .slnil
  | cons s slots ih =>
    cases hw : s.write a with
    | none =>
      rw [members_cons_of_none hw]
      exact ih.cons s.key
    | some j =>
      rw [members_cons_of_some hw]
      exact ih.cons_cons s.key

theorem Restores.exists_fills {a b : α} {slots : List (Slot α)} (h : Restores d a slots b) :
    Fills d a slots (members slots a) b ∧
      ∃ vs, List.Forall₂ IsNormalOf (members slots a) vs ∧ Fills d a slots vs b := by
  induction h with
  | done => exact ⟨.done, [], .nil, .done⟩
  | @slot s slots b b' hs _ ih =>
    obtain ⟨hms, vs, hnormal, hvs⟩ := ih
    rcases hs with ⟨hw, hp, rfl⟩ | ⟨j, hw, hj⟩
    · rw [members_cons_of_none hw]
      exact ⟨.skip hp hms, vs, hnormal, .skip hp hvs⟩
    · obtain ⟨hread, v, hv, hvread⟩ := isReadFrom_iff.1 hj
      rw [members_cons_of_some hw]
      exact ⟨.take hread hms, (s.key, v) :: vs, .cons ⟨rfl, hv⟩ hnormal, .take hvread hvs⟩

variable {l : Layout α}

theorem readMembers_of_fills (names : l.HasDistinctNames) {a b : α} {slots : List (Slot α)}
    {ms : List (String × Json)} (h : Fills d a slots ms b) (before : List (Slot α))
    (hl : l.slots = before ++ slots) {seen : List String}
    (hread : ∀ s ∈ before, s.presence = .required → s.key ∈ seen)
    (hnew : ∀ s ∈ slots, s.key ∉ seen) : l.readMembers d seen b ms = .ok a := by
  induction h generalizing before seen with
  | done =>
    refine if_pos (List.all_eq_true.2 fun s hs => ?_)
    rw [hl, List.append_nil] at hs
    cases hp : s.presence with
    | required => simp [hread s hs hp]
    | optional | optionalByName => rfl
  | @skip s slots ms b hp _ ih =>
    refine ih (before ++ [s]) (by rw [hl, List.append_cons]) ?_ ?_
    · refine List.forall_mem_append.2 ⟨hread, ?_⟩
      exact List.forall_mem_singleton.2 fun hr => absurd hr hp
    · exact fun t ht => hnew t (List.mem_cons_of_mem s ht)
  | @take s slots j ms b b' hs _ ih =>
    have hmem : s ∈ l.slots := hl ▸ List.mem_append_cons_self
    refine readMembers_cons_eq_ok_iff.2 (.inr ⟨s, slot?_eq_some names hmem List.mem_cons_self,
      hnew s List.mem_cons_self, b', hs, ih (before ++ [s]) ?_ ?_ ?_⟩)
    · rw [hl, List.append_cons]
    · refine List.forall_mem_append.2 ⟨fun t ht hr => ?_, ?_⟩
      · exact List.mem_cons_of_mem _ (hread t ht hr)
      · exact List.forall_mem_singleton.2 fun _ => List.mem_cons_self
    · intro t ht hk
      rcases List.mem_cons.1 hk with hk | hk
      · have hdisjoint := names.pairwise
        rw [hl, List.pairwise_append] at hdisjoint
        have hst := List.rel_of_pairwise_cons hdisjoint.2.1 ht
        exact hst List.mem_cons_self (hk ▸ List.mem_cons_self)
      · exact hnew t (List.mem_cons_of_mem s ht) hk

theorem hasDistinctNames_members (names : l.HasDistinctNames) (a : α) :
    Json.HasDistinctNames (members l.slots a) := by
  refine List.pairwise_map.2 (List.pairwise_filterMap.2 (names.pairwise.imp fun {s t} hst => ?_))
  intro m hm n hn he
  obtain ⟨j, -, rfl⟩ := Option.map_eq_some_iff.1 hm
  obtain ⟨k, -, rfl⟩ := Option.map_eq_some_iff.1 hn
  have hkey : s.key = t.key := he
  exact hst List.mem_cons_self (hkey ▸ List.mem_cons_self)

/-- What a layout writes of a record is read back, if its slots bring back what they hold, and may
be read in any order. -/
theorem isReadFrom_write (names : l.HasDistinctNames) (apart : l.slots.Pairwise Slot.IsApart)
    {a : α} (h : Restores d a l.slots l.blank) : IsReadFrom (l.read d) (l.write a) a := by
  obtain ⟨hfills, vs, hnormal, hvs⟩ := h.exists_fills
  have hread : ∀ {ms}, Fills d a l.slots ms l.blank → l.readMembers d [] l.blank ms = .ok a :=
    fun hms => readMembers_of_fills names hms [] (List.nil_append _).symm nofun nofun
  obtain ⟨ws, hws, hperm⟩ := perm_normalizeMembers? (hasDistinctNames_members names a) hnormal
  exact isReadFrom_iff.2 ⟨hread hfills, .object ws, congrArg (Option.map Json.object) hws,
    readMembers_of_perm apart hperm (hread hvs)⟩

end Layout

theorem Layout.write_ne_null (l : Layout α) (a : α) : l.shape.write a ≠ .null := by
  simp only [shape, write, ne_eq, reduceCtorEq, not_false_eq_true]

/-! ## Names that are written -/

/-- Some object in a tree has a member of a name. -/
inductive HasName (key : String) : Json → Prop where
  | own {ms : List (String × Json)} {j : Json} : (key, j) ∈ ms → HasName key (.object ms)
  | member {ms : List (String × Json)} {k : String} {j : Json} :
      (k, j) ∈ ms → HasName key j → HasName key (.object ms)
  | item {items : List Json} {j : Json} : j ∈ items → HasName key j → HasName key (.list items)

/-- All names in what a shape writes are among the given ones. -/
def Shape.WritesNames (s : Shape α) (names : List String) : Prop :=
  ∀ a key, HasName key (s.write a) → key ∈ names

/-- So are the name of a slot and all names in what it writes. -/
def Slot.WritesNames (s : Slot α) (names : List String) : Prop :=
  s.key ∈ names ∧ ∀ a j, s.write a = some j → ∀ key, HasName key j → key ∈ names

section

variable {names : List String} {shape : Shape β} {key : String} {aliases : List String}

theorem Shape.writesNames_text : text.WritesNames names := nofun

theorem Shape.writesNames_choice {read? : String → Option α} {name : α → String} :
    (choice read? name).WritesNames names := nofun

theorem Shape.writesNames_list (h : shape.WritesNames names) : (list shape).WritesNames names := by
  rintro as key (_ | _ | ⟨hj, hkey⟩)
  obtain ⟨a, -, rfl⟩ := List.mem_map.1 hj
  exact h a key hkey

theorem Slot.writesNames_required {get : α → β} {set : α → β → α} (hk : key ∈ names)
    (h : shape.WritesNames names) : (required key aliases shape get set).WritesNames names := by
  refine ⟨hk, fun a j hj => ?_⟩
  cases hj
  exact h (get a)

theorem Slot.writesNames_defaulted {get : α → β} {set : α → β → α} (hk : key ∈ names)
    (h : shape.WritesNames names) : (defaulted key aliases shape get set).WritesNames names :=
  show (required key aliases shape get set).WritesNames names from writesNames_required hk h

theorem Slot.writesNames_optional {get : α → Option β} {set : α → Option β → α} (hk : key ∈ names)
    (h : shape.WritesNames names) : (optional key aliases shape get set).WritesNames names := by
  refine ⟨hk, fun a j hj => ?_⟩
  obtain ⟨x, -, rfl⟩ := Option.map_eq_some_iff.1 hj
  exact h x

theorem Slot.writesNames_nullable {get : α → Option β} {set : α → Option β → α} (hk : key ∈ names)
    (h : shape.WritesNames names) : (nullable key aliases shape get set).WritesNames names := by
  refine ⟨hk, fun a j hj => ?_⟩
  cases hj
  cases get a with
  | none => exact nofun
  | some x => exact h x

end

theorem Layout.writesNames {l : Layout α} {names : List String}
    (h : ∀ s ∈ l.slots, s.WritesNames names) : l.shape.WritesNames names := by
  intro a key hkey
  have hmember : ∀ {k j}, (k, j) ∈ members l.slots a → ∃ s ∈ l.slots, s.key = k ∧
      s.write a = some j := by
    intro k j hm
    obtain ⟨s, hs, hw⟩ := List.mem_filterMap.1 hm
    obtain ⟨j', hj, he⟩ := Option.map_eq_some_iff.1 hw
    cases he
    exact ⟨s, hs, rfl, hj⟩
  cases hkey with
  | own hm =>
    obtain ⟨s, hs, rfl, -⟩ := hmember hm
    exact (h s hs).1
  | member hm hkey =>
    obtain ⟨s, hs, -, hj⟩ := hmember hm
    exact (h s hs).2 a _ hj key hkey

end Switchboard.Json
