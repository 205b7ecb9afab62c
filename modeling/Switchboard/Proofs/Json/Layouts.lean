import Mathlib.Data.List.Nodup
import Mathlib.Data.List.Pairwise
import Switchboard.Json.Layout
import Switchboard.Proofs.Json.Members

/-!
# Members of records

The members of an object are read one after the other, each by the slot that has its name. A slot is
given once, but may be given under any of its names. Where no slot minds what the others have read
before it, the members may stand in any order.

* `Layout.slot?_eq_some`: of slots that share no name, each reads what stands under its names.
* `Layout.readMembers_cons_eq_ok_iff`: what reading the first member does.
* `Slot.IsApart`: two slots that may be read in either order.
* `Layout.readMembers_of_perm`: so may all members, where each two slots are apart.
* `Layout.readMembers_of_renamed`, `Layout.read_of_renamed`: members under other names of their
  slots.
* `Layout.exists_error_of_both`: a slot given under two of its names.
* `Layout.hasAliases`: the other names of slots, one or several at a time.
-/

namespace Switchboard.Json

variable {α : Type} {d : Dialect}

/-- Two slots may be read in either order. -/
def Slot.IsApart (s t : Slot α) : Prop :=
  ∀ d j k a c, (∃ b, s.read d j a = .ok b ∧ t.read d k b = .ok c) ↔
    ∃ b, t.read d k a = .ok b ∧ s.read d j b = .ok c

instance : Std.Symm (@Slot.IsApart α) := ⟨fun _ _ h d j k a c => (h d k j a c).symm⟩

namespace Slot

/-- Reading a slot puts what it reads into the record, which has no say in what that is. -/
class IsSetter {β : outParam Type} (s : Slot α) (put : outParam (α → β → α)) : Prop where
  exists_read_eq : ∃ read : Dialect → Json → Except ReadError β,
    ∀ d j a, s.read d j a = (read d j).map (put a)

section

variable {β : Type} {key : String} {aliases : List String} {shape : Shape β}

instance {get : α → β} {set : α → β → α} : (required key aliases shape get set).IsSetter set :=
  ⟨shape.read, fun _ _ _ => rfl⟩

instance {get : α → β} {set : α → β → α} : (defaulted key aliases shape get set).IsSetter set :=
  ⟨shape.read, fun _ _ _ => rfl⟩

instance {get : α → Option β} {set : α → Option β → α} :
    (optional key aliases shape get set).IsSetter set := by
  refine ⟨fun d j => if j = .null then .ok none else (shape.read d j).map some, fun d j a => ?_⟩
  simp only [optional]
  split
  · rfl
  · cases shape.read d j <;> rfl

instance {get : α → Option β} {set : α → Option β → α} :
    (nullable key aliases shape get set).IsSetter set :=
  -- A nullable slot is written in another way, and read as an optional one.
  have h : (optional key aliases shape get set).IsSetter set := inferInstance
  ⟨h.exists_read_eq⟩

end

/-- Slots that put what they read into parts of the record of their own are apart. -/
theorem isApart {β γ : Type} {s t : Slot α} {put : α → β → α} {put' : α → γ → α} [s.IsSetter put]
    [t.IsSetter put'] (comm : ∀ a x y, put' (put a x) y = put (put' a y) x) : s.IsApart t := by
  obtain ⟨read, hs⟩ := IsSetter.exists_read_eq (s := s)
  obtain ⟨read', ht⟩ := IsSetter.exists_read_eq (s := t)
  intro d j k a c
  simp only [hs, ht]
  cases read d j <;> cases read' d k <;> simp [Except.map, comm]

end Slot

namespace Layout

variable {l : Layout α}

/-! ## Slots by name -/

/-- No name is read by two slots. -/
def HasDistinctNames (l : Layout α) : Prop := (l.slots.flatMap Slot.names).Nodup

instance (l : Layout α) : Decidable l.HasDistinctNames :=
  inferInstanceAs (Decidable (List.Nodup _))

theorem HasDistinctNames.pairwise (h : l.HasDistinctNames) :
    l.slots.Pairwise fun s t => s.names.Disjoint t.names :=
  (List.nodup_flatMap.1 h).2

theorem slot?_eq_some (h : l.HasDistinctNames) {s : Slot α} (hs : s ∈ l.slots) {key : String}
    (hk : key ∈ s.names) : l.slot? key = some s := by
  cases ht : l.slot? key with
  | none => exact absurd (List.contains_iff_mem.2 hk) (List.find?_eq_none.1 ht s hs)
  | some t =>
    obtain ⟨hmem, hkt⟩ := slot?_some ht
    by_contra hne
    have hsymm : Std.Symm fun s t : Slot α => s.names.Disjoint t.names :=
      ⟨fun _ _ h _ ht hs => h hs ht⟩
    exact h.pairwise.forall hmem hs (fun he => hne (congrArg some he)) hkt hk

/-! ## Reading members -/

theorem readMembers_cons_eq_ok_iff {seen : List String} {a b : α} {m : String × Json}
    {ms : List (String × Json)} : l.readMembers d seen a (m :: ms) = .ok b ↔
      (l.slot? m.1 = none ∧ (l.isClosed = false ∧ m.2.isHarmless = true) ∧
        l.readMembers d seen a ms = .ok b) ∨
      ∃ s, l.slot? m.1 = some s ∧ s.key ∉ seen ∧
        ∃ c, s.read d m.2 a = .ok c ∧ l.readMembers d (s.key :: seen) c ms = .ok b := by
  rw [readMembers]
  cases l.slot? m.1 with
  | none => cases l.isClosed <;> cases m.2.isHarmless <;> simp
  | some s =>
    by_cases hs : s.key ∈ seen
    · simp [hs]
    · simp only [List.contains_iff_mem, hs, if_false]
      cases hr : s.read d m.2 a <;> simp [hs, hr]

/-- Of the slots that are read, it matters which they are, and not in what order. -/
theorem readMembers_congr_seen {seen seen' : List String} (h : ∀ key, key ∈ seen ↔ key ∈ seen')
    (a : α) (ms : List (String × Json)) :
    l.readMembers d seen a ms = l.readMembers d seen' a ms := by
  induction ms generalizing seen seen' a with
  | nil => simp only [readMembers, complete, List.contains_eq_mem, h]
  | cons m ms ih =>
    simp only [readMembers, List.contains_eq_mem, h, ih h]
    have hcons : ∀ k key, key ∈ k :: seen ↔ key ∈ k :: seen' := fun k key => by
      rw [List.mem_cons, List.mem_cons, h]
    simp only [fun k => ih (hcons k)]

/-- Members may be read in any order where the slots may. -/
theorem readMembers_of_perm (apart : l.slots.Pairwise Slot.IsApart) {ms ms' : List (String × Json)}
    (hp : ms.Perm ms') {seen : List String} {a b : α} (h : l.readMembers d seen a ms = .ok b) :
    l.readMembers d seen a ms' = .ok b := by
  induction hp generalizing seen a with
  | nil => exact h
  | cons m hp ih =>
    rw [readMembers_cons_eq_ok_iff] at h ⊢
    rcases h with ⟨hn, hpass, h⟩ | ⟨s, hs, hnew, c, hc, h⟩
    · exact .inl ⟨hn, hpass, ih h⟩
    · exact .inr ⟨s, hs, hnew, c, hc, ih h⟩
  | trans _ _ ih ih' => exact ih' (ih h)
  | swap m n ms =>
    rw [readMembers_cons_eq_ok_iff] at h ⊢
    simp only [readMembers_cons_eq_ok_iff] at h ⊢
    rcases h with ⟨hn, hpass, ⟨hm, hpass', h⟩ | ⟨s, hs, hnew, c, hc, h⟩⟩ |
      ⟨t, ht, hnew, b', hb, ⟨hm, hpass, h⟩ | ⟨s, hs, hnew', c, hc, h⟩⟩
    · exact .inl ⟨hm, hpass', .inl ⟨hn, hpass, h⟩⟩
    · exact .inr ⟨s, hs, hnew, c, hc, .inl ⟨hn, hpass, h⟩⟩
    · exact .inl ⟨hm, hpass, .inr ⟨t, ht, hnew, b', hb, h⟩⟩
    · simp only [List.mem_cons, not_or] at hnew'
      have hne : s ≠ t := fun he => hnew'.1 (congrArg Slot.key he)
      obtain ⟨b'', hb', hc'⟩ :=
        (apart.forall (slot?_some ht).1 (slot?_some hs).1 hne.symm d _ _ a c).1 ⟨b', hb, hc⟩
      refine .inr ⟨s, hs, hnew'.2, b'', hb', .inr ⟨t, ht, ?_, c, hc', ?_⟩⟩
      · rw [List.mem_cons, not_or]
        exact ⟨fun he => hnew'.1 he.symm, hnew⟩
      · rw [← h]
        refine readMembers_congr_seen (fun key => ?_) c ms
        simp only [List.mem_cons]
        exact or_left_comm

/-! ## Other names -/

/-- Two members hold the same under names of one slot, or under names of none. -/
def IsRenamed (l : Layout α) (m m' : String × Json) : Prop :=
  l.slot? m'.1 = l.slot? m.1 ∧ m'.2 = m.2

theorem readMembers_of_renamed {ms ms' : List (String × Json)}
    (h : List.Forall₂ l.IsRenamed ms ms') (seen : List String) (a : α) :
    l.readMembers d seen a ms' = l.readMembers d seen a ms := by
  induction h generalizing seen a with
  | nil => rfl
  | cons hm _ ih => simp only [readMembers, hm.1, hm.2, ih]

/-- An object that can be read is read alike with its members in any order and under other names of
their slots. -/
theorem read_of_renamed (apart : l.slots.Pairwise Slot.IsApart) {ms ms' ms'' : List (String × Json)}
    (renamed : List.Forall₂ l.IsRenamed ms ms') (order : ms'.Perm ms'') {a : α}
    (h : l.read d (.object ms) = .ok a) : l.read d (.object ms'') = .ok a :=
  readMembers_of_perm apart order ((readMembers_of_renamed renamed [] l.blank).trans h)

/-- What is read was not read before. -/
theorem not_mem_seen_of_readMembers {seen : List String} {a b : α} {ms : List (String × Json)}
    (h : l.readMembers d seen a ms = .ok b) {m : String × Json} (hm : m ∈ ms) {s : Slot α}
    (hs : l.slot? m.1 = some s) : s.key ∉ seen := by
  induction ms generalizing seen a with
  | nil => cases hm
  | cons n ms ih =>
    rcases readMembers_cons_eq_ok_iff.1 h with ⟨hn, -, h⟩ | ⟨t, ht, hnew, c, -, h⟩
    · rcases List.mem_cons.1 hm with rfl | hm
      · cases hn.symm.trans hs
      · exact ih h hm
    · rcases List.mem_cons.1 hm with rfl | hm
      · cases ht.symm.trans hs
        exact hnew
      · exact fun hseen => ih h hm (List.mem_cons_of_mem _ hseen)

/-- No two members are read by one slot. -/
theorem pairwise_of_readMembers {seen : List String} {a b : α} {ms : List (String × Json)}
    (h : l.readMembers d seen a ms = .ok b) :
    ms.Pairwise fun m n => ∀ s, l.slot? m.1 = some s → l.slot? n.1 ≠ some s := by
  induction ms generalizing seen a with
  | nil => exact .nil
  | cons m ms ih =>
    rcases readMembers_cons_eq_ok_iff.1 h with ⟨hm, -, h⟩ | ⟨t, ht, -, c, -, h⟩
    · refine .cons (fun n _ s hs => ?_) (ih h)
      cases hm.symm.trans hs
    · refine .cons (fun n hn s hs hns => ?_) (ih h)
      cases ht.symm.trans hs
      exact not_mem_seen_of_readMembers h hn hns List.mem_cons_self

/-- A slot that is given under two of its names is a fault. -/
theorem exists_error_of_both (names : l.HasDistinctNames) {s : Slot α} (hs : s ∈ l.slots)
    {key key' : String} (hk : key ∈ s.names) (hk' : key' ∈ s.names) (hne : key ≠ key')
    {ms : List (String × Json)} {j j' : Json} (hm : (key, j) ∈ ms) (hm' : (key', j') ∈ ms) :
    ∃ e, l.read d (.object ms) = .error e := by
  rw [read]
  cases h : l.readMembers d [] l.blank ms with
  | error e => exact ⟨e, rfl⟩
  | ok b =>
    have hsymm : Std.Symm fun m n : String × Json =>
        ∀ s, l.slot? m.1 = some s → l.slot? n.1 ≠ some s :=
      ⟨fun _ _ hmn s hn hm => hmn s hm hn⟩
    have hread := (pairwise_of_readMembers h).forall hm hm' (fun he => hne (congrArg Prod.fst he))
    exact absurd (slot?_eq_some names hs hk') (hread s (slot?_eq_some names hs hk))

/-- The own names of slots, each with one of the other names of its slot. -/
def aliases (l : Layout α) : List (String × String) :=
  l.slots.flatMap fun s => s.aliases.map fun other => (s.key, other)

/-- Names of slots have second names under which the same is read. -/
structure HasAliases (l : Layout α) (aliases : List (String × String)) : Prop where
  /-- An object that can be read is read alike with members under their second names, in any
  order. -/
  renamed : ∀ d ms ms' ms'' a, List.Forall₂
    (fun m m' => m'.2 = m.2 ∧ (m'.1 = m.1 ∨ (m.1, m'.1) ∈ aliases)) ms ms' →
    ms'.Perm ms'' → l.read d (.object ms) = .ok a → l.read d (.object ms'') = .ok a
  /-- An object with members under a name and under a second one of it cannot be read. -/
  both : ∀ d ms key other j j', (key, other) ∈ aliases → (key, j) ∈ ms → (other, j') ∈ ms →
    ∃ e, l.read d (.object ms) = .error e

theorem hasAliases (names : l.HasDistinctNames) (apart : l.slots.Pairwise Slot.IsApart) :
    l.HasAliases l.aliases := by
  have hslot : ∀ {key other}, (key, other) ∈ l.aliases →
      ∃ s ∈ l.slots, key ∈ s.names ∧ other ∈ s.names ∧ key ≠ other := by
    intro key other h
    obtain ⟨s, hs, h⟩ := List.mem_flatMap.1 h
    obtain ⟨other, ho, he⟩ := List.mem_map.1 h
    cases he
    have hnodup : s.names.Nodup := (List.nodup_flatMap.1 names).1 s hs
    exact ⟨s, hs, List.mem_cons_self, List.mem_cons_of_mem _ ho,
      fun he => (List.nodup_cons.1 hnodup).1 (he ▸ ho)⟩
  constructor
  · intro d ms ms' ms'' a renamed order h
    refine read_of_renamed apart (renamed.imp fun m m' hm => ⟨?_, hm.1⟩) order h
    rcases hm.2 with he | ha
    · rw [he]
    · obtain ⟨s, hs, hkey, halias, -⟩ := hslot ha
      rw [slot?_eq_some names hs hkey, slot?_eq_some names hs halias]
  · intro d ms key other j j' ha hm hm'
    obtain ⟨s, hs, hkey, halias, hne⟩ := hslot ha
    exact exists_error_of_both names hs hkey halias hne hm hm'

end Layout

end Switchboard.Json
