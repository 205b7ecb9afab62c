import Switchboard.Json.Value

/-!
# Members by name

An object whose members all have different names is known by what is found under each name, in
whatever order the members stand. Normalising puts the members in order and normalises what stands
under them, so that what is found stays the same but for that.

* `find?_eq_some_iff_mem`: of different names, each member is found.
* `Sorted.ext`: sorted members are known by what is found.
* `normalizeItems?_eq_some_iff`: a list is normalised item by item.
* `normalize?_cases`: what can be normalised, and into what.
* `exists_normalizeMembers?_iff`: members can be normalised when all that stands in them can.
* `find?_normalizeMembers?`: what is found among members in order of name.
* `induction`: what holds of all trees.
* `Value.ofJson?_eq_some_iff`, `Record.ofJson?_eq_some_iff`: the value and the record of a tree.
-/

namespace Switchboard

namespace Json

/-- All members have different names. -/
def HasDistinctNames (ms : List (String × Json)) : Prop := (ms.map Prod.fst).Nodup

/-! ## Finding -/

@[simp] theorem find?_eq_none_iff {key : String} {ms : List (String × Json)} :
    find? key ms = none ↔ key ∉ ms.map Prod.fst := by
  induction ms with
  | nil => simp [find?]
  | cons m ms ih =>
    by_cases hm : m.1 = key
    · simp [find?, hm]
    · simp [find?, hm, ih, Ne.symm hm]

theorem mem_of_find?_eq_some {key : String} {j : Json} {ms : List (String × Json)}
    (h : find? key ms = some j) : (key, j) ∈ ms := by
  induction ms with
  | nil => cases h
  | cons m ms ih =>
    rw [find?] at h
    split at h
    · next hm =>
      cases h
      exact hm ▸ List.mem_cons_self
    · exact List.mem_cons_of_mem m (ih h)

theorem find?_eq_some_iff_mem {key : String} {j : Json} {ms : List (String × Json)}
    (hn : HasDistinctNames ms) : find? key ms = some j ↔ (key, j) ∈ ms := by
  refine ⟨mem_of_find?_eq_some, fun h => ?_⟩
  induction ms with
  | nil => cases h
  | cons m ms ih =>
    obtain ⟨hm, hms⟩ := List.nodup_cons.1 hn
    rcases List.mem_cons.1 h with rfl | h
    · simp [find?]
    · have hne : m.1 ≠ key := fun he => hm (he ▸ List.mem_map_of_mem h)
      rw [find?, if_neg hne, ih hms h]

theorem HasDistinctNames.nodup {ms : List (String × Json)} (h : HasDistinctNames ms) : ms.Nodup :=
  (List.pairwise_map.1 h).imp fun hne he => hne (congrArg Prod.fst he)

/-! ## Sorted members -/

theorem Sorted.hasDistinctNames {ms : List (String × Json)} (h : Sorted ms) :
    HasDistinctNames ms :=
  List.pairwise_map.2 (h.imp fun hlt => Std.ne_of_lt hlt)

/-- Sorted members are known by what is found under each name. -/
theorem Sorted.ext {as bs : List (String × Json)} (ha : Sorted as) (hb : Sorted bs)
    (h : ∀ key, find? key as = find? key bs) : as = bs := by
  have hmem : ∀ m, m ∈ as ↔ m ∈ bs := fun m => by
    rw [← find?_eq_some_iff_mem ha.hasDistinctNames, h,
      find?_eq_some_iff_mem hb.hasDistinctNames]
  have hperm : as.Perm bs :=
    (List.perm_ext_iff_of_nodup ha.hasDistinctNames.nodup hb.hasDistinctNames.nodup).2 hmem
  exact hperm.eq_of_pairwise
    (fun _ _ _ _ hlt hgt => absurd (String.lt_trans hlt hgt) (String.lt_irrefl _)) ha hb

/-! ## Normalising -/

theorem normalizeItems?_eq_some_iff {js vs : List Json} :
    normalizeItems? js = some vs ↔ js.map normalize? = vs.map some := by
  induction js generalizing vs with
  | nil => cases vs <;> simp [normalizeItems?]
  | cons j js ih =>
    rw [normalizeItems?, List.map_cons]
    cases hj : normalize? j with
    | none => cases vs <;> simp
    | some v =>
      cases vs with
      | nil => cases normalizeItems? js <;> simp
      | cons w vs =>
        rw [List.map_cons, List.cons.injEq, ← ih]
        cases normalizeItems? js <;> simp

theorem exists_normalizeItems?_iff {js : List Json} :
    (∃ vs, normalizeItems? js = some vs) ↔ ∀ j ∈ js, ∃ v, normalize? j = some v := by
  induction js with
  | nil => simp [normalizeItems?]
  | cons j js ih =>
    rw [List.forall_mem_cons, ← ih, normalizeItems?]
    cases normalize? j <;> cases normalizeItems? js <;> simp

theorem exists_normalizeMembers?_iff {ms : List (String × Json)} :
    (∃ vs, normalizeMembers? ms = some vs) ↔ ∀ m ∈ ms, ∃ v, normalize? m.2 = some v := by
  induction ms with
  | nil => simp [normalizeMembers?]
  | cons m ms ih =>
    rw [List.forall_mem_cons, ← ih, normalizeMembers?]
    cases normalize? m.2 <;> cases normalizeMembers? ms <;> simp

/-- What can be normalised is a list, an object, or its own normal form. -/
theorem normalize?_cases {j v : Json} (h : normalize? j = some v) :
    (∃ items vs, j = .list items ∧ v = .list vs ∧ items.map normalize? = vs.map some) ∨
    (∃ ms vs, j = .object ms ∧ v = .object vs ∧ normalizeMembers? ms = some vs) ∨
    v = j ∧ (∀ items, j ≠ .list items) ∧ ∀ ms, j ≠ .object ms := by
  cases j with
  | list items =>
    obtain ⟨vs, hvs, rfl⟩ := Option.map_eq_some_iff.1 h
    exact .inl ⟨items, vs, rfl, rfl, normalizeItems?_eq_some_iff.1 hvs⟩
  | object ms =>
    obtain ⟨vs, hvs, rfl⟩ := Option.map_eq_some_iff.1 h
    exact .inr (.inl ⟨ms, vs, rfl, rfl, hvs⟩)
  | unreadable _ => cases h
  | _ => exact .inr (.inr ⟨(Option.some.inj h).symm, nofun, nofun⟩)

theorem find?_precede {key : String} {value : Json} {ms : List (String × Json)} (h : Sorted ms)
    (k : String) :
    find? k (precede key value ms) = (find? k ms).or (if key = k then some value else none) := by
  unfold precede
  cases hf : find? key ms with
  | some j =>
    by_cases hk : key = k
    · subst hk
      simp [hf]
    · simp [hk]
  | none =>
    by_cases hk : key = k
    · subst hk
      simp [hf, find?_insert _ _ _ _ h]
    · simp [hk, find?_insert _ _ _ _ h]

/-- Among members in order of name, what is found is what was found before, normalised. -/
theorem find?_normalizeMembers? {ms vs : List (String × Json)} (hn : HasDistinctNames ms)
    (h : normalizeMembers? ms = some vs) (key : String) :
    find? key vs = (find? key ms).bind normalize? := by
  induction ms generalizing vs with
  | nil =>
    cases h
    rfl
  | cons m ms ih =>
    obtain ⟨hm, hms⟩ := List.nodup_cons.1 hn
    rw [normalizeMembers?] at h
    split at h
    · next v ws hv hws =>
      cases h
      rw [find?_precede (normalizeMembers?_canonical hws).sorted, ih hms hws, find?]
      by_cases hk : m.1 = key
      · have hnone : find? key ms = none := find?_eq_none_iff.2 (hk ▸ hm)
        simp [hk, hnone, hv]
      · simp [hk]
    · cases h

/-! ## All trees -/

mutual

/-- What holds of a list or an object wherever it holds of all that stands in it, and of every other
tree, holds of all trees. -/
theorem induction {P : Json → Prop} (list : ∀ items, (∀ j ∈ items, P j) → P (.list items))
    (object : ∀ ms : List (String × Json), (∀ m ∈ ms, P m.2) → P (.object ms))
    (leaf : ∀ j, (∀ items, j ≠ .list items) → (∀ ms, j ≠ .object ms) → P j) : ∀ j, P j
  | .list items => list items (inductionItems list object leaf items)
  | .object ms => object ms (inductionMembers list object leaf ms)
  | .null | .bool _ | .number _ | .string _ | .unreadable _ => leaf _ nofun nofun

theorem inductionItems {P : Json → Prop} (list : ∀ items, (∀ j ∈ items, P j) → P (.list items))
    (object : ∀ ms : List (String × Json), (∀ m ∈ ms, P m.2) → P (.object ms))
    (leaf : ∀ j, (∀ items, j ≠ .list items) → (∀ ms, j ≠ .object ms) → P j) :
    ∀ items : List Json, ∀ j ∈ items, P j
  | [] => nofun
  | j :: js =>
    List.forall_mem_cons.2 ⟨induction list object leaf j, inductionItems list object leaf js⟩

theorem inductionMembers {P : Json → Prop} (list : ∀ items, (∀ j ∈ items, P j) → P (.list items))
    (object : ∀ ms : List (String × Json), (∀ m ∈ ms, P m.2) → P (.object ms))
    (leaf : ∀ j, (∀ items, j ≠ .list items) → (∀ ms, j ≠ .object ms) → P j) :
    ∀ ms : List (String × Json), ∀ m ∈ ms, P m.2
  | [] => nofun
  | m :: ms =>
    List.forall_mem_cons.2 ⟨induction list object leaf m.2, inductionMembers list object leaf ms⟩

end

end Json

/-! ## Values -/

theorem Value.ofJson?_eq_some_iff {j : Json} {v : Value} :
    ofJson? j = some v ↔ j.normalize? = some v.json := by
  unfold ofJson?
  split
  · next h => simp [h]
  · next w h =>
    constructor
    · intro hv
      cases hv
      exact h
    · intro hj
      exact congrArg some (Value.ext (Option.some.inj (h.symm.trans hj)))

theorem Record.ofJson?_eq_some_iff {j : Json} {r : Record} :
    ofJson? j = some r ↔ j.normalize? = some (.object r.members) := by
  simp only [ofJson?, Option.bind_eq_some_iff, Value.record?_eq_some_iff, exists_eq_right]
  exact Value.ofJson?_eq_some_iff

end Switchboard
