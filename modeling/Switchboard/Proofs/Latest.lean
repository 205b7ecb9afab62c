/-!
# The last of an id

Where elements of a list have ids, and a later one counts before an earlier one, the last element of
an id is what counts for it.

* `lastBy`: the last element of an id.
* `lastBy_append`: what stands behind counts first.
* `lastBy_eq_some_iff`: where the last element stands.
* `lastBy_eq_find?`: where every id occurs once, the last element is the first.
* `lastBy_of_perm`: it is then the same in every order of the elements.
-/

namespace Switchboard

variable {α : Type} {id : α → String}

/-- The last element of a list that has an id. -/
def lastBy (id : α → String) (k : String) (xs : List α) : Option α :=
  xs.reverse.find? (id · = k)

theorem lastBy_cons (k : String) (x : α) (xs : List α) :
    lastBy id k (x :: xs) = (lastBy id k xs).or (if id x = k then some x else none) := by
  rw [lastBy, List.reverse_cons, List.find?_append, List.find?_singleton]
  simp [lastBy]

@[simp] theorem lastBy_append (k : String) (xs ys : List α) :
    lastBy id k (xs ++ ys) = (lastBy id k ys).or (lastBy id k xs) := by
  rw [lastBy, List.reverse_append, List.find?_append]
  rfl

@[simp] theorem lastBy_map {β : Type} (f : β → α) (k : String) (xs : List β) :
    lastBy id k (xs.map f) = (lastBy (fun x => id (f x)) k xs).map f := by
  rw [lastBy, ← List.map_reverse, List.find?_map]
  rfl

theorem lastBy_bind {α β : Type} {key : α → String} {data : α → Option β} (k : String)
    (xs : List α) : (lastBy key k xs).bind data =
      (lastBy Prod.fst k (xs.map fun x => (key x, data x))).bind Prod.snd := by
  rw [lastBy_map, Option.bind_map]
  rfl

@[simp] theorem lastBy_eq_none_iff {k : String} {xs : List α} :
    lastBy id k xs = none ↔ ∀ x ∈ xs, id x ≠ k := by
  simp [lastBy]

/-- Where the last element stands: none behind it has its id. -/
theorem lastBy_eq_some_iff {k : String} {xs : List α} {x : α} :
    lastBy id k xs = some x ↔
      id x = k ∧ ∃ before after, xs = before ++ x :: after ∧ ∀ y ∈ after, id y ≠ k := by
  rw [lastBy, List.find?_eq_some_iff_append]
  constructor
  · rintro ⟨hx, after, before, hxs, ha⟩
    refine ⟨by simpa using hx, before.reverse, after.reverse, ?_, fun y hy => ?_⟩
    · rw [← List.reverse_reverse xs, hxs]
      simp
    · simpa using ha y (List.mem_reverse.1 hy)
  · rintro ⟨hx, before, after, rfl, ha⟩
    refine ⟨by simpa using hx, after.reverse, before.reverse, by simp, fun y hy => ?_⟩
    simpa using ha y (List.mem_reverse.1 hy)

theorem lastBy_eq_find? {k : String} {xs : List α} (h : (xs.map id).Nodup) :
    lastBy id k xs = xs.find? (id · = k) := by
  induction xs with
  | nil => rfl
  | cons x xs ih =>
    obtain ⟨hx, hxs⟩ := List.nodup_cons.1 h
    rw [lastBy_cons, ih hxs, List.find?_cons]
    by_cases hk : id x = k
    · have hn : xs.find? (id · = k) = none := by
        rw [List.find?_eq_none]
        intro y hy hyk
        exact hx (List.mem_map.2 ⟨y, hy, (of_decide_eq_true hyk).trans hk.symm⟩)
      simp [hk, hn]
    · simp [hk]

theorem lastBy_eq_some_iff_mem {k : String} {xs : List α} {x : α} (h : (xs.map id).Nodup) :
    lastBy id k xs = some x ↔ x ∈ xs ∧ id x = k := by
  rw [lastBy_eq_some_iff]
  constructor
  · rintro ⟨hx, before, after, rfl, -⟩
    exact ⟨List.mem_append_cons_self, hx⟩
  · rintro ⟨hm, hx⟩
    obtain ⟨before, after, rfl⟩ := List.append_of_mem hm
    rw [List.map_append, List.map_cons] at h
    have hnew := (List.nodup_cons.1 (List.nodup_append.1 h).2.1).1
    exact ⟨hx, before, after, rfl, fun y hy hk => hnew (List.mem_map.2 ⟨y, hy, hk.trans hx.symm⟩)⟩

theorem lastBy_of_perm {xs ys : List α} (h : xs.Perm ys) (hn : (xs.map id).Nodup) (k : String) :
    lastBy id k xs = lastBy id k ys := by
  have hn' : (ys.map id).Nodup := (h.map id).nodup_iff.1 hn
  ext x
  rw [lastBy_eq_some_iff_mem hn, lastBy_eq_some_iff_mem hn', h.mem_iff]

end Switchboard
