/-!
# Splitting text at a character

`cut?` splits at the first occurrence of a character, `split` at every one. Neither loses anything
but the separators.

* `cut?_eq_some_iff`: what `cut?` finds is the text around the first separator.
* `intercalate_split`, `split_intercalate`: the parts, joined again, are the text, and parts without
  separators, joined, are found again.
-/

namespace Switchboard.Text

/-- The characters before the first `sep` and the ones after it. -/
def cut? (sep : Char) : List Char → Option (List Char × List Char)
  | [] => none
  | c :: cs => if c = sep then some ([], cs) else (cut? sep cs).map fun p => (c :: p.1, p.2)

/-- The parts between the separators: one more than there are separators. -/
def split (sep : Char) : List Char → List (List Char)
  | [] => [[]]
  | c :: cs =>
    if c = sep then [] :: split sep cs
    else match split sep cs with
      | [] => [[c]]
      | part :: parts => (c :: part) :: parts

theorem cut?_eq_some_iff {sep : Char} {cs before after : List Char} :
    cut? sep cs = some (before, after) ↔ cs = before ++ sep :: after ∧ sep ∉ before := by
  induction cs generalizing before with
  | nil => simp [cut?]
  | cons c cs ih =>
    by_cases h : c = sep
    · subst h
      cases before with
      | nil => simp [cut?, eq_comm]
      | cons b before => simp [cut?]; rintro rfl; simp
    · cases before with
      | nil => simp [cut?, h]
      | cons b before =>
        simp only [cut?, h, if_false, Option.map_eq_some_iff, Prod.mk.injEq, List.cons.injEq,
          List.cons_append, List.mem_cons, not_or]
        constructor
        · rintro ⟨⟨x, y⟩, hxy, ⟨rfl, rfl⟩, rfl⟩
          obtain ⟨rfl, hn⟩ := ih.1 hxy
          exact ⟨⟨rfl, rfl⟩, Ne.symm h, hn⟩
        · rintro ⟨⟨rfl, rfl⟩, -, hn⟩
          exact ⟨(before, after), ih.2 ⟨rfl, hn⟩, ⟨rfl, rfl⟩, rfl⟩

theorem cut?_eq_none_iff {sep : Char} {cs : List Char} : cut? sep cs = none ↔ sep ∉ cs := by
  induction cs with
  | nil => simp [cut?]
  | cons c cs ih =>
    by_cases h : c = sep
    · simp [cut?, h]
    · simp [cut?, h, ih, Ne.symm h]

theorem length_lt_of_cut? {sep : Char} {cs before after : List Char}
    (h : cut? sep cs = some (before, after)) : after.length < cs.length := by
  obtain ⟨rfl, -⟩ := cut?_eq_some_iff.1 h
  simp
  omega

theorem split_ne_nil (sep : Char) (cs : List Char) : split sep cs ≠ [] := by
  cases cs with
  | nil => simp [split]
  | cons c cs => simp only [split]; split <;> (try split) <;> simp

@[simp] theorem intercalate_split (sep : Char) (cs : List Char) :
    [sep].intercalate (split sep cs) = cs := by
  induction cs with
  | nil => rfl
  | cons c cs ih =>
    rw [split]
    have hne := split_ne_nil sep cs
    split
    · next h =>
      subst h
      cases hs : split c cs with
      | nil => exact absurd hs hne
      | cons p ps => rw [hs] at ih; simp [List.intercalate, List.intersperse, ← ih]
    · next h =>
      cases hs : split sep cs with
      | nil => exact absurd hs hne
      | cons p ps =>
        rw [hs] at ih
        cases ps <;> simp_all [List.intercalate, List.intersperse]

theorem sep_not_mem_of_mem_split {sep : Char} {cs part : List Char} (h : part ∈ split sep cs) :
    sep ∉ part := by
  induction cs generalizing part with
  | nil =>
    rw [split, List.mem_singleton] at h
    subst h
    exact List.not_mem_nil
  | cons c cs ih =>
    rw [split] at h
    split at h
    · rcases List.mem_cons.1 h with rfl | h
      · exact List.not_mem_nil
      · exact ih h
    · next hc =>
      cases hs : split sep cs with
      | nil => exact absurd hs (split_ne_nil sep cs)
      | cons p ps =>
        rw [hs] at h ih
        rcases List.mem_cons.1 h with rfl | h
        · have := ih List.mem_cons_self
          simp [Ne.symm hc, this]
        · exact ih (List.mem_cons_of_mem _ h)

theorem split_of_not_mem {sep : Char} {part : List Char} (h : sep ∉ part) :
    split sep part = [part] := by
  induction part with
  | nil => rfl
  | cons c cs ih =>
    obtain ⟨hc, hcs⟩ := not_or.1 (fun hm => h (List.mem_cons.2 hm))
    rw [split, if_neg (Ne.symm hc), ih hcs]

theorem split_append {sep : Char} {part : List Char} (cs : List Char) (h : sep ∉ part) :
    split sep (part ++ sep :: cs) = part :: split sep cs := by
  induction part with
  | nil => rw [List.nil_append, split, if_pos rfl]
  | cons c part ih =>
    obtain ⟨hc, hp⟩ := not_or.1 (fun hm => h (List.mem_cons.2 hm))
    rw [List.cons_append, split, if_neg (Ne.symm hc), ih hp]

theorem split_intercalate {sep : Char} {parts : List (List Char)} (hne : parts ≠ [])
    (h : ∀ part ∈ parts, sep ∉ part) : split sep ([sep].intercalate parts) = parts := by
  induction parts with
  | nil => exact absurd rfl hne
  | cons part parts ih =>
    have hp := h part List.mem_cons_self
    cases parts with
    | nil => rw [List.intercalate_singleton, split_of_not_mem hp]
    | cons q qs =>
      have hq := ih (List.cons_ne_nil q qs) fun p hm => h p (List.mem_cons_of_mem _ hm)
      rw [List.intercalate_cons_cons, List.append_assoc, List.singleton_append,
        split_append _ hp, hq]

end Switchboard.Text
