/-!
# Blank text

White space is the Unicode property White_Space. A text is trimmed by taking the white space off
both of its ends, and an optional text is blank when it is absent or has nothing else in it.

* `isBlank_iff_trim_eq_empty`: a text is blank exactly when trimming leaves nothing.
* `nonBlank?_eq_iff`: blank texts are all alike.
* `isSpace_of_isWhitespace`: the property extends the white space of ASCII.
* `trimChars_append_left`, `trimChars_append_right`: white space at the ends is of no account.
* `trimChars_append_cons`: the ends of a text with something else inside are trimmed separately.
* `trimChars_trimChars`: what is trimmed stays as it is.
-/

namespace Switchboard.Text

/-- The characters of the property White_Space, by code point. -/
def isSpace (c : Char) : Bool :=
  let n := c.toNat
  (9 ≤ n && n ≤ 13) || n = 0x20 || n = 0x85 || n = 0xA0 || n = 0x1680 ||
    (0x2000 ≤ n && n ≤ 0x200A) || n = 0x2028 || n = 0x2029 || n = 0x202F || n = 0x205F || n = 0x3000

/-- The characters without the white space at the end. -/
def trimRight (cs : List Char) : List Char :=
  (cs.reverse.dropWhile isSpace).reverse

/-- The characters without the white space at either end. -/
def trimChars (cs : List Char) : List Char :=
  trimRight (cs.dropWhile isSpace)

/-- The text without the white space at either end. -/
def trim (s : String) : String :=
  .ofList (trimChars s.toList)

/-- An optional text is blank when it is absent or has only white space. -/
def isBlank : Option String → Bool
  | none => true
  | some s => s.toList.all isSpace

/-- The text, if it has anything but white space. -/
def nonBlank? (s : Option String) : Option String :=
  s.filter fun t => !isBlank (some t)

theorem nonBlank?_eq_some_iff {s : Option String} {t : String} :
    nonBlank? s = some t ↔ s = some t ∧ isBlank (some t) = false := by
  rw [nonBlank?, Option.filter_eq_some_iff, Bool.not_eq_true']

theorem isBlank_eq_false_iff {s : Option String} :
    isBlank s = false ↔ ∃ t, s = some t ∧ isBlank (some t) = false := by
  cases s with
  | none => simp [isBlank]
  | some t => simp

theorem nonBlank?_eq_ite (s : Option String) :
    nonBlank? s = if isBlank s then none else s := by
  cases s with
  | none => rfl
  | some t => cases h : isBlank (some t) <;> simp [nonBlank?, h]

theorem nonBlank?_eq_iff {s t : Option String} :
    nonBlank? s = nonBlank? t ↔ s = t ∨ isBlank s = true ∧ isBlank t = true := by
  have hn : isBlank none = true := rfl
  rw [nonBlank?_eq_ite, nonBlank?_eq_ite]
  cases hs : isBlank s <;> cases ht : isBlank t <;> grind

theorem isSpace_of_isWhitespace {c : Char} (h : c.isWhitespace) : isSpace c := by
  simp only [Char.isWhitespace, Bool.or_eq_true, decide_eq_true_eq] at h
  rcases h with ((rfl | rfl) | rfl) | rfl <;> decide

theorem dropWhile_isSpace_eq_nil_iff {cs : List Char} :
    cs.dropWhile isSpace = [] ↔ cs.all isSpace := by
  induction cs with
  | nil => simp
  | cons c cs ih => by_cases h : isSpace c <;> simp_all

theorem trimRight_eq_nil_iff {cs : List Char} : trimRight cs = [] ↔ cs.all isSpace := by
  rw [trimRight, List.reverse_eq_nil_iff, dropWhile_isSpace_eq_nil_iff, List.all_reverse]

theorem trimChars_eq_nil_iff {cs : List Char} : trimChars cs = [] ↔ cs.all isSpace := by
  rw [trimChars, trimRight_eq_nil_iff]
  induction cs with
  | nil => rfl
  | cons c cs ih => by_cases h : isSpace c <;> simp [h, ih]

theorem isBlank_iff_trim_eq_empty {s : String} : isBlank (some s) ↔ trim s = "" := by
  rw [isBlank, ← trimChars_eq_nil_iff, trim]
  constructor
  · intro h
    rw [h]
  · intro h
    have := congrArg String.toList h
    simpa using this

theorem trim_ne_empty {s : String} {c : Char} (hc : c ∈ s.toList) (h : ¬ isSpace c) :
    trim s ≠ "" := fun ht =>
  h (List.all_eq_true.1 (isBlank_iff_trim_eq_empty.2 ht) c hc)

/-! ## White space around a text -/

theorem trimRight_append_of_spaces (cs : List Char) {after : List Char}
    (h : ∀ c ∈ after, isSpace c) : trimRight (cs ++ after) = trimRight cs := by
  rw [trimRight, List.reverse_append,
    List.dropWhile_append_of_pos fun c hc => h c (List.mem_reverse.1 hc), trimRight]

theorem trimChars_append_left {before : List Char} (h : ∀ c ∈ before, isSpace c)
    (cs : List Char) : trimChars (before ++ cs) = trimChars cs := by
  rw [trimChars, List.dropWhile_append_of_pos h, trimChars]

theorem trimChars_append_right (cs : List Char) {after : List Char}
    (h : ∀ c ∈ after, isSpace c) : trimChars (cs ++ after) = trimChars cs := by
  rw [trimChars, List.dropWhile_append]
  split
  · next he =>
    rw [trimChars, List.isEmpty_iff.1 he, ← List.append_nil after,
      List.dropWhile_append_of_pos h, List.dropWhile_nil]
  · rw [trimRight_append_of_spaces _ h, trimChars]

@[simp]
theorem trimChars_dropWhile (cs : List Char) : trimChars (cs.dropWhile isSpace) = trimChars cs := by
  have hall : ∀ c ∈ cs.takeWhile isSpace, isSpace c := List.all_eq_true.1 List.all_takeWhile
  rw [← trimChars_append_left hall, List.takeWhile_append_dropWhile]

@[simp] theorem trimChars_trimRight (cs : List Char) : trimChars (trimRight cs) = trimChars cs := by
  have hall : ∀ c ∈ (cs.reverse.takeWhile isSpace).reverse, isSpace c := fun c hc =>
    List.all_eq_true.1 List.all_takeWhile c (List.mem_reverse.1 hc)
  have hcs : trimRight cs ++ (cs.reverse.takeWhile isSpace).reverse = cs := by
    rw [trimRight, ← List.reverse_append, List.takeWhile_append_dropWhile, List.reverse_reverse]
  rw [← trimChars_append_right _ hall, hcs]

@[simp] theorem trimChars_trimChars (cs : List Char) : trimChars (trimChars cs) = trimChars cs := by
  rw [trimChars.eq_def cs, trimChars_trimRight, trimChars_dropWhile, trimChars]

@[simp] theorem trim_trim (s : String) : trim (trim s) = trim s := by
  rw [trim, trim, String.toList_ofList, trimChars_trimChars]

theorem trimChars_sublist {cs : List Char} : (trimChars cs).Sublist cs := by
  refine .trans ?_ (List.dropWhile_sublist isSpace)
  rw [trimChars, trimRight, ← List.reverse_reverse (cs.dropWhile isSpace), List.reverse_sublist,
    List.reverse_reverse]
  exact List.dropWhile_sublist isSpace

theorem trimRight_append_cons {c : Char} (h : ¬ isSpace c) (before after : List Char) :
    trimRight (before ++ c :: after) = before ++ c :: trimRight after := by
  rw [trimRight, List.reverse_append, List.reverse_cons, List.append_assoc, List.dropWhile_append]
  split
  · next he =>
    rw [trimRight, List.isEmpty_iff.1 he, List.singleton_append, List.dropWhile_cons_of_neg h,
      List.reverse_cons, List.reverse_reverse, List.reverse_nil]
  · rw [trimRight, List.reverse_append, List.reverse_append, List.reverse_reverse,
      List.append_assoc]
    rfl

theorem trimChars_append_cons {c : Char} (h : ¬ isSpace c) (before after : List Char) :
    trimChars (before ++ c :: after) = before.dropWhile isSpace ++ c :: trimRight after := by
  have hleft : (before ++ c :: after).dropWhile isSpace =
      before.dropWhile isSpace ++ c :: after := by
    rw [List.dropWhile_append]
    split
    · next he => rw [List.isEmpty_iff.1 he, List.dropWhile_cons_of_neg h, List.nil_append]
    · rfl
  rw [trimChars, hleft, trimRight_append_cons h]

end Switchboard.Text
