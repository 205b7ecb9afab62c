import Switchboard.Proofs.Query.Substituting

/-!
# Templates read from left to right

What the text of a template is, said by rules about what stands at its front: a character that is
copied, a whole run of dollar signs, or a run with the brace behind it and, where the run is odd,
the key up to the next closing brace. The rules know nothing of pieces or of modes; the text that
has been read stands beside the rest only to tell where in the template a problem is.

* `Leads`, `Names`: the value that a dotted path names, record by record.
* `Reads`: the text of what is left of a template, or the first problem in it.
* `exists_reads`: every text reads as something.
* `evaluate_eq_iff_reads`: the evaluator gives exactly the text or the problem of the rules.
-/

namespace Switchboard.Template

/-! ## Keys and values -/

/-- A path of names leads to a value: the first name is looked up in a record, and each further one
in the record found under the one before. -/
inductive Leads : Record → List (List Char) → Value → Prop where
  | last {r : Record} {name : List Char} {v : Value} :
      r.find? (.ofList name) = some v → Leads r [name] v
  | through {r inner : Record} {name : List Char} {names : List (List Char)} {v : Value} :
      r.find? (.ofList name) = some (.ofRecord inner) → Leads inner names v →
      Leads r (name :: names) v

/-- A key names the value that its parts between the points lead to. -/
def Names (context : Record) (key : List Char) (v : Value) : Prop :=
  ∃ names, (∀ name ∈ names, '.' ∉ name) ∧ ['.'].intercalate names = key ∧ Leads context names v

/-- A string is inserted as it is, and any other value as compact JSON. -/
inductive Inserts : Value → List Char → Prop where
  | text (s : String) : Inserts (.ofString s) s.toList
  | json {v : Value} : (∀ s, v ≠ .ofString s) → Inserts v (Json.compactChars v.json)

theorem Leads.ne_nil {r : Record} {names : List (List Char)} {v : Value} (h : Leads r names v) :
    names ≠ [] := by
  cases h <;> exact List.cons_ne_nil _ _

/-- Descending from a record finds what a path leads to. -/
theorem descend?_eq_some_iff {names : List (List Char)} (hne : names ≠ []) {r : Record}
    {v : Value} : descend? (.ofRecord r) names = some v ↔ Leads r names v := by
  induction names generalizing r with
  | nil => exact absurd rfl hne
  | cons name names ih =>
    have hr : (Value.ofRecord r).record? = some r := Value.record?_eq_some_iff.2 rfl
    simp only [descend?, hr, Option.bind_eq_bind, Option.bind_some, Option.bind_eq_some_iff]
    cases names with
    | nil =>
      constructor
      · rintro ⟨w, hw, hv⟩
        cases hv
        exact .last hw
      · intro h
        cases h with
        | last h => exact ⟨v, h, rfl⟩
        | through _ h => exact absurd rfl h.ne_nil
    | cons next names =>
      constructor
      · rintro ⟨w, hw, hv⟩
        -- A further name is looked up, so what the first one found is a record.
        have hw' := hv
        simp only [descend?, Option.bind_eq_bind, Option.bind_eq_some_iff] at hw'
        obtain ⟨inner, hinner, -⟩ := hw'
        rw [Value.record?_eq_some_iff] at hinner
        subst hinner
        exact .through hw ((ih (List.cons_ne_nil _ _)).1 hv)
      · intro h
        cases h with
        | through hw h => exact ⟨_, hw, (ih (List.cons_ne_nil _ _)).2 h⟩

theorem lookup?_eq_some_iff {context : Record} {key : List Char} {v : Value} :
    lookup? context key = some v ↔ Names context key v := by
  rw [lookup?, descend?_eq_some_iff (Text.split_ne_nil '.' key)]
  constructor
  · intro h
    exact ⟨_, fun name hn => Text.sep_not_mem_of_mem_split hn, Text.intercalate_split '.' key, h⟩
  · rintro ⟨names, hn, rfl, h⟩
    rwa [Text.split_intercalate h.ne_nil hn]

theorem inserts_iff {v : Value} {text : List Char} : Inserts v text ↔ insertion v = text := by
  unfold insertion
  constructor
  · intro h
    cases h with
    | text s => rfl
    | json h =>
      cases ht : v.text? with
      | none => rfl
      | some s => exact absurd (Value.text?_eq_some_iff.1 ht) (h s)
  · rintro rfl
    cases ht : v.text? with
    | none =>
      refine .json fun s he => ?_
      rw [Value.text?_eq_some_iff.2 he] at ht
      cases ht
    | some s =>
      obtain rfl := Value.text?_eq_some_iff.1 ht
      exact .text s

/-! ## The rules -/

/-- What is left of a template reads as a text, or has a first problem. `before` is the part of the
template that has been read. -/
inductive Reads (context : Record) :
    (before rest : List Char) → Except TemplateError (List Char) → Prop where
  | done {before : List Char} : Reads context before [] (.ok [])
  /-- A character that is no dollar sign is copied. -/
  | copy {before rest : List Char} {c : Char} {out : Except TemplateError (List Char)} :
      c ≠ '$' → Reads context (before ++ [c]) rest out →
      Reads context before (c :: rest) (out.map (c :: ·))
  /-- A run of dollar signs that does not end at a brace is copied. -/
  | run {before rest : List Char} {n : Nat} {out : Except TemplateError (List Char)} :
      0 < n → rest.head? ≠ some '$' → rest.head? ≠ some '\x7b' →
      Reads context (before ++ dollars n) rest out →
      Reads context before (dollars n ++ rest) (out.map (dollars n ++ ·))
  /-- An even run in front of a brace stands for half of it, and the brace for itself. -/
  | escaped {before rest : List Char} {n : Nat} {out : Except TemplateError (List Char)} :
      0 < n → Reads context (before ++ dollars (2 * n) ++ ['\x7b']) rest out →
      Reads context before (dollars (2 * n) ++ '\x7b' :: rest)
        (out.map (dollars n ++ '\x7b' :: ·))
  /-- An odd run in front of a brace stands for half of it, and is followed by the value that the
  trimmed key names. -/
  | value {before key text rest : List Char} {n : Nat} {v : Value}
      {out : Except TemplateError (List Char)} :
      '\x7d' ∉ key → Names context (Text.trimChars key) v → Inserts v text →
      Reads context (before ++ dollars (2 * n + 1) ++ '\x7b' :: key ++ ['\x7d']) rest out →
      Reads context before (dollars (2 * n + 1) ++ '\x7b' :: key ++ '\x7d' :: rest)
        (out.map (dollars n ++ text ++ ·))
  | unknown {before key rest : List Char} {n : Nat} :
      '\x7d' ∉ key → (∀ v, ¬ Names context (Text.trimChars key) v) →
      Reads context before (dollars (2 * n + 1) ++ '\x7b' :: key ++ '\x7d' :: rest)
        (.error (.unknownVariable (.ofList (Text.trimChars key))))
  /-- The problem of a key without an end is at the last dollar sign of the run. -/
  | unterminated {before rest : List Char} {n : Nat} :
      '\x7d' ∉ rest →
      Reads context before (dollars (2 * n + 1) ++ '\x7b' :: rest)
        (.error (.unterminated (String.ofList (before ++ dollars (2 * n))).utf8ByteSize))

theorem renderAll_scan_of_reads {context : Record} {before rest : List Char}
    {out : Except TemplateError (List Char)} (h : Reads context before rest out) :
    renderAll context (scan (byteLength before) (.text 0) rest) = out := by
  induction h with
  | done => rfl
  | @copy before rest c out hc _ ih =>
    rw [byteLength_append] at ih
    have hs : step (byteLength before) (.text 0) c = ([.literal [c]], .text 0) := by
      rw [step, if_neg hc]
      split <;> rfl
    rw [scan, hs, List.singleton_append, render_literal_cons, ← ih]
    rfl
  | @run before rest n out _ hd hb _ ih =>
    rw [byteLength_append, byteLength_dollars] at ih
    rw [scan_dollars, Nat.zero_add, renderAll_scan_run context _ n hd hb, ih]
  | @escaped before rest n out _ _ ih =>
    rw [byteLength_append, byteLength_append, byteLength_dollars] at ih
    rw [scan_dollars, Nat.zero_add, scan_even_brace, render_literal_cons, ← ih]
    simp only [List.append_assoc, List.singleton_append]
    rfl
  | @value before key text rest n v out hk hv ht _ ih =>
    have hl := lookup?_eq_some_iff.2 hv
    have hi := inserts_iff.1 ht
    have ho : byteLength (before ++ dollars (2 * n + 1) ++ '\x7b' :: key ++ ['\x7d']) =
        byteLength before + (2 * n + 1) + 1 + byteLength key + 1 := by
      simp only [byteLength_append, byteLength_dollars, byteLength, Nat.add_assoc]
      rfl
    rw [ho] at ih
    have hr : 0 + (2 * n + 1) = 2 * n + 1 := Nat.zero_add _
    rw [List.append_assoc, List.cons_append, renderAll_scan_placeholder hr hk hl, hi, ih]
  | @unknown before key rest n hk hv =>
    have hl : lookup? context (Text.trimChars key) = none := by
      cases hl : lookup? context (Text.trimChars key) with
      | none => rfl
      | some v => exact absurd (lookup?_eq_some_iff.1 hl) (hv v)
    rw [List.append_assoc, List.cons_append, scan_placeholder (Nat.zero_add _) hk,
      render_literal_cons]
    simp only [renderAll, Piece.render, hl]
    rfl
  | @unterminated before rest n hr =>
    rw [scan_dollars, Nat.zero_add, scan_odd_brace, scan_key_of_not_mem hr, utf8ByteSize_ofList,
      byteLength_append, byteLength_dollars]
    rfl

/-! ## Every template has an outcome -/

/-- An odd run and a brace read as something, if what is shorter than the text behind them does. -/
theorem exists_reads_odd_brace {context : Record} {rest : List Char}
    (ih : ∀ before tail : List Char, tail.length < rest.length →
      ∃ out, Reads context before tail out)
    (before : List Char) (n : Nat) :
    ∃ out, Reads context before (dollars (2 * n + 1) ++ '\x7b' :: rest) out := by
  cases hk : Text.cut? '\x7d' rest with
  | none => exact ⟨_, .unterminated (Text.cut?_eq_none_iff.1 hk)⟩
  | some parts =>
    obtain ⟨key, after⟩ := parts
    have hlen := Text.length_lt_of_cut? hk
    obtain ⟨rfl, hkey⟩ := Text.cut?_eq_some_iff.1 hk
    rw [← List.cons_append, ← List.append_assoc]
    by_cases hv : ∃ v, Names context (Text.trimChars key) v
    · obtain ⟨v, hv⟩ := hv
      obtain ⟨out, h⟩ := ih (before ++ dollars (2 * n + 1) ++ '\x7b' :: key ++ ['\x7d']) after hlen
      exact ⟨_, .value hkey hv (inserts_iff.2 rfl) h⟩
    · exact ⟨_, .unknown hkey (not_exists.1 hv)⟩

/-- A run of any length and a brace read as something, if the text behind them and all that is
shorter does. -/
theorem exists_reads_brace {context : Record} {rest : List Char}
    (ih : ∀ before tail : List Char, tail.length ≤ rest.length →
      ∃ out, Reads context before tail out)
    (before : List Char) (n : Nat) :
    ∃ out, Reads context before (dollars n ++ '\x7b' :: rest) out := by
  obtain ⟨k, rfl | rfl⟩ : ∃ k, n = 2 * k ∨ n = 2 * k + 1 := ⟨n / 2, by omega⟩
  · rcases Nat.eq_zero_or_pos k with rfl | hk
    · obtain ⟨out, h⟩ := ih (before ++ ['\x7b']) rest (Nat.le_refl _)
      exact ⟨_, .copy (by decide) h⟩
    · obtain ⟨out, h⟩ := ih (before ++ dollars (2 * k) ++ ['\x7b']) rest (Nat.le_refl _)
      exact ⟨_, .escaped hk h⟩
  · exact exists_reads_odd_brace (fun before tail ht => ih before tail (Nat.le_of_lt ht)) before k

theorem exists_reads (context : Record) (before rest : List Char) :
    ∃ out, Reads context before rest out := by
  have ih : ∀ before tail : List Char, tail.length < rest.length →
      ∃ out, Reads context before tail out := fun before tail _ => exists_reads context before tail
  obtain ⟨n, tail, rfl, hd⟩ := exists_dollars_append rest
  cases tail with
  | nil =>
    rcases Nat.eq_zero_or_pos n with rfl | hn
    · exact ⟨_, .done⟩
    · exact ⟨_, .run hn hd (by simp) .done⟩
  | cons c cs =>
    have hlen : cs.length < (dollars n ++ c :: cs).length := by
      rw [List.length_append, List.length_cons]
      omega
    by_cases hb : c = '\x7b'
    · subst hb
      exact exists_reads_brace
        (fun before tail ht => ih before tail (Nat.lt_of_le_of_lt ht hlen)) before n
    · have hc : c ≠ '$' := fun h => hd (congrArg some h)
      have hb' : (c :: cs).head? ≠ some '\x7b' := fun h => hb (Option.some.inj h)
      rcases Nat.eq_zero_or_pos n with rfl | hn
      · obtain ⟨out, h⟩ := ih (before ++ [c]) cs hlen
        exact ⟨_, .copy hc h⟩
      · obtain ⟨out, h⟩ := ih (before ++ dollars n ++ [c]) cs hlen
        exact ⟨_, .run hn hd hb' (.copy hc h)⟩
termination_by rest.length

theorem reads_iff {context : Record} {before rest : List Char}
    {out : Except TemplateError (List Char)} :
    Reads context before rest out ↔
      renderAll context (scan (byteLength before) (.text 0) rest) = out := by
  refine ⟨renderAll_scan_of_reads, ?_⟩
  rintro rfl
  obtain ⟨out, h⟩ := exists_reads context before rest
  rwa [renderAll_scan_of_reads h]

/-- Evaluating a template gives the text, or the first problem, that the rules give for the whole of
it. -/
theorem evaluate_eq_iff_reads (template : String) (context : Record)
    (result : Except TemplateError String) :
    evaluate template context = result ↔
      ∃ out, Reads context [] template.toList out ∧ result = out.map .ofList := by
  rw [evaluate_eq]
  simp only [reads_iff, exists_eq_left']
  exact eq_comm

end Switchboard.Template
