import Switchboard.Proofs.Query.Substituting

/-!
# Writing templates

Literal texts with placeholders between them are written as a template. In a literal, the dollar
signs of a run are doubled where the run ends at a brace: at one of the literal itself, or at that
of the placeholder behind it, whose own dollar sign prolongs the run. All other characters are
written as they are.

* `escape_dollars`: a run is doubled or kept as a whole.
* `renderAll_scan_escape`: what is written for a literal renders as the literal, whatever stands
  behind it and however many dollar signs are pending in front.
* `evaluate_write`: what is written evaluates to the literals and the inserted values, so every text
  has a template.
-/

namespace Switchboard.Template

/-- Whether a run of dollar signs in front of a text ends at a brace. A run up to the end of the
text does if a placeholder is behind it. -/
def meetsBrace (placeholderBehind : Bool) : List Char → Bool
  | [] => placeholderBehind
  | c :: cs => if c = '$' then meetsBrace placeholderBehind cs else c = '\x7b'

/-- A literal as it is written: dollar signs of a run that ends at a brace are doubled. -/
def escape (placeholderBehind : Bool) : List Char → List Char
  | [] => []
  | c :: cs =>
    if c = '$' ∧ meetsBrace placeholderBehind cs then
      '$' :: '$' :: escape placeholderBehind cs
    else c :: escape placeholderBehind cs

/-- A placeholder that may be written: no brace closes its key too early, no white space around the
key is lost, and the key names a value of the record. -/
structure Placeholder (context : Record) where
  key : String
  value : Value
  not_mem_key : '\x7d' ∉ key.toList
  trim_key : Text.trim key = key
  lookup_key : lookup? context key.toList = some value

/-- A literal text with a placeholder behind it. -/
structure Part (context : Record) where
  literal : String
  placeholder : Placeholder context

/-- The template of literals and placeholders in turn, with one more literal at the end. -/
def writeChars {context : Record} (last : String) : List (Part context) → List Char
  | [] => escape false last.toList
  | p :: ps =>
    escape true p.literal.toList ++
      '$' :: '\x7b' :: (p.placeholder.key.toList ++ '\x7d' :: writeChars last ps)

/-- The literals and the inserted values in turn. -/
def textChars {context : Record} (last : String) : List (Part context) → List Char
  | [] => last.toList
  | p :: ps => p.literal.toList ++ insertion p.placeholder.value ++ textChars last ps

@[simp] theorem meetsBrace_dollars (b : Bool) (n : Nat) (cs : List Char) :
    meetsBrace b (dollars n ++ cs) = meetsBrace b cs := by
  induction n with
  | zero => rfl
  | succ n ih => exact ih

/-- The dollar signs that are written for `n` of them in front of a text. -/
def written (b : Bool) (n : Nat) (cs : List Char) : Nat :=
  if meetsBrace b cs then 2 * n else n

@[simp] theorem written_zero (b : Bool) (cs : List Char) : written b 0 cs = 0 := ite_self 0

theorem written_add (b : Bool) (m n : Nat) (cs : List Char) :
    written b m cs + written b n cs = written b (m + n) cs := by
  unfold written
  split <;> omega

/-- A run is doubled as a whole where it ends at a brace, and kept as a whole elsewhere. -/
@[simp] theorem escape_dollars (b : Bool) (n : Nat) (cs : List Char) :
    escape b (dollars n ++ cs) = dollars (written b n cs) ++ escape b cs := by
  induction n with
  | zero => rw [written_zero]; rfl
  | succ n ih =>
    have hd : dollars (n + 1) ++ cs = '$' :: (dollars n ++ cs) := rfl
    rw [hd, escape, meetsBrace_dollars, ih]
    unfold written
    cases meetsBrace b cs <;> rfl

/-- What is written for a literal renders as the literal, if what is written behind it renders as
`out` whatever dollar signs have been read in front. -/
theorem renderAll_scan_escape {context : Record} {b : Bool} {tail out : List Char}
    (h : ∀ offset n, renderAll context (scan offset (.text (written b n [])) tail) =
      .ok (dollars n ++ out)) (cs : List Char) (offset n : Nat) :
    renderAll context (scan offset (.text (written b n cs)) (escape b cs ++ tail)) =
      .ok (dollars n ++ cs ++ out) := by
  induction cs generalizing offset n with
  | nil =>
    rw [List.append_nil]
    exact h offset n
  | cons c cs ih =>
    by_cases hc : c = '$'
    · subst hc
      have hw : written b n ('$' :: cs) + written b 1 cs = written b (n + 1) cs :=
        written_add b n 1 cs
      have hd : dollars (n + 1) = dollars n ++ ['$'] := List.replicate_succ'
      rw [show '$' :: cs = dollars 1 ++ cs from rfl, escape_dollars, List.append_assoc,
        scan_dollars]
      rw [show dollars 1 ++ cs = '$' :: cs from rfl, hw, ih, hd, List.append_assoc,
        List.append_assoc, List.append_assoc]
      rfl
    · have he : escape b (c :: cs) ++ tail = c :: (escape b cs ++ tail) :=
        congrArg (· ++ tail) (if_neg fun h => hc h.1)
      -- Any other character ends the run, so nothing is pending behind it.
      have hr : ∀ offset, renderAll context (scan offset (.text 0) (escape b cs ++ tail)) =
          .ok (cs ++ out) := fun offset => by
        have := ih offset 0
        rwa [written_zero] at this
      rw [he]
      by_cases hb : c = '\x7b'
      · subst hb
        have hw : written b n ('\x7b' :: cs) = 2 * n := rfl
        rw [hw, scan_even_brace, render_literal_cons, hr]
        simp [Except.map]
      · have hw : written b n (c :: cs) = n := by
          simp [written, meetsBrace, hc, hb]
        rw [hw, scan_other hc hb, render_literal_cons, hr]
        simp [Except.map]

/-! ## Whole templates -/

@[simp] theorem Placeholder.lookup_trimChars {context : Record} (p : Placeholder context) :
    lookup? context (Text.trimChars p.key.toList) = some p.value := by
  have h := congrArg String.toList p.trim_key
  rw [Text.trim, String.toList_ofList] at h
  rw [h, p.lookup_key]

theorem renderAll_scan_writeChars {context : Record} (last : String) (ps : List (Part context))
    (offset : Nat) :
    renderAll context (scan offset (.text 0) (writeChars last ps)) = .ok (textChars last ps) := by
  induction ps generalizing offset with
  | nil =>
    have hend : ∀ offset n, renderAll context (scan offset (.text (written false n [])) []) =
        .ok (dollars n ++ []) := fun _ _ => rfl
    have h := renderAll_scan_escape hend last.toList offset 0
    rw [written_zero, List.append_nil, List.append_nil] at h
    exact h
  | cons p ps ih =>
    have hbehind : ∀ offset n, renderAll context (scan offset (.text (written true n []))
        ('$' :: '\x7b' :: (p.placeholder.key.toList ++ '\x7d' :: writeChars last ps))) =
        .ok (dollars n ++ (insertion p.placeholder.value ++ textChars last ps)) := by
      intro offset n
      -- The dollar sign of the placeholder makes an odd run of the doubled ones.
      have hr : 2 * n + 1 = 2 * n + 1 := rfl
      have h := renderAll_scan_placeholder hr p.placeholder.not_mem_key
        p.placeholder.lookup_trimChars offset (writeChars last ps)
      rw [ih, Except.map, List.append_assoc] at h
      exact h
    have h := renderAll_scan_escape hbehind p.literal.toList offset 0
    rw [written_zero] at h
    rw [writeChars, h, textChars, List.append_assoc, List.append_assoc]
    rfl

/-- Literals and placeholders in turn, written as a template, evaluate to the literals and the
inserted values; and every text is the text of some template, whatever the record. -/
theorem evaluate_write :
    (∀ (context : Record) (ps : List (Part context)) (last : String),
      evaluate (.ofList (writeChars last ps)) context = .ok (.ofList (textChars last ps))) ∧
    ∀ text, ∃ template, ∀ context, evaluate template context = .ok text := by
  have h : ∀ (context : Record) (ps : List (Part context)) (last : String),
      evaluate (.ofList (writeChars last ps)) context = .ok (.ofList (textChars last ps)) := by
    intro context ps last
    rw [evaluate_eq, String.toList_ofList, renderAll_scan_writeChars]
    rfl
  refine ⟨h, fun text => ⟨.ofList (escape false text.toList), fun context => ?_⟩⟩
  have := h context [] text
  rwa [textChars, String.ofList_toList] at this

/-- A record whose only value is named `x`. -/
def price : Record := Record.empty.insert "x" (.ofString "5")

/-- The placeholder of the value named `x`. -/
def priceOf : Placeholder price := ⟨"x", .ofString "5", by decide, by decide, by decide⟩

theorem evaluate_write_price :
    evaluate "a $ costs $$$\x7bx\x7d$$$$\x7bx\x7d $$" price = .ok "a $ costs $5$$\x7bx\x7d $$" := by
  have hw : String.ofList (writeChars "$$\x7bx\x7d $$" [⟨"a $ costs $", priceOf⟩]) =
      "a $ costs $$$\x7bx\x7d$$$$\x7bx\x7d $$" := by decide
  have ht : String.ofList (textChars "$$\x7bx\x7d $$" [⟨"a $ costs $", priceOf⟩]) =
      "a $ costs $5$$\x7bx\x7d $$" := by decide
  rw [← hw, ← ht]
  exact evaluate_write.1 price _ _

end Switchboard.Template
