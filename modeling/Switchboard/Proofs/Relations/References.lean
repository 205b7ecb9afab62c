import Switchboard.Proofs.Relations.Outcomes
import Switchboard.Registry.Basic

/-!
# References in writing

A reference to a field is written with a point between the id of its data source and its name, and
white space may stand around both. What is written is read back, as long as both have something in
them, neither begins or ends with white space, and the id has no point; the name may have points of
its own. So every such field can be referred to, and nothing but that field is meant: the relation
leads there if it is there, and what is reported otherwise names what is missing.

* `Reference.parse_trim`: white space around a whole reference is of no account.
* `Reference.IsOrdinary`, `Reference.parse_write`: names that can be written, read back.
* `Relations.Gives`, `Relations.Rejects`: a derivation and the reference of one field.
* `Registry.key_of_written`: a written reference, by what is registered under the id.
-/

namespace Switchboard

namespace Reference

/-! ## Reading what is written -/

@[simp] theorem parse_trim (reference ownField : String) :
    parse (Text.trim reference) ownField = parse reference ownField := by
  cases hc : Text.cut? '.' reference.toList with
  | none =>
    have hp := Text.cut?_eq_none_iff.1 hc
    have hp' : '.' ∉ (Text.trim reference).toList := by
      rw [Text.trim, String.toList_ofList]
      exact fun hm => hp (Text.trimChars_sublist.subset hm)
    rw [parse_of_not_mem hp, parse_of_not_mem hp', Text.trim_trim]
  | some parts =>
    obtain ⟨source, field⟩ := parts
    obtain ⟨hd, hp⟩ := Text.cut?_eq_some_iff.1 hc
    have hp' : '.' ∉ source.dropWhile Text.isSpace := fun hm =>
      hp ((List.dropWhile_sublist _).subset hm)
    -- The point is no white space, so each of the two sides loses its own.
    rw [Text.trim, hd, Text.trimChars_append_cons (by decide), parse_append ownField hp',
      Text.trimChars_dropWhile, Text.trimChars_trimRight, ← parse_append ownField hp, ← hd,
      String.ofList_toList]

/-- The names of a data source and of a field that a reference can be written of. -/
structure IsOrdinary (r : Reference) : Prop where
  dataSource_ne : r.dataSource ≠ ""
  trim_dataSource : Text.trim r.dataSource = r.dataSource
  noPoint : '.' ∉ r.dataSource.toList
  field_ne : r.field ≠ ""
  trim_field : Text.trim r.field = r.field

/-- The reference in writing, with something around each of the names. -/
def write (r : Reference) (w₁ w₂ w₃ w₄ : String) : String :=
  w₁ ++ r.dataSource ++ w₂ ++ "." ++ w₃ ++ r.field ++ w₄

section

variable {r : Reference} {w₁ w₂ w₃ w₄ : String} (ownField : String)

theorem trimChars_around {name before after : String} (hname : Text.trim name = name)
    (hb : Text.isBlank (some before)) (ha : Text.isBlank (some after)) :
    Text.trimChars (before.toList ++ (name.toList ++ after.toList)) = name.toList := by
  rw [Text.trimChars_append_left (List.all_eq_true.1 hb),
    Text.trimChars_append_right _ (List.all_eq_true.1 ha)]
  exact String.toList_ofList.symm.trans (congrArg String.toList hname)

theorem parse_write (ordinary : r.IsOrdinary) (h₁ : Text.isBlank (some w₁))
    (h₂ : Text.isBlank (some w₂)) (h₃ : Text.isBlank (some w₃)) (h₄ : Text.isBlank (some w₄)) :
    parse (r.write w₁ w₂ w₃ w₄) ownField = r := by
  have hw : r.write w₁ w₂ w₃ w₄ =
      .ofList ((w₁.toList ++ (r.dataSource.toList ++ w₂.toList)) ++
        '.' :: (w₃.toList ++ (r.field.toList ++ w₄.toList))) := by
    apply String.ext
    simp [write]
  have hspace : ∀ {w : String}, Text.isBlank (some w) → '.' ∉ w.toList := fun hb hm =>
    absurd (List.all_eq_true.1 hb '.' hm) (by decide)
  have hp : '.' ∉ w₁.toList ++ (r.dataSource.toList ++ w₂.toList) := by
    simp only [List.mem_append, not_or]
    exact ⟨hspace h₁, ordinary.noPoint, hspace h₂⟩
  rw [hw, parse_append ownField hp, trimChars_around ordinary.trim_dataSource h₁ h₂,
    trimChars_around ordinary.trim_field h₃ h₄, String.ofList_toList, String.ofList_toList]

end

end Reference

/-! ## A derivation and the reference of one field -/

theorem ForeignKey.Outcome.exists_reference {d : DataSource} {targets : Targets} {f : Field}
    {o : Except DerivationError ForeignKey} (h : Outcome d targets f o) :
    ∃ reference, f.reference? = some reference := by
  cases h with
  | found hr => exact ⟨_, hr⟩
  | malformed hr => exact ⟨_, hr⟩
  | unresolved hr => exact ⟨_, hr⟩
  | missingField hr => exact ⟨_, hr⟩

theorem ForeignKey.Outcome.run_deriveKey {d : DataSource} {targets : Targets} {f : Field}
    {o : Except DerivationError ForeignKey} (h : Outcome d targets f o)
    (keys : ByField ForeignKey) :
    (Relations.deriveKey (m := Id) .standard d targets keys f).run =
      o.map (keys.insert f.name) := by
  obtain ⟨reference, hr⟩ := h.exists_reference
  rw [ForeignKey.run_deriveKey hr, eq_build_of_outcome hr h]

namespace Relations

variable {d : DataSource} {targets : Targets} {f : Field}

/-- A derivation gives a field a foreign key. -/
structure Gives (d : DataSource) (targets : Targets) (f : Field) (key : ForeignKey) : Prop where
  /-- Where the field comes up, the key is put under its name. -/
  step : ∀ keys,
    (deriveKey (m := Id) .standard d targets keys f).run = .ok (keys.insert f.name key)
  /-- In the relations it stands there if no later field of the name has a reference. -/
  stays : ∀ derived, (derive (m := Id) .standard d targets).run = .ok derived →
    lastBy (·.name) f.name d.referring = some f → derived.foreignKeys[f.name]? = some key

/-- A derivation rejects the reference of a field. -/
structure Rejects (d : DataSource) (targets : Targets) (f : Field) (e : DerivationError) :
    Prop where
  /-- Where the field comes up, there is an error. -/
  step : ∀ keys, (deriveKey (m := Id) .standard d targets keys f).run = .error e
  /-- The derivation ends with it if it comes to the field. -/
  ends : ∀ before after keys, d.fields = before ++ f :: after →
    (before.foldlM (deriveKey (m := Id) .standard d targets) ∅).run = .ok keys →
    (derive (m := Id) .standard d targets).run = .error e
  /-- It does not succeed in any case. -/
  fails : f ∈ d.fields → ∀ derived, (derive (m := Id) .standard d targets).run ≠ .ok derived

theorem gives_of_outcome {key : ForeignKey} (h : ForeignKey.Outcome d targets f (.ok key)) :
    Gives d targets f key where
  step := h.run_deriveKey
  stays derived hd hl := by
    obtain ⟨-, hkeys, -⟩ := derive_eq_ok_iff_outcomes.1 hd
    obtain ⟨key', hk, h'⟩ := (hkeys f.name).2 f hl
    obtain ⟨reference, hr⟩ := h.exists_reference
    have heq := (ForeignKey.eq_build_of_outcome hr h').trans
      (ForeignKey.eq_build_of_outcome hr h).symm
    rw [hk, Except.ok.inj heq]

theorem rejects_of_outcome {e : DerivationError} (h : ForeignKey.Outcome d targets f (.error e)) :
    Rejects d targets f e where
  step := h.run_deriveKey
  ends before after keys hd hb := run_bind_eq_error_iff.2
    (.inl (foldlM_eq_error_iff.2 ⟨before, f, after, keys, hd, hb, h.run_deriveKey keys⟩))
  fails hf derived hd := by
    obtain ⟨keys, keys', hstep⟩ := exists_step_of_foldlM hf (derive_eq_ok_iff.1 hd).1
    cases (h.run_deriveKey keys).symm.trans hstep

end Relations

/-! ## References to what is registered -/

namespace Registry

variable {σ : Type}

/-- A field has a reference that is written of two ordinary names, with white space anywhere around
them. Where a data source is registered under the first name, which is its own id, and has a field
of the second, the reference gives a foreign key to just that field. Where none is registered, or
the handler bears none, it is rejected for the sake of the first name, and where the data source has
no such field for the sake of both. -/
theorem key_of_written (r : Registry σ Id) (d : DataSource) {f : Field} {names : Reference}
    (ordinary : names.IsOrdinary) {w₁ w₂ w₃ w₄ : String}
    (blank : ∀ w ∈ [w₁, w₂, w₃, w₄], Text.isBlank (some w))
    (written : f.foreignKey = some (names.write w₁ w₂ w₃ w₄)) :
    (∀ h x, r.get? names.dataSource = some h → h.dataSource = some x → x.id = names.dataSource →
      names.field ∈ x.fields.map (·.name) →
      Relations.Gives d r.dataSource? f ⟨d.id, f.name, names.dataSource, names.field⟩) ∧
    ((r.get? names.dataSource = none ∨
        ∃ h, r.get? names.dataSource = some h ∧ h.dataSource = none) →
      Relations.Rejects d r.dataSource? f (.unresolvedTarget d.id f.name names.dataSource)) ∧
    ∀ h x, r.get? names.dataSource = some h → h.dataSource = some x →
      names.field ∉ x.fields.map (·.name) →
      Relations.Rejects d r.dataSource? f
        (.missingTargetField d.id f.name names.dataSource names.field) := by
  obtain ⟨reference, hr, hs⟩ : ∃ reference, f.reference? = some reference ∧
      Reference.Splits reference f.name names := by
    refine ⟨_, Field.reference?_eq_some_iff.2 ⟨_, written, ?_, rfl⟩, ?_⟩
    · exact Text.trim_ne_empty (c := '.') (by simp [Reference.write]) (by decide)
    · rw [Reference.splits_iff, Reference.parse_trim]
      exact (Reference.parse_write f.name ordinary (blank _ (by simp)) (blank _ (by simp))
        (blank _ (by simp)) (blank _ (by simp))).symm
  have hd : ∀ {h x}, r.get? names.dataSource = some h → h.dataSource = some x →
      r.dataSource? names.dataSource = some x := fun hg hx => by
    rw [dataSource?, hg, Option.bind_some, hx]
  refine ⟨fun h x hg hx hid hm => ?_, fun hnone => ?_, fun h x hg hx hm => ?_⟩
  · refine Relations.gives_of_outcome ?_
    rw [← hid]
    exact .found hr hs ordinary.dataSource_ne ordinary.field_ne (hd hg hx) hm
  · refine Relations.rejects_of_outcome
      (.unresolved hr hs ordinary.dataSource_ne ordinary.field_ne ?_)
    rcases hnone with hg | ⟨h, hg, hx⟩
    · rw [dataSource?, hg, Option.bind_none]
    · rw [dataSource?, hg, Option.bind_some, hx]
  · exact Relations.rejects_of_outcome
      (.missingField hr hs ordinary.dataSource_ne ordinary.field_ne (hd hg hx) hm)

/-- Customers, of whose names the first part is a field by itself. -/
def clientele : Registry Unit Id :=
  (empty .standard).put (.ofDataSource ⟨"customers", [.new "id", .new "name.first"], []⟩ none)

/-- A reference to it, with white space of several kinds. -/
def addressee : Field := ⟨"addressee", some "\u2003customers\t.\u00a0name.first\n", none⟩

/-- Where there are no customers it is rejected, and where there are it leads to the first name. -/
theorem addressee_key_of_written :
    Reference.IsOrdinary ⟨"customers", "name.first"⟩ ∧
    (∀ w ∈ ["\u2003", "\t", "\u00a0", "\n"], Text.isBlank (some w)) ∧
    Relations.Gives ⟨"letters", [addressee], []⟩ clientele.dataSource? addressee
      ⟨"letters", "addressee", "customers", "name.first"⟩ ∧
    Relations.Rejects ⟨"letters", [addressee], []⟩ (empty .standard : Registry Unit Id).dataSource?
      addressee (.unresolvedTarget "letters" "addressee" "customers") := by
  have ordinary : Reference.IsOrdinary ⟨"customers", "name.first"⟩ := by
    constructor <;> decide
  have blank : ∀ w ∈ ["\u2003", "\t", "\u00a0", "\n"], Text.isBlank (some w) := by decide
  have written : addressee.foreignKey =
      some (Reference.write ⟨"customers", "name.first"⟩ "\u2003" "\t" "\u00a0" "\n") := by decide
  obtain ⟨gives, -, -⟩ := key_of_written clientele ⟨"letters", [addressee], []⟩ ordinary blank
    written
  obtain ⟨-, rejects, -⟩ := key_of_written (empty .standard : Registry Unit Id)
    ⟨"letters", [addressee], []⟩ ordinary blank written
  exact ⟨ordinary, blank, gives _ _ rfl rfl rfl (by decide), rejects (.inl rfl)⟩

end Registry

end Switchboard
