import Switchboard.Proofs.Relations.Outcomes

/-!
# The order of fields

Where no two fields of a data source have the same name, what a field comes to does not hang on
where it stands: a foreign key is settled by its field alone, and an import goes through the one field of
the name it gives. So the fields may be put into any order. Where the data source refers to itself,
it finds itself with its fields in the other order, which looks the same to every reference.

* `Targets.IsAlike`: two ways to find data sources that look the same.
* `ForeignKey.Outcome.of_reordered`, `ImportFrom.Outcome.of_reordered`: what a field comes to.
* `IsLastOf.of_perm`: what stands under the names.
* `Relations.derive_of_reordered`: a derivation, and one with the fields in another order.
-/

namespace Switchboard

/-- Two data sources have the same id, and the same fields in some order. -/
def DataSource.IsReordered (d d' : DataSource) : Prop := d.id = d'.id ∧ d.fields.Perm d'.fields

namespace Targets

/-- Under every id nothing is found by either way, or data sources with the same id and the same
names of fields. -/
def IsAlike (targets targets' : Targets) : Prop :=
  ∀ id, (targets id).map DataSource.outline = (targets' id).map DataSource.outline

/-- The data sources with one in the place of its id. -/
def put (targets : Targets) (d : DataSource) : Targets :=
  fun id => if d.id = id then some d else targets id

end Targets

section

variable {d d' : DataSource} {targets targets' : Targets}

theorem DataSource.IsReordered.symm (h : d.IsReordered d') : d'.IsReordered d :=
  ⟨h.1.symm, h.2.symm⟩

theorem DataSource.IsReordered.outline_eq (h : d.IsReordered d') : d.outline = d'.outline := by
  refine DataSource.outline_eq_iff.2 ⟨h.1, fun name => Bool.eq_iff_iff.2 ?_⟩
  rw [DataSource.isSome_field?_iff, DataSource.isSome_field?_iff]
  exact (h.2.map (·.name)).mem_iff

theorem Targets.IsAlike.symm (h : targets.IsAlike targets') : targets'.IsAlike targets :=
  fun id => (h id).symm

theorem Targets.IsAlike.none (h : targets.IsAlike targets') {id : String}
    (ht : targets id = none) : targets' id = none := by
  have hid := h id
  rw [ht, Option.map_none] at hid
  exact Option.map_eq_none_iff.1 hid.symm

theorem Targets.IsAlike.exists_some (h : targets.IsAlike targets') {id : String} {x : DataSource}
    (ht : targets id = some x) : ∃ y, targets' id = some y ∧ x.id = y.id ∧
      ∀ name, name ∈ x.fields.map (·.name) ↔ name ∈ y.fields.map (·.name) := by
  rcases DataSource.cases_of_map_outline (h id) with ⟨hn, -⟩ | ⟨x', y, hx, hy, hid, hf⟩
  · rw [ht] at hn
    cases hn
  · cases ht.symm.trans hx
    refine ⟨y, hy, hid, fun name => ?_⟩
    rw [← DataSource.isSome_field?_iff, ← DataSource.isSome_field?_iff, hf]

theorem DataSource.IsReordered.isAlike_put (h : d.IsReordered d') (targets : Targets) :
    (targets.put d).IsAlike (targets.put d') := by
  intro id
  unfold Targets.put
  rw [← h.1]
  split
  · exact congrArg some h.outline_eq
  · rfl

/-! ## What fields come to -/

theorem ForeignKey.Outcome.of_reordered (reordered : d.IsReordered d')
    (alike : targets.IsAlike targets') {f : Field} {o : Except DerivationError ForeignKey}
    (h : Outcome d targets f o) : Outcome d' targets' f o := by
  cases h with
  | found hr hs hsource hfield ht hm =>
    obtain ⟨y, hy, hid, hf⟩ := alike.exists_some ht
    rw [reordered.1, hid]
    exact .found hr hs hsource hfield hy ((hf _).1 hm)
  | malformed hr hs hblank =>
    rw [reordered.1]
    exact .malformed hr hs hblank
  | unresolved hr hs hsource hfield ht =>
    rw [reordered.1]
    exact .unresolved hr hs hsource hfield (alike.none ht)
  | missingField hr hs hsource hfield ht hm =>
    obtain ⟨y, hy, -, hf⟩ := alike.exists_some ht
    rw [reordered.1]
    exact .missingField hr hs hsource hfield hy fun hy => hm ((hf _).2 hy)

theorem DataSource.IsReordered.lastBy_referring (reordered : d.IsReordered d')
    (once : (d.fields.map (·.name)).Nodup) (name : String) :
    lastBy (·.name) name d.referring = lastBy (·.name) name d'.referring :=
  lastBy_of_perm (reordered.2.filter _) (once.sublist (List.filter_sublist.map _)) name

theorem ImportFrom.Outcome.of_reordered (reordered : d.IsReordered d')
    (once : (d.fields.map (·.name)).Nodup) (alike : targets.IsAlike targets') {f : Field}
    {o : Except DerivationError ImportFrom} (h : Outcome d targets f o) :
    Outcome d' targets' f o := by
  cases h with
  | found hi hl hg ht hm =>
    obtain ⟨y, hy, hid, hf⟩ := alike.exists_some ht
    rw [reordered.lastBy_referring once] at hl
    rw [reordered.1, hid]
    exact .found hi hl (hg.of_reordered reordered alike) hy ((hf _).1 hm)
  | missingKey hi hl =>
    rw [reordered.lastBy_referring once] at hl
    rw [reordered.1]
    exact .missingKey hi hl
  | unresolved hi hl hg ht =>
    rw [reordered.lastBy_referring once] at hl
    rw [reordered.1]
    exact .unresolved hi hl (hg.of_reordered reordered alike) (alike.none ht)
  | missingField hi hl hg ht hm =>
    obtain ⟨y, hy, hid, hf⟩ := alike.exists_some ht
    rw [reordered.lastBy_referring once] at hl
    rw [reordered.1, hid]
    exact .missingField hi hl (hg.of_reordered reordered alike) hy fun hy => hm ((hf _).2 hy)

/-! ## Derivations -/

/-- What stands under the names is the same in every order of the fields. -/
theorem IsLastOf.of_perm {ρ : Type} {Outcome Outcome' : Field → Except DerivationError ρ → Prop}
    {fields fields' : List Field} (perm : fields.Perm fields')
    (once : (fields.map (·.name)).Nodup) (keeps : ∀ f o, Outcome f o → Outcome' f o)
    {relations : ByField ρ} (h : IsLastOf Outcome fields relations) :
    IsLastOf Outcome' fields' relations := by
  intro name
  rw [← lastBy_of_perm perm once]
  obtain ⟨hnone, hsome⟩ := h name
  refine ⟨hnone, fun f hf => ?_⟩
  obtain ⟨relation, hr, ho⟩ := hsome f hf
  exact ⟨relation, hr, keeps f _ ho⟩

namespace Relations

theorem derive_eq_ok_of_reordered (reordered : d.IsReordered d')
    (once : (d.fields.map (·.name)).Nodup) (alike : targets.IsAlike targets') {derived : Relations}
    (h : (derive (m := Id) .standard d targets).run = .ok derived) :
    (derive (m := Id) .standard d' targets').run = .ok derived := by
  obtain ⟨⟨hkeys, himports⟩, hlastKeys, hlastImports⟩ := derive_eq_ok_iff_outcomes.1 h
  have hreferring : d.referring.Perm d'.referring := reordered.2.filter _
  have himporting : d.importing.Perm d'.importing := reordered.2.filter _
  have key : ∀ f o, ForeignKey.Outcome d targets f o → ForeignKey.Outcome d' targets' f o :=
    fun f o => ForeignKey.Outcome.of_reordered reordered alike
  have imported : ∀ f o, ImportFrom.Outcome d targets f o → ImportFrom.Outcome d' targets' f o :=
    fun f o => ImportFrom.Outcome.of_reordered reordered once alike
  refine derive_eq_ok_iff_outcomes.2 ⟨⟨fun f hf => ?_, fun f hf => ?_⟩,
    hlastKeys.of_perm hreferring (once.sublist (List.filter_sublist.map _)) key,
    hlastImports.of_perm himporting (once.sublist (List.filter_sublist.map _)) imported⟩
  · obtain ⟨k, hk⟩ := hkeys f (hreferring.mem_iff.2 hf)
    exact ⟨k, key f _ hk⟩
  · obtain ⟨i, hi⟩ := himports f (himporting.mem_iff.2 hf)
    exact ⟨i, imported f _ hi⟩

/-- The fields of a data source, each of another name, may be put into any order: the relations are
derived in the one order exactly when they are in the other, and they are the same. The data sources
that are referred to may be found in any two ways that look alike, so the data source itself may be
among them in its own order. -/
theorem derive_of_reordered (reordered : d.IsReordered d')
    (once : (d.fields.map (·.name)).Nodup) :
    (∀ targets targets' : Targets, targets.IsAlike targets' → ∀ derived,
      (derive (m := Id) .standard d targets).run = .ok derived ↔
        (derive (m := Id) .standard d' targets').run = .ok derived) ∧
    ∀ (targets : Targets) derived,
      (derive (m := Id) .standard d (targets.put d)).run = .ok derived ↔
        (derive (m := Id) .standard d' (targets.put d')).run = .ok derived := by
  have once' : (d'.fields.map (·.name)).Nodup := (reordered.2.map (·.name)).nodup_iff.1 once
  have both : ∀ targets targets' : Targets, targets.IsAlike targets' → ∀ derived,
      (derive (m := Id) .standard d targets).run = .ok derived ↔
        (derive (m := Id) .standard d' targets').run = .ok derived := fun _ _ alike _ =>
    ⟨derive_eq_ok_of_reordered reordered once alike,
      derive_eq_ok_of_reordered reordered.symm once' alike.symm⟩
  exact ⟨both, fun targets => both _ _ (reordered.isAlike_put targets)⟩

/-- Parcels, some in others: the id of the outer one is shown, and refers to it too. -/
def parcels : DataSource where
  id := "parcels"
  fields := [.new "id", ⟨"outer", some "parcels.id", none⟩,
    ⟨"outerId", some "parcels.outer", some ⟨"outer", "id", none⟩⟩]
  bindings := []

/-- The same with the import in front. -/
def parcelsBackward : DataSource := { parcels with fields := parcels.fields.reverse }

theorem parcels_derive_of_reordered :
    parcels.IsReordered parcelsBackward ∧ (parcels.fields.map (·.name)).Nodup ∧
      ∃ derived, derived.imports[("outerId" : String)]? =
          some ⟨"parcels", "outerId", "outer", "parcels", "id", none⟩ ∧
        (derive (m := Id) .standard parcels (Targets.put (fun _ => none) parcels)).run =
          .ok derived ∧
        (derive (m := Id) .standard parcelsBackward
          (Targets.put (fun _ => none) parcelsBackward)).run = .ok derived := by
  have reordered : parcels.IsReordered parcelsBackward := ⟨rfl, (List.reverse_perm _).symm⟩
  have once : (parcels.fields.map (·.name)).Nodup := by decide
  obtain ⟨derived, h, hi⟩ : ∃ derived,
      (derive (m := Id) .standard parcels (Targets.put (fun _ => none) parcels)).run = .ok derived ∧
        derived.imports[("outerId" : String)]? =
          some ⟨"parcels", "outerId", "outer", "parcels", "id", none⟩ := ⟨_, rfl, rfl⟩
  exact ⟨reordered, once, derived, hi, h,
    ((derive_of_reordered reordered once).2 _ derived).1 h⟩

end Relations

end

end Switchboard
