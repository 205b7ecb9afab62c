import Switchboard.Proofs.Latest
import Switchboard.Proofs.Relations.Derived

/-!
# What a derivation comes to

What a reference leads to is settled by the field that has it and by the data sources that are
found, and so is what an import shows, which goes through the last reference of the name it gives. A
derivation succeeds when each of them comes to a relation, and then the last field of a name decides
what stands under the name. It fails with the error of the first reference that comes to one, in the
order of the fields, and only where there is none with that of the first import.

* `Reference.Splits`: what a reference names.
* `ForeignKey.Outcome`, `ImportFrom.Outcome`: what a field comes to by itself.
* `IsLastOf`, `FailsFirst`: how the fields together decide the relations, or the error.
* `foldlM_eq_ok_iff_of_puts`, `foldlM_eq_error_iff_of_puts`: folds that put what elements come to
  under their names.
* `Relations.derive_characterized`: a derivation and its outcome.
-/

namespace Switchboard

/-! ## Folds that put what elements come to under their names -/

section

variable {ε α ρ : Type} {name : α → String} {f : ByField ρ → α → ExceptT ε Id (ByField ρ)}
  {Comes : α → Except ε ρ → Prop} {xs : List α}

/-- An element comes to one thing, and a step with it puts that under its name, or fails with it. -/
def Puts (name : α → String) (f : ByField ρ → α → ExceptT ε Id (ByField ρ))
    (Comes : α → Except ε ρ → Prop) (x : α) : Prop :=
  ∃ o, (∀ o', Comes x o' ↔ o' = o) ∧ ∀ b, (f b x).run = o.map (b.insert (name x))

theorem Puts.run_eq_ok_iff {x : α} (h : Puts name f Comes x) {b b' : ByField ρ} :
    (f b x).run = .ok b' ↔ ∃ y, Comes x (.ok y) ∧ b' = b.insert (name x) y := by
  obtain ⟨o, ho, hf⟩ := h
  simp only [hf, ho]
  cases o with
  | error e => exact ⟨nofun, fun ⟨_, hy, _⟩ => nomatch hy⟩
  | ok y => exact ⟨fun he => ⟨y, rfl, (Except.ok.inj he).symm⟩, fun ⟨_, hy, he⟩ => by
      cases hy
      exact congrArg Except.ok he.symm⟩

theorem Puts.run_eq_error_iff {x : α} (h : Puts name f Comes x) {b : ByField ρ} {e : ε} :
    (f b x).run = .error e ↔ Comes x (.error e) := by
  obtain ⟨o, ho, hf⟩ := h
  rw [hf, ho]
  cases o with
  | error e' => exact ⟨fun he => congrArg _ (Except.error.inj he).symm, fun he => by cases he; rfl⟩
  | ok y => exact ⟨nofun, nofun⟩

theorem Puts.unique {x : α} (h : Puts name f Comes x) {o o' : Except ε ρ} (ho : Comes x o)
    (ho' : Comes x o') : o = o' := by
  obtain ⟨u, hu, -⟩ := h
  exact ((hu o).1 ho).trans ((hu o').1 ho').symm

/-- Such a fold succeeds when every element comes to something, and leaves under every name what the
last element of the name comes to. -/
theorem foldlM_eq_ok_iff_of_puts (h : ∀ x ∈ xs, Puts name f Comes x) {b b' : ByField ρ} :
    (xs.foldlM f b).run = .ok b' ↔ (∀ x ∈ xs, ∃ y, Comes x (.ok y)) ∧
      ∀ k, (lastBy name k xs = none → b'[k]? = b[k]?) ∧
        ∀ x, lastBy name k xs = some x → ∃ y, b'[k]? = some y ∧ Comes x (.ok y) := by
  induction xs generalizing b with
  | nil =>
    rw [List.foldlM_nil, run_pure_eq_ok_iff]
    exact ⟨fun he => ⟨nofun, fun k => ⟨fun _ => he ▸ rfl, nofun⟩⟩,
      fun hb => Std.ExtTreeMap.ext_getElem? fun {k} => (hb.2 k).1 rfl⟩
  | cons x xs ih =>
    obtain ⟨hx, hxs⟩ := List.forall_mem_cons.1 h
    simp only [List.foldlM_cons, run_bind_eq_ok_iff, hx.run_eq_ok_iff, List.forall_mem_cons]
    have hstep : ∀ y k, Comes x (.ok y) →
        (((lastBy name k xs = none → b'[k]? = (b.insert (name x) y)[k]?) ∧
          ∀ x, lastBy name k xs = some x → ∃ y, b'[k]? = some y ∧ Comes x (.ok y)) ↔
        ((lastBy name k (x :: xs) = none → b'[k]? = b[k]?) ∧
          ∀ z, lastBy name k (x :: xs) = some z → ∃ y, b'[k]? = some y ∧ Comes z (.ok y))) := by
      intro y k hy
      rw [lastBy_cons]
      cases lastBy name k xs with
      | some z => simp
      | none =>
        rw [Option.none_or, Names.getElem?_insert]
        by_cases hk : name x = k
        · have huniq : ∀ z, Comes x (.ok z) → z = y := fun z hz => Except.ok.inj (hx.unique hz hy)
          simp only [hk, if_true, forall_const, reduceCtorEq,
            false_implies, implies_true, and_true, true_and, Option.some.injEq, forall_eq']
          exact ⟨fun hb => ⟨y, hb, hy⟩, fun ⟨z, hb, hz⟩ => huniq z hz ▸ hb⟩
        · simp [hk]
    constructor
    · rintro ⟨-, ⟨y, hy, rfl⟩, hfold⟩
      obtain ⟨hall, hlast⟩ := (ih hxs).1 hfold
      exact ⟨⟨⟨y, hy⟩, hall⟩, fun k => (hstep y k hy).1 (hlast k)⟩
    · rintro ⟨⟨⟨y, hy⟩, hall⟩, hlast⟩
      exact ⟨_, ⟨y, hy, rfl⟩, (ih hxs).2 ⟨hall, fun k => (hstep y k hy).2 (hlast k)⟩⟩

/-- What does not come to an error comes to something. -/
theorem Puts.exists_ok_iff {x : α} (h : Puts name f Comes x) :
    (∃ y, Comes x (.ok y)) ↔ ∀ e, ¬ Comes x (.error e) := by
  obtain ⟨o, ho, -⟩ := h
  simp only [ho]
  cases o with
  | error e =>
    constructor
    · rintro ⟨y, ⟨⟩⟩
    · intro he
      exact absurd rfl (he e)
  | ok y =>
    refine ⟨fun _ e he => ?_, fun _ => ⟨y, rfl⟩⟩
    cases he

theorem exists_foldlM_of_puts (h : ∀ x ∈ xs, Puts name f Comes x)
    (hall : ∀ x ∈ xs, ∃ y, Comes x (.ok y)) (b : ByField ρ) :
    ∃ b', (xs.foldlM f b).run = .ok b' :=
  exists_foldlM_of_ne_error (fun x hx _ e he =>
    (h x hx).exists_ok_iff.1 (hall x hx) e ((h x hx).run_eq_error_iff.1 he)) b

/-- It fails with the error that the first element comes to that comes to one. -/
theorem foldlM_eq_error_iff_of_puts (h : ∀ x ∈ xs, Puts name f Comes x) {b : ByField ρ} {e : ε} :
    (xs.foldlM f b).run = .error e ↔ ∃ before x after, xs = before ++ x :: after ∧
      (∀ y ∈ before, ∃ z, Comes y (.ok z)) ∧ Comes x (.error e) := by
  rw [foldlM_eq_error_iff_of_steps fun x hx _ _ => (h x hx).run_eq_error_iff]
  refine exists_congr fun before => exists_congr fun x => exists_congr fun after =>
    and_congr_right fun hxs => and_comm.trans (and_congr_left' ?_)
  refine forall_congr' fun y => forall_congr' fun hy => ?_
  exact ((h y (hxs ▸ List.mem_append_left _ hy)).exists_ok_iff).symm

end

/-! ## What fields come to -/

/-- A reference is split at its first point, and white space around the parts does not count.
Without a point it names the field that has the name of the referring one. -/
inductive Reference.Splits (reference ownField : String) : Reference → Prop where
  | dotted {source field : List Char} :
      reference.toList = source ++ '.' :: field → '.' ∉ source →
      Splits reference ownField ⟨.ofList (Text.trimChars source), .ofList (Text.trimChars field)⟩
  | bare : '.' ∉ reference.toList → Splits reference ownField ⟨Text.trim reference, ownField⟩

theorem Reference.splits_iff {reference ownField : String} {r : Reference} :
    Splits reference ownField r ↔ r = parse reference ownField := by
  constructor
  · rintro (⟨hd, hs⟩ | hb)
    · rw [← parse_append ownField hs, ← hd, String.ofList_toList]
    · rw [parse_of_not_mem hb]
  · rintro rfl
    cases hc : Text.cut? '.' reference.toList with
    | none =>
      have hb := Text.cut?_eq_none_iff.1 hc
      rw [parse_of_not_mem hb]
      exact .bare hb
    | some parts =>
      obtain ⟨source, field⟩ := parts
      obtain ⟨hd, hs⟩ := Text.cut?_eq_some_iff.1 hc
      rw [parse, hc]
      exact .dotted hd hs

/-- What the reference of a field of a data source comes to: a foreign key, or an error. -/
inductive ForeignKey.Outcome (d : DataSource) (targets : Targets) (f : Field) :
    Except DerivationError ForeignKey → Prop where
  /-- It names a data source that is found, and a field of it. -/
  | found {reference source field : String} {target : DataSource} :
      f.reference? = some reference → Reference.Splits reference f.name ⟨source, field⟩ →
      source ≠ "" → field ≠ "" → targets source = some target →
      field ∈ target.fields.map (·.name) →
      Outcome d targets f (.ok ⟨d.id, f.name, target.id, field⟩)
  /-- It leaves out the data source or the field. -/
  | malformed {reference source field : String} :
      f.reference? = some reference → Reference.Splits reference f.name ⟨source, field⟩ →
      source = "" ∨ field = "" →
      Outcome d targets f (.error (.malformedReference d.id f.name reference))
  /-- The data source is not found. -/
  | unresolved {reference source field : String} :
      f.reference? = some reference → Reference.Splits reference f.name ⟨source, field⟩ →
      source ≠ "" → field ≠ "" → targets source = none →
      Outcome d targets f (.error (.unresolvedTarget d.id f.name source))
  /-- The data source has no such field. -/
  | missingField {reference source field : String} {target : DataSource} :
      f.reference? = some reference → Reference.Splits reference f.name ⟨source, field⟩ →
      source ≠ "" → field ≠ "" → targets source = some target →
      field ∉ target.fields.map (·.name) →
      Outcome d targets f (.error (.missingTargetField d.id f.name source field))

/-- The fields with a reference, in order. -/
def DataSource.referring (d : DataSource) : List Field :=
  d.fields.filter fun f => f.reference?.isSome

/-- The fields with an import, in order. -/
def DataSource.importing (d : DataSource) : List Field :=
  d.fields.filter fun f => f.imported.isSome

/-- What the import of a field of a data source comes to. It goes through the foreign key that the
last field with a reference comes to among those of the name it gives. -/
inductive ImportFrom.Outcome (d : DataSource) (targets : Targets) (f : Field) :
    Except DerivationError ImportFrom → Prop where
  /-- The foreign key leads to a data source that is found and has the field to be shown. -/
  | found {i : Import} {g : Field} {key : ForeignKey} {related : DataSource} :
      f.imported = some i → lastBy (·.name) i.via d.referring = some g →
      ForeignKey.Outcome d targets g (.ok key) → targets key.targetDataSource = some related →
      i.displayField ∈ related.fields.map (·.name) →
      Outcome d targets f (.ok ⟨d.id, f.name, i.via, related.id, i.displayField, i.summary⟩)
  /-- No field of the name has a reference. -/
  | missingKey {i : Import} :
      f.imported = some i → lastBy (·.name) i.via d.referring = none →
      Outcome d targets f (.error (.missingForeignKey d.id f.name i.via))
  /-- The data source that the foreign key leads to is not found. -/
  | unresolved {i : Import} {g : Field} {key : ForeignKey} :
      f.imported = some i → lastBy (·.name) i.via d.referring = some g →
      ForeignKey.Outcome d targets g (.ok key) → targets key.targetDataSource = none →
      Outcome d targets f (.error (.unresolvedTarget d.id f.name key.targetDataSource))
  /-- It does not have the field to be shown. -/
  | missingField {i : Import} {g : Field} {key : ForeignKey} {related : DataSource} :
      f.imported = some i → lastBy (·.name) i.via d.referring = some g →
      ForeignKey.Outcome d targets g (.ok key) → targets key.targetDataSource = some related →
      i.displayField ∉ related.fields.map (·.name) →
      Outcome d targets f (.error (.missingTargetField d.id f.name related.id i.displayField))

/-- Under every name stands what the last field of the name comes to. -/
def IsLastOf {ρ : Type} (Outcome : Field → Except DerivationError ρ → Prop) (fields : List Field)
    (relations : ByField ρ) : Prop :=
  ∀ name, (lastBy (·.name) name fields = none → relations[name]? = none) ∧
    ∀ f, lastBy (·.name) name fields = some f →
      ∃ relation, relations[name]? = some relation ∧ Outcome f (.ok relation)

/-- The first field that comes to an error comes to this one. -/
def FailsFirst {ρ : Type} (Outcome : Field → Except DerivationError ρ → Prop) (fields : List Field)
    (e : DerivationError) : Prop :=
  ∃ before f after, fields = before ++ f :: after ∧
    (∀ g ∈ before, ∃ relation, Outcome g (.ok relation)) ∧ Outcome f (.error e)

section

variable {d : DataSource} {targets : Targets} {f : Field}

@[simp] theorem DataSource.mem_names_iff {name : String} :
    name ∈ d.fields.map (·.name) ↔ ∃ f, d.field? name = some f := by
  rw [← isSome_field?_iff, Option.isSome_iff_exists]

theorem DataSource.field?_eq_none {name : String} (h : name ∉ d.fields.map (·.name)) :
    d.field? name = none :=
  Option.eq_none_iff_forall_ne_some.2 fun f hf => h (mem_names_iff.2 ⟨f, hf⟩)

@[simp] theorem mem_referring_iff : f ∈ d.referring ↔ f ∈ d.fields ∧ ∃ reference,
    f.reference? = some reference := by
  rw [DataSource.referring, List.mem_filter, Option.isSome_iff_exists]

@[simp] theorem mem_importing_iff : f ∈ d.importing ↔ f ∈ d.fields ∧ ∃ i, f.imported = some i := by
  rw [DataSource.importing, List.mem_filter, Option.isSome_iff_exists]

namespace ForeignKey

theorem exists_outcome {reference : String} (hr : f.reference? = some reference) :
    ∃ o, Outcome d targets f o := by
  obtain ⟨⟨source, field⟩, hs⟩ : ∃ r, Reference.Splits reference f.name r :=
    ⟨_, Reference.splits_iff.2 rfl⟩
  by_cases hsource : source = ""
  · exact ⟨_, .malformed hr hs (.inl hsource)⟩
  by_cases hfield : field = ""
  · exact ⟨_, .malformed hr hs (.inr hfield)⟩
  cases ht : targets source with
  | none => exact ⟨_, .unresolved hr hs hsource hfield ht⟩
  | some target =>
    by_cases hm : field ∈ target.fields.map (·.name)
    · exact ⟨_, .found hr hs hsource hfield ht hm⟩
    · exact ⟨_, .missingField hr hs hsource hfield ht hm⟩

theorem eq_build_of_outcome {reference : String} (hr : f.reference? = some reference)
    {o : Except DerivationError ForeignKey} (h : Outcome d targets f o) :
    o = build d f reference targets := by
  unfold build
  cases h with
  | found hr' hs hsource hfield ht hm =>
    cases hr.symm.trans hr'
    obtain ⟨g, hg⟩ := DataSource.mem_names_iff.1 hm
    simp [← Reference.splits_iff.1 hs, Reference.isComplete, hsource, hfield, ht, hg]
  | malformed hr' hs hblank =>
    cases hr.symm.trans hr'
    rcases hblank with rfl | rfl <;> simp [← Reference.splits_iff.1 hs, Reference.isComplete]
  | unresolved hr' hs hsource hfield ht =>
    cases hr.symm.trans hr'
    simp [← Reference.splits_iff.1 hs, Reference.isComplete, hsource, hfield, ht]
  | missingField hr' hs hsource hfield ht hm =>
    cases hr.symm.trans hr'
    simp [← Reference.splits_iff.1 hs, Reference.isComplete, hsource, hfield, ht,
      DataSource.field?_eq_none hm]

/-- The rule for a field with a reference makes what the reference comes to. -/
theorem outcome_iff {reference : String} (hr : f.reference? = some reference)
    {o : Except DerivationError ForeignKey} :
    Outcome d targets f o ↔ o = build d f reference targets := by
  refine ⟨eq_build_of_outcome hr, fun h => ?_⟩
  obtain ⟨o', ho'⟩ : ∃ o', Outcome d targets f o' := exists_outcome hr
  rwa [h, ← eq_build_of_outcome hr ho']

theorem run_deriveKey {reference : String} (hr : f.reference? = some reference)
    (keys : ByField ForeignKey) :
    (Relations.deriveKey (m := Id) .standard d targets keys f).run =
      (build d f reference targets).map (keys.insert f.name) := by
  unfold Relations.deriveKey
  rw [hr]
  show (((build d f reference targets : ExceptT DerivationError Id ForeignKey) >>= fun key =>
    pure (keys.insert f.name key)) : ExceptT DerivationError Id (ByField ForeignKey)).run = _
  rw [ExceptT.run_bind]
  cases build d f reference targets <;> rfl

theorem puts {f : Field} (hf : f ∈ d.referring) :
    Puts (·.name) (Relations.deriveKey (m := Id) .standard d targets) (Outcome d targets) f := by
  obtain ⟨-, reference, hr⟩ := mem_referring_iff.1 hf
  exact ⟨build d f reference targets, fun o => outcome_iff hr, run_deriveKey hr⟩

end ForeignKey

namespace ImportFrom

variable {i : Import} {keys : ByField ForeignKey}
  (hkeys : IsLastOf (ForeignKey.Outcome d targets) d.referring keys)
include hkeys

theorem exists_outcome (hi : f.imported = some i) : ∃ o, Outcome d targets f o := by
  cases hl : lastBy (·.name) i.via d.referring with
  | none => exact ⟨_, .missingKey hi hl⟩
  | some g =>
    obtain ⟨key, -, hg⟩ := (hkeys i.via).2 g hl
    cases ht : targets key.targetDataSource with
    | none => exact ⟨_, .unresolved hi hl hg ht⟩
    | some related =>
      by_cases hm : i.displayField ∈ related.fields.map (·.name)
      · exact ⟨_, .found hi hl hg ht hm⟩
      · exact ⟨_, .missingField hi hl hg ht hm⟩

theorem get?_via {g : Field} (hl : lastBy (·.name) i.via d.referring = some g) {key : ForeignKey}
    (hg : ForeignKey.Outcome d targets g (.ok key)) : keys[i.via]? = some key := by
  obtain ⟨key', hk, hg'⟩ := (hkeys i.via).2 g hl
  obtain ⟨-, before, after, hd, -⟩ := lastBy_eq_some_iff.1 hl
  have hm : g ∈ d.referring := hd ▸ List.mem_append_cons_self
  cases (ForeignKey.puts hm).unique hg hg'
  exact hk

theorem eq_build_of_outcome (hi : f.imported = some i) {o : Except DerivationError ImportFrom}
    (h : Outcome d targets f o) : o = build d f i keys targets := by
  unfold build
  cases h with
  | found hi' hl hg ht hm =>
    cases hi.symm.trans hi'
    obtain ⟨x, hx⟩ := DataSource.mem_names_iff.1 hm
    simp only [get?_via hkeys hl hg, ht, hx]
  | missingKey hi' hl =>
    cases hi.symm.trans hi'
    simp only [(hkeys i.via).1 hl]
  | unresolved hi' hl hg ht =>
    cases hi.symm.trans hi'
    simp only [get?_via hkeys hl hg, ht]
  | missingField hi' hl hg ht hm =>
    cases hi.symm.trans hi'
    simp only [get?_via hkeys hl hg, ht, DataSource.field?_eq_none hm]

/-- Where the foreign keys are those that the references come to, the rule for a field that has
an import makes what the import comes to. -/
theorem outcome_iff (hi : f.imported = some i) {o : Except DerivationError ImportFrom} :
    Outcome d targets f o ↔ o = build d f i keys targets := by
  refine ⟨eq_build_of_outcome hkeys hi, fun h => ?_⟩
  obtain ⟨o', ho'⟩ := exists_outcome hkeys hi
  rwa [h, ← eq_build_of_outcome hkeys hi ho']

theorem puts (hf : f ∈ d.importing) :
    Puts (·.name) (Relations.deriveImport (m := Id) .standard d targets keys) (Outcome d targets)
      f := by
  obtain ⟨-, i, hi⟩ := mem_importing_iff.1 hf
  refine ⟨build d f i keys targets, fun o => outcome_iff hkeys hi, fun imports => ?_⟩
  unfold Relations.deriveImport
  rw [hi]
  show (((build d f i keys targets : ExceptT DerivationError Id ImportFrom) >>= fun x =>
    pure (imports.insert f.name x)) : ExceptT DerivationError Id (ByField ImportFrom)).run = _
  rw [ExceptT.run_bind]
  cases build d f i keys targets <;> rfl

end ImportFrom

end

/-! ## Derivations -/

namespace Relations

/-- Fields without a reference are passed over. -/
theorem foldlM_deriveKey (d : DataSource) (targets : Targets) (keys : ByField ForeignKey) :
    d.fields.foldlM (deriveKey (m := Id) .standard d targets) keys =
      d.referring.foldlM (deriveKey (m := Id) .standard d targets) keys := by
  rw [DataSource.referring, List.foldlM_filter]
  refine foldlM_congr (fun f _ keys => ?_) keys
  cases hr : f.reference? with
  | none => exact deriveKey_of_reference?_eq_none .standard d targets keys hr
  | some reference => rfl

/-- Fields without an import are passed over. -/
theorem foldlM_deriveImport (d : DataSource) (targets : Targets) (keys : ByField ForeignKey)
    (imports : ByField ImportFrom) :
    d.fields.foldlM (deriveImport (m := Id) .standard d targets keys) imports =
      d.importing.foldlM (deriveImport (m := Id) .standard d targets keys) imports := by
  rw [DataSource.importing, List.foldlM_filter]
  refine foldlM_congr (fun f _ imports => ?_) imports
  cases hi : f.imported with
  | none => rw [deriveImport, hi]; rfl
  | some i => rfl

section

variable {d : DataSource} {targets : Targets}

/-- The foreign keys are derived when every reference comes to one. -/
theorem deriveKeys_eq_ok_iff {keys : ByField ForeignKey} :
    (d.fields.foldlM (deriveKey (m := Id) .standard d targets) ∅).run = .ok keys ↔
      (∀ f ∈ d.referring, ∃ key, ForeignKey.Outcome d targets f (.ok key)) ∧
        IsLastOf (ForeignKey.Outcome d targets) d.referring keys := by
  rw [foldlM_deriveKey, foldlM_eq_ok_iff_of_puts fun f => ForeignKey.puts]
  simp only [IsLastOf, Std.ExtTreeMap.getElem?_empty]

/-- After them the imports are, when every one comes to something. -/
theorem deriveImports_eq_ok_iff {keys : ByField ForeignKey}
    (hkeys : IsLastOf (ForeignKey.Outcome d targets) d.referring keys)
    {imports : ByField ImportFrom} :
    (d.fields.foldlM (deriveImport (m := Id) .standard d targets keys) ∅).run = .ok imports ↔
      (∀ f ∈ d.importing, ∃ i, ImportFrom.Outcome d targets f (.ok i)) ∧
        IsLastOf (ImportFrom.Outcome d targets) d.importing imports := by
  rw [foldlM_deriveImport, foldlM_eq_ok_iff_of_puts fun f => ImportFrom.puts hkeys]
  simp only [IsLastOf, Std.ExtTreeMap.getElem?_empty]

theorem derive_eq_ok_iff_outcomes {derived : Relations} :
    (derive (m := Id) .standard d targets).run = .ok derived ↔
      ((∀ f ∈ d.referring, ∃ key, ForeignKey.Outcome d targets f (.ok key)) ∧
        ∀ f ∈ d.importing, ∃ i, ImportFrom.Outcome d targets f (.ok i)) ∧
      IsLastOf (ForeignKey.Outcome d targets) d.referring derived.foreignKeys ∧
      IsLastOf (ImportFrom.Outcome d targets) d.importing derived.imports := by
  rw [derive_eq_ok_iff, deriveKeys_eq_ok_iff, and_and_and_comm]
  exact and_congr_right fun hk => deriveImports_eq_ok_iff hk.2

theorem exists_deriveKeys
    (hall : ∀ f ∈ d.referring, ∃ key, ForeignKey.Outcome d targets f (.ok key)) :
    ∃ keys, (d.fields.foldlM (deriveKey (m := Id) .standard d targets) ∅).run = .ok keys := by
  rw [foldlM_deriveKey]
  exact exists_foldlM_of_puts (fun f => ForeignKey.puts) hall ∅

theorem exists_derive_iff :
    (∃ derived, (derive (m := Id) .standard d targets).run = .ok derived) ↔
      (∀ f ∈ d.referring, ∃ key, ForeignKey.Outcome d targets f (.ok key)) ∧
        ∀ f ∈ d.importing, ∃ i, ImportFrom.Outcome d targets f (.ok i) := by
  simp only [derive_eq_ok_iff_outcomes]
  constructor
  · rintro ⟨derived, hall, -⟩
    exact hall
  · rintro ⟨hall, himports⟩
    obtain ⟨keys, hk⟩ := exists_deriveKeys hall
    have hkeys := (deriveKeys_eq_ok_iff.1 hk).2
    obtain ⟨imports, hi⟩ := exists_foldlM_of_puts (fun f => ImportFrom.puts hkeys) himports ∅
    rw [← foldlM_deriveImport] at hi
    exact ⟨⟨keys, imports⟩, ⟨hall, himports⟩, hkeys, ((deriveImports_eq_ok_iff hkeys).1 hi).2⟩

theorem derive_eq_error_iff {e : DerivationError} :
    (derive (m := Id) .standard d targets).run = .error e ↔
      FailsFirst (ForeignKey.Outcome d targets) d.referring e ∨
      (∀ f ∈ d.referring, ∃ key, ForeignKey.Outcome d targets f (.ok key)) ∧
        FailsFirst (ImportFrom.Outcome d targets) d.importing e := by
  unfold derive
  rw [run_bind_eq_error_iff, foldlM_deriveKey, foldlM_eq_error_iff_of_puts fun f => ForeignKey.puts]
  refine or_congr_right ⟨?_, ?_⟩
  · rintro ⟨keys, hk, hi⟩
    rw [← foldlM_deriveKey] at hk
    obtain ⟨hall, hkeys⟩ := deriveKeys_eq_ok_iff.1 hk
    rw [run_bind_eq_error_iff, foldlM_deriveImport,
      foldlM_eq_error_iff_of_puts fun f => ImportFrom.puts hkeys] at hi
    rcases hi with hi | ⟨imports, -, he⟩
    · exact ⟨hall, hi⟩
    · cases he
  · rintro ⟨hall, hi⟩
    obtain ⟨keys, hk⟩ := exists_deriveKeys hall
    have hkeys := (deriveKeys_eq_ok_iff.1 hk).2
    rw [foldlM_deriveKey] at hk
    refine ⟨keys, hk, run_bind_eq_error_iff.2 (.inl ?_)⟩
    rw [foldlM_deriveImport]
    exact (foldlM_eq_error_iff_of_puts fun f => ImportFrom.puts hkeys).2 hi

end

/-- A derivation succeeds exactly when every reference leads to a field of a data source that is
found, and every import goes through a foreign key to a field that is there. The relations are then
those that the last field of each name comes to. It fails with the error of the first reference that
fails, or, where none does, of the first import that fails. -/
theorem derive_characterized (d : DataSource) (targets : Targets) :
    ((∃ derived, (derive (m := Id) .standard d targets).run = .ok derived) ↔
      (∀ f ∈ d.referring, ∃ key, ForeignKey.Outcome d targets f (.ok key)) ∧
        ∀ f ∈ d.importing, ∃ i, ImportFrom.Outcome d targets f (.ok i)) ∧
    (∀ derived, (derive (m := Id) .standard d targets).run = .ok derived ↔
      ((∀ f ∈ d.referring, ∃ key, ForeignKey.Outcome d targets f (.ok key)) ∧
        ∀ f ∈ d.importing, ∃ i, ImportFrom.Outcome d targets f (.ok i)) ∧
      IsLastOf (ForeignKey.Outcome d targets) d.referring derived.foreignKeys ∧
      IsLastOf (ImportFrom.Outcome d targets) d.importing derived.imports) ∧
    ∀ e, (derive (m := Id) .standard d targets).run = .error e ↔
      FailsFirst (ForeignKey.Outcome d targets) d.referring e ∨
      (∀ f ∈ d.referring, ∃ key, ForeignKey.Outcome d targets f (.ok key)) ∧
        FailsFirst (ImportFrom.Outcome d targets) d.importing e :=
  ⟨exists_derive_iff, fun _ => derive_eq_ok_iff_outcomes, fun _ => derive_eq_error_iff⟩

/-- A bad reference counts before a bad import of a field in front of it. -/
example : (derive (m := Id) .standard
    ⟨"orders", [⟨"name", none, some ⟨"customer", "name", none⟩⟩,
      ⟨"customer", some " customers . id ", none⟩], []⟩ fun _ => none).run =
    .error (.unresolvedTarget "orders" "customer" "customers") := rfl

end Relations

end Switchboard
