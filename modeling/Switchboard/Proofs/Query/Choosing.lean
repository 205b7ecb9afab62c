import Switchboard.Query.Binding

/-!
# The choice of a binding

Of the bindings of a data source at most one is in effect for a request. Which one is told here by
where it stands among the others: first of those for the operation id of the request, or, if there
are none of those, first of those for its operation and no id. Bindings that are passed over may as
well not be there.

* `IsForId`, `IsForOperation`: what makes a binding eligible.
* `IsChosen`: where the binding in effect stands.
* `select_remove`: a binding that is not chosen can be taken out.
* `DataSource.bindingFor?_characterized`: the binding in effect, and what does not change it.
-/

namespace Switchboard

namespace OperationBinding

/-- A binding for the operation and the operation id of a request, which is not blank. -/
def IsForId (r : Request) (b : OperationBinding) : Prop :=
  b.operation = some r.operation ∧
    ∃ id, b.operationId = some id ∧ Text.isBlank (some id) = false ∧ r.operationId = some id

/-- A binding for the operation of a request, whose own operation id is absent or blank. -/
def IsForOperation (r : Request) (b : OperationBinding) : Prop :=
  b.operation = some r.operation ∧ Text.isBlank b.operationId = true

/-- The binding that stands behind some bindings and before others is the one in effect. -/
inductive IsChosen (r : Request) (before : List OperationBinding) (b : OperationBinding)
    (after : List OperationBinding) : Prop where
  /-- It is the first for the operation id. -/
  | forId : b.IsForId r → (∀ c ∈ before, ¬ c.IsForId r) → IsChosen r before b after
  /-- None is for the operation id, and it is the first for the operation. -/
  | forOperation : (∀ c ∈ before ++ after, ¬ c.IsForId r) → b.IsForOperation r →
    (∀ c ∈ before, ¬ c.IsForOperation r) → IsChosen r before b after

/-- A binding that a request passes over: for no operation or another one, or for an operation id
that is not the one of the request. -/
def IsForeign (r : Request) (b : OperationBinding) : Prop :=
  b.operation ≠ some r.operation ∨
    ∃ id, b.operationId = some id ∧ Text.isBlank (some id) = false ∧ r.operationId ≠ some id

variable {r : Request} {b : OperationBinding} {before after : List OperationBinding}

theorem isSpecific_iff : b.isSpecific r = true ↔ b.IsForId r := by
  rw [isSpecific, isCandidate, IsForId, Bool.and_eq_true, Bool.and_eq_true, decide_eq_true_iff,
    decide_eq_true_iff, Option.isSome_iff_exists, and_assoc]
  refine and_congr_right fun _ => ?_
  constructor
  · rintro ⟨⟨id, hid⟩, heq⟩
    obtain ⟨hb, hn⟩ := Text.nonBlank?_eq_some_iff.1 hid
    exact ⟨id, hb, hn, (Text.nonBlank?_eq_some_iff.1 (heq ▸ hid)).1⟩
  · rintro ⟨id, hb, hn, hr⟩
    have hid := Text.nonBlank?_eq_some_iff.2 ⟨hb, hn⟩
    exact ⟨⟨id, hid⟩, hid.trans (Text.nonBlank?_eq_some_iff.2 ⟨hr, hn⟩).symm⟩

theorem isGeneral_iff : b.isGeneral r = true ↔ b.IsForOperation r := by
  rw [isGeneral, isCandidate, IsForOperation, Bool.and_eq_true, decide_eq_true_iff]

theorem IsForOperation.not_isForId (h : b.IsForOperation r) : ¬ b.IsForId r := by
  rintro ⟨-, id, hid, hn, -⟩
  rw [← hid, h.2] at hn
  cases hn

theorem IsForeign.not_eligible (h : b.IsForeign r) : ¬ b.IsForId r ∧ ¬ b.IsForOperation r := by
  rcases h with h | ⟨id, hid, hn, hr⟩
  · exact ⟨fun hb => h hb.1, fun hb => h hb.1⟩
  · refine ⟨?_, fun hb => ?_⟩
    · rintro ⟨-, id', hid', -, hr'⟩
      cases hid.symm.trans hid'
      exact hr hr'
    · rw [← hid, hb.2] at hn
      cases hn

/-! ## First bindings of a kind -/

/-- The first element of a kind stays, if one is taken out that is not of the kind or not the first.
-/
theorem find?_remove {α : Type} {p : α → Bool} {before : List α} {x : α}
    (h : p x = true → ¬ ∀ y ∈ before, ¬ p y = true) (after : List α) :
    (before ++ after).find? p = (before ++ x :: after).find? p := by
  rw [List.find?_append, List.find?_append, List.find?_cons]
  cases hx : p x with
  | false => rfl
  | true =>
    cases hb : before.find? p with
    | none => exact absurd (List.find?_eq_none.1 hb) (h hx)
    | some y => rw [Option.some_or, Option.some_or]

theorem select_none_eq (r : Request) (bs : List OperationBinding) :
    select r none bs = (bs.find? (·.isSpecific r)).or (bs.find? (·.isGeneral r)) := by
  rw [select_eq, Option.none_or]

/-- A binding that is not chosen can be taken out. -/
theorem select_remove (h : ¬ IsChosen r before b after) :
    select r none (before ++ after) = select r none (before ++ b :: after) := by
  have specific : (before ++ after).find? (·.isSpecific r) =
      (before ++ b :: after).find? (·.isSpecific r) := by
    refine find?_remove (fun hb hn => h (.forId (isSpecific_iff.1 hb) fun c hc hs => ?_)) after
    exact hn c hc (isSpecific_iff.2 hs)
  rw [select_none_eq, select_none_eq, ← specific]
  cases hs : (before ++ after).find? (·.isSpecific r) with
  | some c => rfl
  | none =>
    -- Only where none is for the operation id does the first for the operation count.
    have none_forId : ∀ c ∈ before ++ after, ¬ c.IsForId r := fun c hc hf =>
      List.find?_eq_none.1 hs c hc (isSpecific_iff.2 hf)
    refine find?_remove (fun hb hn => h (.forOperation none_forId (isGeneral_iff.1 hb) ?_)) after
    exact fun c hc hg => hn c hc (isGeneral_iff.2 hg)

theorem not_isChosen_of_isForeign (h : b.IsForeign r) : ¬ IsChosen r before b after := by
  rintro (⟨hb, -⟩ | ⟨-, hb, -⟩)
  · exact h.not_eligible.1 hb
  · exact h.not_eligible.2 hb

/-- Where the selected binding stands. -/
theorem select_eq_some_iff {bs : List OperationBinding} :
    select r none bs = some b ↔
      ∃ before after, bs = before ++ b :: after ∧ IsChosen r before b after := by
  rw [select_none_eq, Option.or_eq_some_iff, List.find?_eq_none]
  simp only [List.find?_eq_some_iff_append, isSpecific_iff, isGeneral_iff, Bool.not_eq_true',
    Bool.eq_false_iff, ne_eq]
  constructor
  · rintro (⟨hb, before, after, rfl, hn⟩ | ⟨hs, hb, before, after, rfl, hn⟩)
    · exact ⟨before, after, rfl, .forId hb hn⟩
    · refine ⟨before, after, rfl, .forOperation (fun c hc => hs c ?_) hb hn⟩
      exact List.mem_append.2 ((List.mem_append.1 hc).imp_right (List.mem_cons_of_mem b))
  · rintro ⟨before, after, rfl, ⟨hb, hn⟩ | ⟨hs, hb, hn⟩⟩
    · exact .inl ⟨hb, before, after, rfl, hn⟩
    · refine .inr ⟨fun c hc => ?_, hb, before, after, rfl, hn⟩
      obtain ⟨hbefore, hafter⟩ := List.forall_mem_append.1 hs
      rcases List.mem_append.1 hc with hc | hc
      · exact hbefore c hc
      · rcases List.mem_cons.1 hc with rfl | hc
        · exact hb.not_isForId
        · exact hafter c hc

theorem select_eq_none_iff {bs : List OperationBinding} :
    select r none bs = none ↔ ∀ b ∈ bs, ¬ b.IsForId r ∧ ¬ b.IsForOperation r := by
  rw [select_none_eq, Option.or_eq_none_iff, List.find?_eq_none, List.find?_eq_none]
  simp only [isSpecific_iff, isGeneral_iff]
  exact ⟨fun h b hb => ⟨h.1 b hb, h.2 b hb⟩,
    fun h => ⟨fun b hb => (h b hb).1, fun b hb => (h b hb).2⟩⟩

end OperationBinding

namespace DataSource

open OperationBinding (IsChosen IsForId IsForOperation IsForeign)

/-- The binding in effect is the first for the operation id of the request, or, where there is none,
the first for its operation; without either there is none. So it stays when any other binding is
taken out, and when a binding is put in anywhere that is for no operation or another one, or for an
operation id that is not the one of the request. -/
theorem bindingFor?_characterized (d : DataSource) (r : Request) :
    (∀ b, d.bindingFor? r = some b ↔
      ∃ before after, d.bindings = before ++ b :: after ∧ IsChosen r before b after) ∧
    (d.bindingFor? r = none ↔ ∀ b ∈ d.bindings, ¬ b.IsForId r ∧ ¬ b.IsForOperation r) ∧
    (∀ before b after, d.bindings = before ++ b :: after → ¬ IsChosen r before b after →
      { d with bindings := before ++ after }.bindingFor? r = d.bindingFor? r) ∧
    ∀ before b after, d.bindings = before ++ after → b.IsForeign r →
      { d with bindings := before ++ b :: after }.bindingFor? r = d.bindingFor? r := by
  refine ⟨fun b => OperationBinding.select_eq_some_iff, OperationBinding.select_eq_none_iff,
    fun before b after hd hb => ?_, fun before b after hd hb => ?_⟩
  · rw [bindingFor?, bindingFor?, hd]
    exact OperationBinding.select_remove hb
  · rw [bindingFor?, bindingFor?, hd]
    exact (OperationBinding.select_remove (OperationBinding.not_isChosen_of_isForeign hb)).symm

end DataSource

end Switchboard
