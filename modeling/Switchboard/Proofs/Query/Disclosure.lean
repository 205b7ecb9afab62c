import Switchboard.Proofs.Criteria.Values
import Switchboard.Proofs.Query.Choosing
import Switchboard.Proofs.Query.Planning

/-!
# What a request tells a plan

A plan learns of a request which operation it asks for, under which operation id, and, if there is
something to fetch, with which filter. Two requests that tell the same are planned the same, by
every data source, defaults and evaluator. They are the only ones: a data source with a single
binding tells operations and ids apart, and an evaluator that knows one context tells filters apart.

* `Request.TellsSame`: two requests tell the same.
* `plan_of_tellsSame`: they are planned the same, in any monad.
* `isProbed_iff`: the plans of one binding tell what the binding is for.
* `exposeCriteria_inj`, `context_eq`: a context tells the filter of a request to fetch.
* `plan_eq_iff_tellsSame`: requests are planned the same exactly when they tell the same.
-/

namespace Switchboard

/-- Two requests tell the same: they ask for the same operation, under the same operation id or both
under none, and, where there is something to fetch, with the same filter. -/
structure Request.TellsSame (r s : Request) : Prop where
  operation : r.operation = s.operation
  operationId : r.operationId = s.operationId ∨
    Text.isBlank r.operationId = true ∧ Text.isBlank s.operationId = true
  criteria : r.operation = .fetch → r.criteria = s.criteria

namespace Query

variable {r s : Request}

/-! ## Requests that tell the same -/

theorem isSpecific_of_tellsSame (h : r.TellsSame s) (b : OperationBinding) :
    b.isSpecific r = b.isSpecific s := by
  rw [OperationBinding.isSpecific, OperationBinding.isSpecific, OperationBinding.isCandidate,
    OperationBinding.isCandidate, h.operation, Text.nonBlank?_eq_iff.2 h.operationId]

theorem isGeneral_of_tellsSame (h : r.TellsSame s) (b : OperationBinding) :
    b.isGeneral r = b.isGeneral s := by
  rw [OperationBinding.isGeneral, OperationBinding.isGeneral, OperationBinding.isCandidate,
    OperationBinding.isCandidate, h.operation]

theorem bindingFor?_of_tellsSame (h : r.TellsSame s) (source : DataSource) :
    source.bindingFor? r = source.bindingFor? s := by
  simp only [DataSource.bindingFor?, OperationBinding.select_none_eq, isSpecific_of_tellsSame h,
    isGeneral_of_tellsSame h]

theorem context_of_tellsSame (h : r.TellsSame s) (d : Defaults) : context r d = context s d := by
  by_cases hf : r.operation = .fetch
  · have hs : s.operation = .fetch := h.operation ▸ hf
    simp only [context, Request.isFetch, hf, hs, h.criteria hf]
  · have hs : s.operation ≠ .fetch := h.operation ▸ hf
    simp [context, Request.isFetch, hf, hs]

theorem plan_of_tellsSame (h : r.TellsSame s) {m : Type → Type} [Monad m] (source : DataSource)
    (d : Defaults) (evaluate : String → Record → m String) :
    plan source r d evaluate = plan source s d evaluate := by
  rw [plan, plan, bindingFor?_of_tellsSame h, context_of_tellsSame h]

/-! ## Operations and ids told apart -/

section

variable (operation : Operation) (id : Option String)

/-- A binding for an operation, and perhaps for an operation id, that has a statement only. -/
def probing : OperationBinding :=
  { OperationBinding.ofOperation operation with operationId := id, statement := some "statement" }

/-- A data source with that binding alone. -/
def probe : DataSource := ⟨"", [], [probing operation id]⟩

/-- The binding is for a request. -/
def IsProbed (r : Request) : Prop :=
  (probing operation id).IsForId r ∨ (probing operation id).IsForOperation r

variable {operation id} {d : Defaults} {evaluate : Evaluator}

theorem bindingFor?_probe_of_isProbed (h : IsProbed operation id r) :
    (probe operation id).bindingFor? r = some (probing operation id) := by
  refine OperationBinding.select_eq_some_iff.2 ⟨[], [], rfl, ?_⟩
  rcases h with h | h
  · exact .forId h (List.forall_mem_nil _)
  · exact .forOperation (List.forall_mem_nil _) h (List.forall_mem_nil _)

theorem bindingFor?_probe_of_not_isProbed (h : ¬ IsProbed operation id r) :
    (probe operation id).bindingFor? r = none := by
  refine OperationBinding.select_eq_none_iff.2 fun b hb => ?_
  obtain rfl := List.mem_singleton.1 hb
  exact not_or.1 h

theorem plan_probe_of_isProbed (h : IsProbed operation id r) :
    plan (probe operation id) r d evaluate = (evaluate "statement" (context r d)).map
      fun t => { d.plan with statement := some t, templated := true } := by
  have he : plan (probe operation id) r d evaluate =
      applyBinding evaluate (context r d) d (probing operation id) := by
    rw [plan, bindingFor?_probe_of_isProbed h]
    rfl
  rw [he]
  have hs : Text.nonBlank? (probing operation id).statement = some "statement" :=
    Text.nonBlank?_eq_some_iff.2 ⟨rfl, by decide +kernel⟩
  have hr : (probing operation id).changesRows = false := rfl
  simp only [applyBinding, render, hs, hr]
  cases evaluate "statement" (context r d) <;> rfl

theorem plan_probe_of_not_isProbed (h : ¬ IsProbed operation id r) :
    plan (probe operation id) r d evaluate = .ok d.plan := by
  rw [plan, bindingFor?_probe_of_not_isProbed h]
  rfl

theorem isProbed_none_iff : IsProbed operation none r ↔ r.operation = operation := by
  constructor
  · rintro (h | h) <;> exact (Option.some.inj h.1).symm
  · rintro rfl
    exact .inr ⟨rfl, rfl⟩

theorem isProbed_some_iff {i : String} (hi : Text.isBlank (some i) = false) :
    IsProbed operation (some i) r ↔ r.operation = operation ∧ r.operationId = some i := by
  constructor
  · rintro (⟨ho, j, hj, -, hr⟩ | ⟨-, hb⟩)
    · exact ⟨(Option.some.inj ho).symm, hr.trans hj.symm⟩
    · cases hi.symm.trans hb
  · rintro ⟨rfl, hr⟩
    exact .inl ⟨rfl, i, rfl, hi, hr⟩

end

/-! ## Filters told apart -/

theorem find?_advancedCriteria_exposeCriteria {values : Record}
    (ha : values.find? "advancedCriteria" = none) (x : Option Criteria) :
    (exposeCriteria values x).find? "advancedCriteria" = x.map Criteria.toValue := by
  rcases x with _ | (c | a)
  · exact ha
  · rw [exposeCriteria, Record.find?_insert, if_pos rfl, Option.map_some]
  · rw [exposeCriteria, Record.find?_insert, if_pos rfl, Option.map_some, Criteria.toValue]

/-- Only a flat filter is there under the other name as well. -/
theorem find?_criteria_exposeCriteria {values : Record} (hc : values.find? "criteria" = none)
    (x : Option Criteria) : (exposeCriteria values x).find? "criteria" =
      x.bind fun | .simple a => some (.ofRecord a) | .advanced _ => none := by
  rcases x with _ | (c | a)
  · exact hc
  · rw [exposeCriteria, Record.find?_insert, if_neg (by decide), hc]
    rfl
  · rw [exposeCriteria, Record.find?_insert, if_neg (by decide), Record.find?_insert, if_pos rfl]
    rfl

/-- Filters are told apart by a context that has neither of their names otherwise. -/
theorem exposeCriteria_inj {values : Record} (hc : values.find? "criteria" = none)
    (ha : values.find? "advancedCriteria" = none) {x y : Option Criteria}
    (h : exposeCriteria values x = exposeCriteria values y) : x = y := by
  have flat := congrArg (·.find? "criteria") h
  have tree := congrArg (·.find? "advancedCriteria") h
  simp only [find?_criteria_exposeCriteria hc] at flat
  simp only [find?_advancedCriteria_exposeCriteria ha] at tree
  rcases x with _ | (c | a) <;> rcases y with _ | (d | b)
  case none.none => rfl
  case some.advanced.some.advanced => rw [Criteria.toValue_advanced_inj (Option.some.inj tree)]
  case some.simple.some.simple =>
    rw [Record.ext (Json.object.inj (congrArg Value.json (Option.some.inj flat)))]
  -- Of two kinds, one has something under a name that the other has nothing under.
  all_goals simp at flat tree

theorem criteria_of_context_eq {d : Defaults} (ho : r.operation = .fetch)
    (hs : s.operation = .fetch) (h : context r d = context s d) : r.criteria = s.criteria := by
  simp only [context, Request.isFetch, ho, hs, decide_true, reduceIte] at h
  have empty (key : String) : Record.empty.find? key = none := rfl
  exact exposeCriteria_inj (by simp [empty])
    (by simp [empty]) h

/-! ## Requests that are planned the same -/

section

variable (h : ∀ (source : DataSource) (d : Defaults) (evaluate : Evaluator),
    plan source r d evaluate = plan source s d evaluate)
include h

/-- Plans that are the same do not tell apart what a binding is for. -/
theorem isProbed_iff {operation : Operation} {id : Option String} :
    IsProbed operation id r ↔ IsProbed operation id s := by
  have hp := h (probe operation id) ⟨"", "", "", ""⟩ fun _ _ => .ok ""
  by_cases hr : IsProbed operation id r <;> by_cases hs : IsProbed operation id s
  · exact iff_of_true hr hs
  · rw [plan_probe_of_isProbed hr, plan_probe_of_not_isProbed hs] at hp
    cases hp
  · rw [plan_probe_of_not_isProbed hr, plan_probe_of_isProbed hs] at hp
    cases hp
  · exact iff_of_false hr hs

theorem operation_eq : r.operation = s.operation :=
  (isProbed_none_iff.1 ((isProbed_iff h).1 (isProbed_none_iff.2 rfl))).symm

theorem nonBlank?_operationId_eq :
    Text.nonBlank? r.operationId = Text.nonBlank? s.operationId := by
  refine Option.ext fun i => ?_
  rw [Text.nonBlank?_eq_some_iff, Text.nonBlank?_eq_some_iff]
  refine and_congr_left fun hi => ?_
  have hp : IsProbed r.operation (some i) r ↔ IsProbed r.operation (some i) s := isProbed_iff h
  rwa [isProbed_some_iff hi, isProbed_some_iff hi, and_iff_right rfl,
    and_iff_right (operation_eq h).symm] at hp

/-- An evaluator that knows the context of one request refuses every other. -/
theorem context_eq (d : Defaults) : context r d = context s d := by
  have ho : IsProbed r.operation none r := isProbed_none_iff.2 rfl
  have hp := h (probe r.operation none) d fun _ values =>
    if values = context r d then .ok "" else .error (.refused "")
  rw [plan_probe_of_isProbed ho, plan_probe_of_isProbed ((isProbed_iff h).1 ho), if_pos rfl] at hp
  by_cases he : context s d = context r d
  · exact he.symm
  · rw [if_neg he] at hp
    cases hp

theorem tellsSame_of_plan_eq : r.TellsSame s where
  operation := operation_eq h
  operationId := Text.nonBlank?_eq_iff.1 (nonBlank?_operationId_eq h)
  criteria hf :=
    criteria_of_context_eq hf ((operation_eq h).symm.trans hf) (context_eq h ⟨"", "", "", ""⟩)

end

/-- Requests are planned the same, by every data source and for all defaults and evaluators, exactly
when they tell the same. If they do, no effect of an evaluator tells them apart either. Nothing else
of a request matters to its plan: neither the name of its data source nor its new and old values,
nor, unless there is something to fetch, its filter. -/
theorem plan_eq_iff_tellsSame (r s : Request) :
    (r.TellsSame s ↔ ∀ (source : DataSource) (d : Defaults) (evaluate : Evaluator),
      plan source r d evaluate = plan source s d evaluate) ∧
    (r.TellsSame s → ∀ (m : Type → Type) [Monad m] (source : DataSource) (d : Defaults)
      (evaluate : String → Record → m String),
      plan source r d evaluate = plan source s d evaluate) ∧
    ∀ (name : String) (values : Record) (oldValues : Option Record) (criteria : Option Criteria),
      (r.operation = .fetch → criteria = r.criteria) →
      ∀ (m : Type → Type) [Monad m] (source : DataSource) (d : Defaults)
        (evaluate : String → Record → m String),
        plan source { r with dataSource := name, values, oldValues, criteria } d evaluate =
          plan source r d evaluate := by
  refine ⟨⟨fun h source d evaluate => plan_of_tellsSame h source d evaluate, tellsSame_of_plan_eq⟩,
    fun h m _ source d evaluate => plan_of_tellsSame h source d evaluate, ?_⟩
  intro name values oldValues criteria hc m _ source d evaluate
  have h : Request.TellsSame { r with dataSource := name, values, oldValues, criteria } r :=
    ⟨rfl, .inl rfl, hc⟩
  exact plan_of_tellsSame h source d evaluate

end Query

end Switchboard
