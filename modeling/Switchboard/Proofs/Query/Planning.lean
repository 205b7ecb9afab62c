import Switchboard.Proofs.Folds
import Switchboard.Query.Plan

/-!
# What is asked of an evaluator

A plan puts texts in the place of clauses, one clause after the other, and asks an evaluator for
each. Since plans are made in any monad, an evaluator can be replaced by one that notes what it is
asked: what it is asked, and what becomes of its answers, is told here for every evaluator, be it
one that refuses whatever it pleases.

* `Clause`, `Renders`: the clauses, and which of them have a template that is evaluated.
* `plan_eq_foldlM`: a plan is made clause by clause.
* `noting`, `noted`: an evaluator that notes what it is asked.
* `run_foldlM_noting`: noting changes nothing, and what is noted.
* `plan_eq_ok_iff`, `plan_eq_error_iff`: the plans that are made, and the first template refused.
* `plan_characterized`: plans against any evaluator.
-/

namespace Switchboard.Query

/-! ## Clauses -/

/-- What a binding may have a template for. -/
inductive Clause where
  | statement
  | select
  | table
  | filter
  | order
  | join
deriving DecidableEq, Repr

namespace Clause

/-- The clauses, in the order in which their templates are evaluated. -/
def all : List Clause := [statement, select, table, filter, order, join]

/-- The template that a binding has for a clause. -/
def template (b : OperationBinding) : Clause → Option String
  | statement => b.statement
  | select => b.selectClause
  | table => b.tableClause
  | filter => b.whereClause
  | order => b.orderClause
  | join => b.joinClause

/-- What a clause is by default: there is neither a statement nor a join. -/
def default (d : Defaults) : Clause → Option String
  | select => some d.select
  | table => some d.table
  | filter => some d.filter
  | order => some d.order
  | statement | join => none

/-- What a clause is in a plan. -/
def planned (p : Plan) : Clause → Option String
  | statement => p.statement
  | select => some p.select
  | table => some p.table
  | filter => some p.filter
  | order => some p.order
  | join => p.join

/-- Puts a text, if there is one, in the place of a clause. -/
def put (p : Plan) (text : Option String) : Clause → Plan
  | statement => { p with statement := text.or p.statement }
  | select => { p with select := text.getD p.select }
  | table => { p with table := text.getD p.table }
  | filter => { p with filter := text.getD p.filter }
  | order => { p with order := text.getD p.order }
  | join => { p with join := text.or p.join }

theorem mem_all (c : Clause) : c ∈ all := by
  cases c <;> decide

@[simp] theorem planned_plan (d : Defaults) (c : Clause) : c.planned d.plan = c.default d := by
  cases c <;> rfl

@[simp] theorem templated_put (p : Plan) (text : Option String) (c : Clause) :
    (c.put p text).templated = p.templated := by
  cases c <;> rfl

@[simp] theorem put_none (p : Plan) (c : Clause) : c.put p none = p := by
  cases c <;> rfl

/-- A text stands in the place of its own clause, and of no other. -/
@[simp] theorem planned_put (p : Plan) (text : Option String) (c k : Clause) :
    k.planned (c.put p text) = if k = c then text.or (k.planned p) else k.planned p := by
  cases text with
  | none => rw [put_none, Option.none_or, ite_self]
  | some t => cases c <;> cases k <;> rfl

/-- Plans are the same that have the same clauses. -/
theorem ext_planned {p q : Plan} (h : ∀ c : Clause, c.planned p = c.planned q)
    (ht : p.templated = q.templated) : p = q := by
  obtain ⟨s, t, f, o, j, w, x⟩ := p
  obtain ⟨s', t', f', o', j', w', x'⟩ := q
  cases h .select
  cases h .table
  cases h .filter
  cases h .order
  cases h .join
  cases h .statement
  cases ht
  rfl

end Clause

/-! ## Templates that are evaluated -/

/-- The template of a clause is evaluated for a request: it belongs to the binding in effect and is
not blank, and unless it is that of the statement the binding changes the rows. -/
def Renders (source : DataSource) (r : Request) (c : Clause) (t : String) : Prop :=
  ∃ b, source.bindingFor? r = some b ∧ c.template b = some t ∧ Text.isBlank (some t) = false ∧
    (c = .statement ∨ source.needsTemplating r = true)

/-- The template for a clause that counts for a request, even if it is blank. -/
def templateFor (source : DataSource) (r : Request) (c : Clause) : Option String :=
  match source.bindingFor? r with
  | none => none
  | some b => if c = .statement ∨ b.changesRows = true then c.template b else none

/-- Whether the binding in effect for a request does anything. -/
def isTemplated (source : DataSource) (r : Request) : Bool :=
  (source.bindingFor? r).any fun b => !isIdle b

section

variable {source : DataSource} {r : Request} {b : OperationBinding}

theorem templateFor_of_some (h : source.bindingFor? r = some b) (c : Clause) :
    templateFor source r c =
      if c = .statement ∨ b.changesRows = true then c.template b else none := by
  rw [templateFor, h]

theorem needsTemplating_of_some (h : source.bindingFor? r = some b) :
    source.needsTemplating r = b.changesRows := by
  rw [DataSource.needsTemplating, h, Option.any_some]

theorem renders_iff {c : Clause} {t : String} :
    Renders source r c t ↔ Text.nonBlank? (templateFor source r c) = some t := by
  rw [Text.nonBlank?_eq_some_iff, Renders]
  cases hb : source.bindingFor? r with
  | none => simp [templateFor, hb]
  | some b =>
    rw [templateFor_of_some hb, needsTemplating_of_some hb]
    by_cases hc : c = .statement ∨ b.changesRows = true <;> simp [hc]

/-- A binding that changes the rows has a template for a clause that does. -/
theorem changesRows_iff : b.changesRows = true ↔ ∃ c ∈ [Clause.join, .table, .filter],
    ∃ t, c.template b = some t ∧ Text.isBlank (some t) = false := by
  simp [OperationBinding.changesRows, Clause.template, ← Text.isBlank_eq_false_iff]

theorem isTemplated_iff :
    isTemplated source r = true ↔ source.needsTemplating r = true ∨
      ∃ b, source.bindingFor? r = some b ∧ Text.isBlank b.statement = false := by
  rw [isTemplated]
  cases hb : source.bindingFor? r with
  | none => simp [DataSource.needsTemplating, hb]
  | some b => simp [needsTemplating_of_some hb, isIdle, Decidable.or_iff_not_imp_left]

theorem isTemplated_iff_renders : isTemplated source r = true ↔ ∃ c t, Renders source r c t := by
  rw [isTemplated_iff]
  constructor
  · rintro (h | ⟨b, hb, hs⟩)
    · obtain ⟨b, hb, hc⟩ := (Option.any_eq_true _ _).1 h
      obtain ⟨c, -, t, ht, hn⟩ := changesRows_iff.1 hc
      exact ⟨c, t, b, hb, ht, hn, .inr h⟩
    · obtain ⟨t, ht, hn⟩ := Text.isBlank_eq_false_iff.1 hs
      exact ⟨.statement, t, b, hb, ht, hn, .inl rfl⟩
  · rintro ⟨c, t, b, hb, ht, hn, rfl | h⟩
    · exact .inr ⟨b, hb, Text.isBlank_eq_false_iff.2 ⟨t, ht, hn⟩⟩
    · exact .inl h

end

/-! ## Clause by clause -/

section

variable {m : Type → Type} [Monad m] {evaluate : String → Record → m String} {values : Record}
  {template : Clause → Option String}

/-- Renders the template for a clause into a plan. -/
def fill (evaluate : String → Record → m String) (values : Record)
    (template : Clause → Option String) (p : Plan) (c : Clause) : m Plan :=
  return c.put p (← render evaluate values (template c))

variable [LawfulMonad m]

theorem fill_of_none {c : Clause} (h : Text.nonBlank? (template c) = none) (p : Plan) :
    fill evaluate values template p c = pure p := by
  rw [fill, render, h, pure_bind, Clause.put_none]

theorem fill_of_some {c : Clause} {t : String} (h : Text.nonBlank? (template c) = some t)
    (p : Plan) : fill evaluate values template p c =
      evaluate t values >>= fun s => pure (c.put p (some s)) := by
  simp only [fill, render, h, bind_assoc, pure_bind]

theorem foldlM_fill_of_none {cs : List Clause} (h : ∀ c ∈ cs, Text.nonBlank? (template c) = none)
    (p : Plan) : cs.foldlM (fill evaluate values template) p = pure p := by
  induction cs with
  | nil => rfl
  | cons c cs ih =>
    obtain ⟨hc, hcs⟩ := List.forall_mem_cons.1 h
    rw [List.foldlM_cons, fill_of_none hc, pure_bind, ih hcs]

/-- A binding is applied clause by clause. -/
theorem applyBinding_eq_foldlM {source : DataSource} {r : Request} {b : OperationBinding}
    (h : source.bindingFor? r = some b) (evaluate : String → Record → m String) (values : Record)
    (d : Defaults) :
    applyBinding evaluate values d b =
      Clause.all.foldlM (fill evaluate values (templateFor source r))
        { d.plan with templated := true } := by
  have unset : render evaluate values none = pure none := rfl
  cases hc : b.changesRows <;>
    simp [applyBinding, Clause.all, fill, templateFor_of_some h, hc, Clause.template, Clause.put,
      Defaults.plan, unset]

/-- A plan is made clause by clause, from the defaults. -/
theorem plan_eq_foldlM (source : DataSource) (r : Request) (d : Defaults)
    (evaluate : String → Record → m String) :
    plan source r d evaluate =
      Clause.all.foldlM (fill evaluate (context r d) (templateFor source r))
        { d.plan with templated := isTemplated source r } := by
  cases ht : isTemplated source r with
  | true =>
    obtain ⟨b, hb, hi⟩ := (Option.any_eq_true _ _).1 ht
    rw [← applyBinding_eq_foldlM hb, plan, hb]
    exact if_neg (by simpa using hi)
  | false =>
    have idle : (source.bindingFor? r).all isIdle = true := by
      rw [isTemplated] at ht
      cases hb : source.bindingFor? r <;> simp_all
    rw [plan_eq_defaults idle, foldlM_fill_of_none]
    · rfl
    · -- A template that was evaluated would make the binding one that does something.
      intro c _
      refine Option.eq_none_iff_forall_ne_some.2 fun t h => ?_
      have := isTemplated_iff_renders.2 ⟨c, t, renders_iff.2 h⟩
      rw [ht] at this
      cases this

end

/-! ## Evaluators that note what they are asked -/

/-- What an evaluator is asked: a template, and the values that it may name. -/
abbrev Question : Type := String × Record

/-- An evaluator that notes what it is asked before it answers. -/
def noting (evaluate : Evaluator) (t : String) (values : Record) :
    ExceptT TemplateError (StateM (List Question)) String :=
  .mk fun log => (evaluate t values, log ++ [(t, values)])

/-- What comes of a plan, and what the evaluator is asked meanwhile, in order. -/
def noted (source : DataSource) (r : Request) (d : Defaults) (evaluate : Evaluator) :
    Except TemplateError Plan × List Question :=
  (plan source r d (noting evaluate)).run.run []

/-- What an evaluator is asked for a row of clauses, until it refuses. -/
def questions (evaluate : Evaluator) (values : Record) (template : Clause → Option String) :
    List Clause → List Question
  | [] => []
  | c :: cs =>
    match Text.nonBlank? (template c) with
    | none => questions evaluate values template cs
    | some t =>
      (t, values) :: match evaluate t values with
        | .ok _ => questions evaluate values template cs
        | .error _ => []

section

variable {evaluate : Evaluator} {values : Record} {template : Clause → Option String}
  {cs : List Clause}

theorem questions_cons_of_none {c : Clause} (h : Text.nonBlank? (template c) = none) :
    questions evaluate values template (c :: cs) = questions evaluate values template cs := by
  simp only [questions, h]

theorem questions_cons_of_ok {c : Clause} {t s : String}
    (h : Text.nonBlank? (template c) = some t) (he : evaluate t values = .ok s) :
    questions evaluate values template (c :: cs) =
      (t, values) :: questions evaluate values template cs := by
  simp only [questions, h, he]

theorem questions_cons_of_error {c : Clause} {t : String} {e : TemplateError}
    (h : Text.nonBlank? (template c) = some t) (he : evaluate t values = .error e) :
    questions evaluate values template (c :: cs) = [(t, values)] := by
  simp only [questions, h, he]

theorem run_noting_bind {α : Type} (t : String)
    (k : String → ExceptT TemplateError (StateM (List Question)) α) (log : List Question) :
    (noting evaluate t values >>= k).run.run log =
      (ExceptT.bindCont k (evaluate t values)).run (log ++ [(t, values)]) := rfl

/-- Noting changes nothing, and the questions are noted. -/
theorem run_foldlM_noting (p : Plan) (log : List Question) :
    (cs.foldlM (fill (noting evaluate) values template) p).run.run log =
      (cs.foldlM (fill evaluate values template) p,
        log ++ questions evaluate values template cs) := by
  induction cs generalizing p log with
  | nil =>
    rw [questions, List.append_nil]
    rfl
  | cons c cs ih =>
    rw [List.foldlM_cons, List.foldlM_cons]
    cases hn : Text.nonBlank? (template c) with
    | none =>
      rw [fill_of_none hn, fill_of_none hn, pure_bind, pure_bind, ih, questions_cons_of_none hn]
    | some t =>
      rw [fill_of_some hn, fill_of_some hn, bind_assoc, run_noting_bind]
      cases he : evaluate t values with
      | error e =>
        rw [questions_cons_of_error hn he]
        rfl
      | ok s =>
        rw [questions_cons_of_ok hn he]
        refine (ih (c.put p (some s)) (log ++ [(t, values)])).trans ?_
        rw [List.append_assoc]
        rfl

/-- Every question is about a template of one of the clauses. -/
theorem mem_questions {q : Question} (h : q ∈ questions evaluate values template cs) :
    q.2 = values ∧ ∃ c ∈ cs, Text.nonBlank? (template c) = some q.1 := by
  induction cs with
  | nil => cases h
  | cons c cs ih =>
    have later (h : q ∈ questions evaluate values template cs) :
        q.2 = values ∧ ∃ k ∈ c :: cs, Text.nonBlank? (template k) = some q.1 := by
      obtain ⟨hv, k, hk, ht⟩ := ih h
      exact ⟨hv, k, List.mem_cons_of_mem c hk, ht⟩
    cases hn : Text.nonBlank? (template c) with
    | none => exact later (questions_cons_of_none hn ▸ h)
    | some t =>
      have first : (t, values).2 = values ∧
          ∃ k ∈ c :: cs, Text.nonBlank? (template k) = some (t, values).1 :=
        ⟨rfl, c, List.mem_cons_self, hn⟩
      cases he : evaluate t values with
      | error e =>
        rw [questions_cons_of_error hn he, List.mem_singleton] at h
        exact h ▸ first
      | ok s =>
        rw [questions_cons_of_ok hn he] at h
        rcases List.mem_cons.1 h with rfl | h
        · exact first
        · exact later h

/-- Where there is a template, there is a question. -/
theorem questions_ne_nil_iff : questions evaluate values template cs ≠ [] ↔
    ∃ c ∈ cs, ∃ t, Text.nonBlank? (template c) = some t := by
  refine ⟨fun h => ?_, ?_⟩
  · obtain ⟨q, hq⟩ := List.exists_mem_of_ne_nil _ h
    obtain ⟨-, c, hc, ht⟩ := mem_questions hq
    exact ⟨c, hc, q.1, ht⟩
  · induction cs with
    | nil => simp
    | cons c cs ih =>
      cases hn : Text.nonBlank? (template c) with
      | none =>
        rw [questions_cons_of_none hn]
        simpa [hn] using ih
      | some t =>
        cases he : evaluate t values with
        | error e => simp [questions_cons_of_error hn he]
        | ok s => simp [questions_cons_of_ok hn he]

/-! ## What becomes of the answers -/

/-- What a clause comes to: there is no template, or it is refused, or it is evaluated. -/
theorem fill_cases (evaluate : Evaluator) (values : Record) (template : Clause → Option String)
    (p : Plan) (c : Clause) :
    (Text.nonBlank? (template c) = none ∧ fill evaluate values template p c = .ok p) ∨
    ∃ t, Text.nonBlank? (template c) = some t ∧
      ((∃ e, evaluate t values = .error e ∧ fill evaluate values template p c = .error e) ∨
        ∃ s, evaluate t values = .ok s ∧
          fill evaluate values template p c = .ok (c.put p (some s))) := by
  cases h : Text.nonBlank? (template c) with
  | none => exact .inl ⟨rfl, fill_of_none h p⟩
  | some t =>
    refine .inr ⟨t, rfl, ?_⟩
    rw [fill_of_some h]
    cases evaluate t values with
    | error e => exact .inl ⟨e, rfl, rfl⟩
    | ok s => exact .inr ⟨s, rfl, rfl⟩

theorem fill_eq_error_iff {c : Clause} {p : Plan} {e : TemplateError} :
    fill evaluate values template p c = .error e ↔
      ∃ t, Text.nonBlank? (template c) = some t ∧ evaluate t values = .error e := by
  rcases fill_cases evaluate values template p c with ⟨hn, hf⟩ | ⟨t, ht, ⟨e', he, hf⟩ | ⟨s, he, hf⟩⟩
  · simp [hf, hn]
  · simp [hf, ht, he]
  · simp [hf, ht, he]

/-- What is filled in is what the templates are evaluated to; all else stays. -/
theorem planned_of_foldlM_fill {p p' : Plan}
    (h : cs.foldlM (fill evaluate values template) p = .ok p') (k : Clause) :
    (∃ t s, Text.nonBlank? (template k) = some t ∧ evaluate t values = .ok s ∧
      k.planned p' = some s) ∨
    (k ∈ cs → Text.nonBlank? (template k) = none) ∧ k.planned p' = k.planned p := by
  induction cs generalizing p with
  | nil =>
    cases h
    exact .inr ⟨nofun, rfl⟩
  | cons c cs ih =>
    rw [List.foldlM_cons] at h
    rcases fill_cases evaluate values template p c with
      ⟨hn, hf⟩ | ⟨t, ht, ⟨e, -, hf⟩ | ⟨s, he, hf⟩⟩
    · rw [hf] at h
      refine (ih h).imp_right fun ⟨hk, hp⟩ => ⟨fun hm => ?_, hp⟩
      rcases List.mem_cons.1 hm with rfl | hm
      · exact hn
      · exact hk hm
    · rw [hf] at h
      cases h
    · rw [hf] at h
      rcases ih h with done | ⟨hk, hp⟩
      · exact .inl done
      · rw [Clause.planned_put] at hp
        split at hp
        · next hc => exact .inl ⟨t, s, hc ▸ ht, he, hp⟩
        · next hc => exact .inr ⟨fun hm => hk (List.mem_of_ne_of_mem hc hm), hp⟩

theorem templated_of_foldlM_fill {p p' : Plan}
    (h : cs.foldlM (fill evaluate values template) p = .ok p') : p'.templated = p.templated := by
  induction cs generalizing p with
  | nil =>
    cases h
    rfl
  | cons c cs ih =>
    rw [List.foldlM_cons] at h
    rcases fill_cases evaluate values template p c with ⟨-, hf⟩ | ⟨_, -, ⟨_, -, hf⟩ | ⟨s, -, hf⟩⟩
    · rw [hf] at h
      exact ih h
    · rw [hf] at h
      cases h
    · rw [hf] at h
      exact (ih h).trans (Clause.templated_put p (some s) c)

end

/-! ## Plans -/

section

variable (source : DataSource) (r : Request) (d : Defaults) (evaluate : Evaluator)

/-- The evaluator refuses the template of a clause. -/
def IsRefused (c : Clause) (e : TemplateError) : Prop :=
  ∃ t, Renders source r c t ∧ evaluate t (context r d) = .error e

/-- What a clause is to be: what its template is evaluated to, or by default, where no template of
it is evaluated. -/
def IsPlanned (c : Clause) (text : Option String) : Prop :=
  (∃ t s, Renders source r c t ∧ evaluate t (context r d) = .ok s ∧ text = some s) ∨
    (∀ t, ¬ Renders source r c t) ∧ text = c.default d

variable {source r d evaluate} {c : Clause}

theorem Renders.unique {t u : String} (ht : Renders source r c t) (hu : Renders source r c u) :
    t = u :=
  Option.some.inj ((renders_iff.1 ht).symm.trans (renders_iff.1 hu))

theorem IsPlanned.unique {x y : Option String} (hx : IsPlanned source r d evaluate c x)
    (hy : IsPlanned source r d evaluate c y) : x = y := by
  rcases hx with ⟨t, s, ht, hs, rfl⟩ | ⟨hn, rfl⟩
  · rcases hy with ⟨u, s', hu, hs', rfl⟩ | ⟨hn, -⟩
    · cases ht.unique hu
      exact congrArg some (Except.ok.inj (hs.symm.trans hs'))
    · exact absurd ht (hn t)
  · rcases hy with ⟨u, -, hu, -⟩ | ⟨-, rfl⟩
    · exact absurd hu (hn u)
    · rfl

theorem IsPlanned.not_isRefused {x : Option String} (h : IsPlanned source r d evaluate c x)
    (e : TemplateError) : ¬ IsRefused source r d evaluate c e := by
  rintro ⟨u, hu, he⟩
  rcases h with ⟨t, s, ht, hs, -⟩ | ⟨hn, -⟩
  · cases ht.unique hu
    cases hs.symm.trans he
  · exact hn u hu

theorem plan_eq_error_iff {e : TemplateError} :
    plan source r d evaluate = .error e ↔ ∃ before c after, Clause.all = before ++ c :: after ∧
      IsRefused source r d evaluate c e ∧
      ∀ k ∈ before, ∀ e', ¬ IsRefused source r d evaluate k e' := by
  rw [plan_eq_foldlM, foldlM_eq_run_mk]
  refine foldlM_eq_error_iff_of_steps fun c _ p e => ?_
  rw [ExceptT.run_mk, fill_eq_error_iff]
  simp only [IsRefused, renders_iff]

theorem isPlanned_of_plan {p : Plan} (h : plan source r d evaluate = .ok p) (c : Clause) :
    IsPlanned source r d evaluate c (c.planned p) := by
  rw [plan_eq_foldlM] at h
  rcases planned_of_foldlM_fill h c with ⟨t, s, ht, hs, hp⟩ | ⟨hn, hp⟩
  · exact .inl ⟨t, s, renders_iff.2 ht, hs, hp⟩
  · refine .inr ⟨fun t ht => ?_, hp.trans ?_⟩
    · cases (hn c.mem_all).symm.trans (renders_iff.1 ht)
    · exact c.planned_plan d

theorem templated_of_plan {p : Plan} (h : plan source r d evaluate = .ok p) :
    p.templated = isTemplated source r := by
  rw [plan_eq_foldlM] at h
  exact templated_of_foldlM_fill h

theorem plan_eq_ok_iff {p : Plan} : plan source r d evaluate = .ok p ↔
    (∀ c : Clause, IsPlanned source r d evaluate c (c.planned p)) ∧
      (p.templated = true ↔ ∃ c t, Renders source r c t) := by
  constructor
  · intro h
    exact ⟨isPlanned_of_plan h, templated_of_plan h ▸ isTemplated_iff_renders⟩
  · rintro ⟨hp, ht⟩
    cases h : plan source r d evaluate with
    | error e =>
      obtain ⟨-, c, -, -, hc, -⟩ := plan_eq_error_iff.1 h
      exact absurd hc ((hp c).not_isRefused e)
    | ok q =>
      rw [← isTemplated_iff_renders, ← templated_of_plan h, ← Bool.eq_iff_iff] at ht
      exact congrArg _ (Clause.ext_planned (fun c => (isPlanned_of_plan h c).unique (hp c)) ht.symm)

theorem noted_eq : noted source r d evaluate = (plan source r d evaluate,
    questions evaluate (context r d) (templateFor source r) Clause.all) := by
  rw [noted, plan_eq_foldlM, plan_eq_foldlM, run_foldlM_noting, List.nil_append]

end

/-- Plans against any evaluator. Noting what it is asked changes no plan. It is asked only about
templates of the binding in effect that are not blank, and always with the context of the request
and the defaults. A plan that is made has what these templates are evaluated to, and the defaults in
all other places; it counts as templated exactly when there was a question, as there is when the
binding changes the rows or has a statement that is not blank. No plan is made exactly when a
template is refused, and then the first one, in the order statement, select, table, where, order,
join, gives the error. -/
theorem plan_characterized (source : DataSource) (r : Request) (d : Defaults)
    (evaluate : Evaluator) :
    (noted source r d evaluate).1 = plan source r d evaluate ∧
    (∀ q ∈ (noted source r d evaluate).2, q.2 = context r d ∧ ∃ c, Renders source r c q.1) ∧
    (∀ p, plan source r d evaluate = .ok p ↔
      (∀ c : Clause, IsPlanned source r d evaluate c (c.planned p)) ∧
        (p.templated = true ↔ ∃ c t, Renders source r c t)) ∧
    (∀ p, plan source r d evaluate = .ok p →
      (p.templated = true ↔ (noted source r d evaluate).2 ≠ []) ∧
      (p.templated = true ↔ source.needsTemplating r = true ∨
        ∃ b, source.bindingFor? r = some b ∧ Text.isBlank b.statement = false)) ∧
    ∀ e, plan source r d evaluate = .error e ↔
      ∃ before c after, [Clause.statement, .select, .table, .filter, .order, .join] =
          before ++ c :: after ∧
        IsRefused source r d evaluate c e ∧
        ∀ k ∈ before, ∀ e', ¬ IsRefused source r d evaluate k e' := by
  have asked : (noted source r d evaluate).2 ≠ [] ↔ ∃ c t, Renders source r c t := by
    rw [noted_eq, questions_ne_nil_iff]
    simp only [renders_iff, Clause.mem_all, true_and]
  refine ⟨by rw [noted_eq], fun q hq => ?_, fun p => plan_eq_ok_iff, fun p hp => ⟨?_, ?_⟩,
    fun e => plan_eq_error_iff⟩
  · rw [noted_eq] at hq
    obtain ⟨hv, c, -, ht⟩ := mem_questions hq
    exact ⟨hv, c, renders_iff.2 ht⟩
  · rw [asked, templated_of_plan hp, isTemplated_iff_renders]
  · rw [templated_of_plan hp, isTemplated_iff]

end Switchboard.Query
