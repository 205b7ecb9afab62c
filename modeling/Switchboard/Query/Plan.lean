import Switchboard.Query.Binding
import Switchboard.Query.Template

/-!
# Plans of queries

A plan is the clauses of the query that answers a request. It starts from default clauses. The
binding in effect may replace each by a template, add a join, or give a whole statement. Templates
are evaluated for a context: the default clauses, and the filter of a request to fetch.

A binding that changes neither the rows nor the statement leaves the defaults as they are, even if
it has other clauses. Blank templates are never evaluated; the others are evaluated in the order
statement, select, table, where, order, join, and the first error ends the plan.

Templates may be evaluated in any monad: an `Evaluator` does nothing but give a text or refuse, and
others may keep account of what they are asked.

* `plan_eq_defaults`: when the defaults stay.
-/

namespace Switchboard

namespace Query

/-- The clauses a query has unless a binding replaces them. -/
structure Defaults where
  select : String
  table : String
  filter : String
  order : String
deriving DecidableEq, Repr

/-- The clauses of a query. -/
structure Plan where
  select : String
  table : String
  filter : String
  order : String
  join : Option String
  statement : Option String
  /-- Whether a template was evaluated. -/
  templated : Bool
deriving DecidableEq, Repr

/-- The plan that no binding touches. -/
def Defaults.plan (d : Defaults) : Plan :=
  ⟨d.select, d.table, d.filter, d.order, none, none, false⟩

/-- The part of a context that comes from a filter. A flat filter is there under both names. -/
def exposeCriteria (context : Record) : Option Criteria → Record
  | none => context
  | some (.simple r) =>
    (context.insert "criteria" (.ofRecord r)).insert "advancedCriteria" (.ofRecord r)
  | some (.advanced c) => context.insert "advancedCriteria" (Criteria.advanced c).toValue

/-- The values that templates may name: the default clauses, and the filter if there is anything to
fetch. -/
def context (r : Request) (d : Defaults) : Record :=
  let clauses := (((Record.empty.insert "defaultSelectClause" (.ofString d.select)).insert
    "defaultTableClause" (.ofString d.table)).insert
    "defaultWhereClause" (.ofString d.filter)).insert
    "defaultOrderClause" (.ofString d.order)
  if r.isFetch then exposeCriteria clauses r.criteria else clauses

section

variable {m : Type → Type} [Monad m]

/-- The text of a template that is not blank. -/
def render (evaluate : String → Record → m String) (context : Record) (template : Option String) :
    m (Option String) :=
  match Text.nonBlank? template with
  | none => return none
  | some t => return some (← evaluate t context)

/-- The plan that a binding makes of the defaults. -/
def applyBinding (evaluate : String → Record → m String) (context : Record) (d : Defaults)
    (b : OperationBinding) : m Plan := do
  let statement ← render evaluate context b.statement
  if b.changesRows then
    let select ← render evaluate context b.selectClause
    let table ← render evaluate context b.tableClause
    let filter ← render evaluate context b.whereClause
    let order ← render evaluate context b.orderClause
    let join ← render evaluate context b.joinClause
    return ⟨select.getD d.select, table.getD d.table, filter.getD d.filter, order.getD d.order,
      join, statement, true⟩
  else
    return { d.plan with statement, templated := true }

/-- Whether a binding leaves the defaults as they are. -/
def isIdle (b : OperationBinding) : Bool :=
  !b.changesRows && Text.isBlank b.statement

/-- The plan of the query that answers a request. -/
def plan (source : DataSource) (r : Request) (d : Defaults)
    (evaluate : String → Record → m String) : m Plan :=
  match source.bindingFor? r with
  | none => return d.plan
  | some b => if isIdle b then return d.plan else applyBinding evaluate (context r d) d b

theorem plan_eq_defaults {source : DataSource} {r : Request} {d : Defaults}
    {evaluate : String → Record → m String} (h : (source.bindingFor? r).all isIdle) :
    plan source r d evaluate = pure d.plan := by
  unfold plan
  cases hb : source.bindingFor? r <;> simp_all

end

end Query

end Switchboard
