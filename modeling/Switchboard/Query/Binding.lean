import Switchboard.DataSource
import Switchboard.Request

/-!
# The binding of a request

Of the bindings of a data source, those for the operation of a request are candidates. One for the
operation id of the request is taken before one for no id at all, and among equals the first that is
declared. A blank id counts as none.

* `select_eq`: one pass over the bindings takes the first specific candidate, else the first general
  one.
-/

namespace Switchboard

namespace OperationBinding

/-- A binding to the operation of a request, whatever its id. -/
def isCandidate (r : Request) (b : OperationBinding) : Bool :=
  b.operation = some r.operation

/-- A candidate for the operation id of the request. -/
def isSpecific (r : Request) (b : OperationBinding) : Bool :=
  b.isCandidate r && (Text.nonBlank? b.operationId).isSome &&
    Text.nonBlank? b.operationId = Text.nonBlank? r.operationId

/-- A candidate for no operation id. -/
def isGeneral (r : Request) (b : OperationBinding) : Bool :=
  b.isCandidate r && Text.isBlank b.operationId

/-- Whether the binding changes where the rows come from or which there are. -/
def changesRows (b : OperationBinding) : Bool :=
  [b.joinClause, b.tableClause, b.whereClause].any fun clause => !Text.isBlank clause

/-- Goes over bindings in order, with the first general candidate met so far. -/
def select (r : Request) (general : Option OperationBinding) :
    List OperationBinding → Option OperationBinding
  | [] => general
  | b :: bs =>
    if b.isSpecific r then some b
    else if b.isGeneral r then select r (general.or (some b)) bs
    else select r general bs

theorem select_eq (r : Request) (general : Option OperationBinding) (bs : List OperationBinding) :
    select r general bs =
      (bs.find? (·.isSpecific r)).or (general.or (bs.find? (·.isGeneral r))) := by
  induction bs generalizing general with
  | nil => simp [select]
  | cons b bs ih =>
    rw [select, List.find?_cons, List.find?_cons]
    cases hs : b.isSpecific r with
    | true => simp
    | false => cases hg : b.isGeneral r <;> simp [ih]

end OperationBinding

namespace DataSource

/-- The binding in effect for a request. -/
def bindingFor? (d : DataSource) (r : Request) : Option OperationBinding :=
  OperationBinding.select r none d.bindings

/-- Whether the binding in effect changes where the rows come from or which there are. -/
def needsTemplating (d : DataSource) (r : Request) : Bool :=
  (d.bindingFor? r).any (·.changesRows)

end DataSource

end Switchboard
