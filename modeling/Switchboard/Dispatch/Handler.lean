import Switchboard.DataSource
import Switchboard.Dispatch.Object
import Switchboard.Request
import Switchboard.Response
import Switchboard.Text.Quoted

/-!
# Handlers

A handler is registered under an id and answers requests. It may bear a data source. The plainest
one that does forwards requests to another handler, or supports no operation.

A request that is not answered ends in an invocation error, which carries the failure itself: code
that passes on an invocation error it met adds no layer.

* `InvocationError.of_invocation`: an invocation error is passed on as it is.
* `Handler.handle_forward`: a data source answers as the handler it forwards to.
-/

namespace Switchboard

/-- An error of application code: its kind, what it says, and what the errors behind it say. -/
structure Fault where
  kind : String
  message : String
  causes : List String
deriving DecidableEq, Repr

/-- Why a request was not answered. -/
inductive Failure where
  /-- Application code failed. -/
  | fault (fault : Fault)
  /-- A data source has no handler to forward to. -/
  | unsupported (dataSource : String) (operation : Operation)
  /-- A method met an object of another type than its own. -/
  | receiverMismatch (expected : String)
deriving DecidableEq, Repr

namespace Failure

/-- What is reported. -/
def message : Failure → String
  | fault f => f.message
  | unsupported dataSource operation =>
    s!"data source '{dataSource}' has no handler for operation '{operation.name}'"
  | receiverMismatch expected => s!"DMI receiver is not a {expected}"

/-- What the errors behind a failure say. -/
def causes : Failure → List String
  | fault f => f.causes
  | _ => []

end Failure

/-- The end of a request that was not answered. -/
structure InvocationError where
  failure : Failure
deriving DecidableEq, Repr

/-- What application code may fail with: a failure, or an invocation error that it met. -/
inductive Raised where
  | failure (failure : Failure)
  | invocation (error : InvocationError)
deriving DecidableEq, Repr

namespace InvocationError

/-- The invocation error for what code failed with. -/
def of : Raised → InvocationError
  | .failure f => ⟨f⟩
  | .invocation e => e

/-- What is reported. -/
def message (e : InvocationError) : String := e.failure.message

/-- What the errors behind it say, which are those behind the failure. -/
def causes (e : InvocationError) : List String := e.failure.causes

@[simp] theorem of_invocation (e : InvocationError) : of (.invocation e) = e := rfl

end InvocationError

/-- A handler: its id, the data source it bears, and how it answers. -/
structure Handler (σ : Type) where
  id : String
  dataSource : Option DataSource
  handle : Request → Attempt σ InvocationError Response

namespace Handler

variable {σ : Type}

/-- The handler of a data source, which forwards to another one or supports nothing. -/
def ofDataSource (d : DataSource) (forward : Option (Handler σ)) : Handler σ where
  id := d.id
  dataSource := some d
  handle r :=
    match forward with
    | some h => h.handle r
    | none => throw ⟨.unsupported d.id r.operation⟩

/-- What a report shows of a handler. -/
def summary (h : Handler σ) : String :=
  "Handler \x7b id: " ++ Text.quote h.id ++ ", data_source: " ++ toString h.dataSource.isSome ++
    " \x7d"

@[simp] theorem handle_forward (d : DataSource) (h : Handler σ) (r : Request) :
    (ofDataSource d (some h)).handle r = h.handle r := rfl

end Handler

end Switchboard
