import Switchboard.Json.Layout

/-!
# Responses

A response has a status, rows of values, and the number of rows there are in all, if it is known. A
successful answer is built from rows, from one row or from nothing, and counts the rows it carries.

* `size_ofRows`: the count of a successful answer is the number of its rows.
-/

namespace Switchboard

open Json (Layout Shape Slot)

/-- How a request went. -/
inductive Status where
  | success
  | failure
  | validationError
deriving DecidableEq, Repr

namespace Status

/-- The name on the wire. -/
def name : Status → String
  | success => "success"
  | failure => "failure"
  | validationError => "validationError"

/-- The status of a name. -/
def ofName? (s : String) : Option Status :=
  [success, failure, validationError].find? (·.name = s)

/-- A status is given by its name. -/
def shape : Shape Status := .choice ofName? name

end Status

/-- The answer to a request. -/
structure Response where
  status : Status
  rows : List Record
  total : Option Nat
deriving DecidableEq

namespace Response

/-- A successful answer of some rows. -/
def ofRows (rows : List Record) : Response := ⟨.success, rows, some rows.length⟩

/-- A successful answer of one row. -/
def ofRow (row : Record) : Response := ofRows [row]

/-- A successful answer of no rows. -/
def empty : Response := ofRows []

/-- A successful answer that neither has nor counts rows. -/
def blank : Response := ⟨.success, [], none⟩

/-- Whether the request succeeded. -/
def isSuccess (r : Response) : Bool := r.status = .success

/-- The value of a field in the first row. -/
def first? (r : Response) (field : String) : Option Value :=
  r.rows.head?.bind (·.find? field)

/-- The form on the wire. -/
def layout : Layout Response where
  blank := blank
  slots := [
    .required "status" [] Status.shape status fun r x => { r with status := x },
    .defaulted "data" [] (.list .record) rows fun r x => { r with rows := x },
    .optional "totalRows" [] .count total fun r x => { r with total := x }]
  isClosed := false

/-- Responses are objects with the slots of the layout. -/
def shape : Shape Response := layout.shape

@[simp]
theorem size_ofRows (rows : List Record) : (ofRows rows).total = some (ofRows rows).rows.length :=
  rfl

end Response

end Switchboard
