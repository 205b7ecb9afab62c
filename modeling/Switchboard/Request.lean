import Switchboard.Criteria
import Switchboard.Operation

/-!
# Requests

A request asks a data source to perform an operation. It may name one of several operations of a
kind, filter what it is about, and carry values; an update also carries the values it replaces.
-/

namespace Switchboard

open Json (Layout Shape Slot)

/-- A request to a data source. -/
structure Request where
  dataSource : String
  operation : Operation
  operationId : Option String
  criteria : Option Criteria
  values : Record
  oldValues : Option Record
deriving DecidableEq

namespace Request

/-- A request with nothing but its data source and operation. -/
def new (dataSource : String) (operation : Operation) : Request :=
  ⟨dataSource, operation, none, none, .empty, none⟩

/-- A request to fetch. -/
def fetch (dataSource : String) : Request := new dataSource .fetch

/-- A request to add values. -/
def add (dataSource : String) (values : Record) : Request :=
  { new dataSource .add with values }

/-- The request with a value written. -/
def withValue (r : Request) (field : String) (value : Value) : Request :=
  { r with values := r.values.insert field value }

/-- The value of a field. -/
def value? (r : Request) (field : String) : Option Value := r.values.find? field

/-- Whether the request is to fetch. -/
def isFetch (r : Request) : Bool := r.operation = .fetch

/-- The form on the wire. -/
def layout : Layout Request where
  blank := fetch ""
  slots := [
    .required "dataSource" [] .text dataSource fun r x => { r with dataSource := x },
    .required "operationType" [] Operation.shape operation fun r x => { r with operation := x },
    .optional "operationId" [] .text operationId fun r x => { r with operationId := x },
    .optional "criteria" [] Criteria.shape criteria fun r x => { r with criteria := x },
    .defaulted "values" [] .record values fun r x => { r with values := x },
    .optional "oldValues" [] .record oldValues fun r x => { r with oldValues := x }]
  isClosed := false

/-- Requests are objects with the slots of the layout. -/
def shape : Shape Request := layout.shape

end Request

end Switchboard
