import Switchboard.Dispatch.ServerObject
import Switchboard.Dispatch.TypeRegister

/-!
# Routes to code

The directory of a program knows its types by name and its objects in a container. In it the code of
a server object is located, without running any: the route tells what a request will meet.

One method of the asked name has to answer requests, no more and no fewer. A type that is known by
its objects, as that of a bean or of what a factory makes, has to be registered under one name.

* `TypeTable.soleResponder_eq_ok_iff`: a method is found when it is the only one.
-/

namespace Switchboard

variable {σ : Type}

/-- Why a server object cannot be resolved. -/
inductive ResolutionError where
  | unknownType (name : String)
  | duplicateType (name : String)
  | ambiguousType (subject : String) (candidates : List String)
  | noContainer (bean : String)
  | unknownBean (bean : String)
  | unregisteredBeanType (bean : String)
  | missingMethod (typeName method : String)
  | ambiguousMethod (typeName method : String) (candidates : Nat)
  | missingConstructor (typeName : String)
  | missingFactoryMethod (factory : String)
  | unknownWorkerType (factory worker : String)
deriving DecidableEq, Repr

namespace ResolutionError

/-- What is reported. -/
def message : ResolutionError → String
  | unknownType name => s!"unknown DMI type '{name}'"
  | duplicateType name => s!"DMI type '{name}' is registered more than once"
  | ambiguousType subject candidates =>
    "'" ++ subject ++ "' matches several registered types: " ++ ", ".intercalate candidates
  | noContainer bean => s!"no container configured to resolve bean '{bean}'"
  | unknownBean bean => s!"no bean named '{bean}'"
  | unregisteredBeanType bean => s!"bean '{bean}' has no registered method table"
  | missingMethod typeName method =>
    s!"type '{typeName}' has no method '{method}' taking the request"
  | ambiguousMethod typeName method candidates =>
    s!"type '{typeName}' has {candidates} methods named '{method}' taking the request"
  | missingConstructor typeName => s!"type '{typeName}' has no zero-argument constructor"
  | missingFactoryMethod factory => s!"factory '{factory}' has no zero-argument 'create' method"
  | unknownWorkerType factory worker => s!"factory '{factory}' creates unregistered type {worker}"

end ResolutionError

/-- The name of the method by which a factory makes objects. -/
def createMethod : String := "create"

/-- The types and objects of a program. -/
structure Directory (σ : Type) where
  types : TypeRegister σ
  container : Option Container

/-- Where the code of a server object was found. -/
inductive Route (σ : Type) where
  | static (body : Body σ)
  | perRequest (type : TypeId) (construct : Work σ Nat) (owner : ObjectType) (body : Nat → Body σ)
  | factory (type : TypeId) (construct : Work σ Nat) (producer : Producer σ)
      (responder : Responder σ)
  | bean (object : Object) (responder : Responder σ)

/-- The one thing of a table that answers requests under a name. -/
def TypeTable.soleResponder (t : TypeTable σ) (method : String) :
    Except ResolutionError (Responder σ) :=
  match t.responders method with
  | [] => .error (.missingMethod t.name method)
  | [responder] => .ok responder
  | responders => .error (.ambiguousMethod t.name method responders.length)

theorem TypeTable.soleResponder_eq_ok_iff {t : TypeTable σ} {method : String}
    {responder : Responder σ} :
    t.soleResponder method = .ok responder ↔ t.responders method = [responder] := by
  unfold soleResponder
  split <;> simp_all

namespace Directory

/-- The table of a name that is not contested. -/
def typeNamed (d : Directory σ) (name : String) : Except ResolutionError (TypeTable σ) :=
  if d.types.isContested name then .error (.duplicateType name)
  else match d.types.get? name with
    | some t => .ok t
    | none => .error (.unknownType name)

/-- The one table of a type, if there is any. -/
def typeOf? (d : Directory σ) (type : TypeId) (subject : String) :
    Except ResolutionError (Option (TypeTable σ)) :=
  match d.types.namesOf type with
  | [] => .ok none
  | [name] => .ok (d.types.get? name)
  | names => .error (.ambiguousType subject names)

/-- Finds a method of a named type, and how its objects are made if it needs one. -/
def locateNew (d : Directory σ) (o : ServerObject) : Except ResolutionError (Route σ) := do
  let t ← d.typeNamed o.target
  match ← t.soleResponder o.method with
  | .static body => return .static body
  | .onObject owner body =>
    match t.construct with
    | some construct => return .perRequest t.type construct owner body
    | none => throw (.missingConstructor t.name)

/-- Finds a factory, how it makes objects, and a method of those. -/
def locateFactory (d : Directory σ) (o : ServerObject) : Except ResolutionError (Route σ) := do
  let t ← d.typeNamed o.target
  let some construct := t.construct | throw (.missingConstructor t.name)
  let some producer := t.producer? createMethod | throw (.missingFactoryMethod t.name)
  let some worker ← d.typeOf? producer.product.id producer.product.name
    | throw (.unknownWorkerType t.name producer.product.name)
  return .factory t.type construct producer (← worker.soleResponder o.method)

/-- Finds an object in the container, and a method of its type. -/
def locateBean (d : Directory σ) (o : ServerObject) : Except ResolutionError (Route σ) := do
  let some container := d.container | throw (.noContainer o.target)
  let some object := container o.target | throw (.unknownBean o.target)
  let some t ← d.typeOf? object.type o.target | throw (.unregisteredBeanType o.target)
  return .bean object (← t.soleResponder o.method)

/-- Finds the code of a server object. -/
def locate (d : Directory σ) (o : ServerObject) : Except ResolutionError (Route σ) :=
  match o.lookup with
  | .new => d.locateNew o
  | .factory => d.locateFactory o
  | .bean => d.locateBean o

/-- What a report shows of a directory. -/
def summary (d : Directory σ) : String :=
  "Resolver \x7b types: " ++ toString d.types.size ++ ", container: " ++
    toString d.container.isSome ++ " \x7d"

end Directory

end Switchboard
