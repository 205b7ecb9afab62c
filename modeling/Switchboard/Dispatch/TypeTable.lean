import Switchboard.Dispatch.Handler

/-!
# Method tables

An application describes a type of its objects by a table: a name, perhaps a way to make an object
without arguments, and methods. A method takes the request alone, or an object and the request, or
an object alone, of which it makes another object.

A table holds code for objects of its own type. What reaches it is an object of any type, so a call
checks the type first.

* `receive_of_type`: an object of the type that is expected passes the check.
* `TypeTable.length_responders`: the methods that answer requests, counted in two ways.
-/

namespace Switchboard

variable {σ : Type}

/-- Code that answers a request. -/
abbrev Body (σ : Type) : Type := Request → Attempt σ Raised Response

/-- What a method takes. -/
inductive Signature (σ : Type) where
  /-- The request. -/
  | static (body : Body σ)
  /-- An object, by its key, and the request. -/
  | onObject (body : Nat → Body σ)
  /-- An object, by its key, of which it makes one of another type. -/
  | producer (product : ObjectType) (produce : Nat → Work σ Nat)

/-- A method. -/
structure Method (σ : Type) where
  name : String
  signature : Signature σ

/-- What an application says of a type of its objects. The name is the one it is registered under.
-/
structure TypeTable (σ : Type) where
  name : String
  owner : ObjectType
  construct : Option (Work σ Nat)
  methods : List (Method σ)

/-- The type of the objects of a table. -/
abbrev TypeTable.type (t : TypeTable σ) : TypeId := t.owner.id

/-- The key of an object, if it has the type that is expected. -/
def receive (expected : ObjectType) (o : Object) : Except InvocationError Nat :=
  if o.type = expected.id then .ok o.key else .error ⟨.receiverMismatch expected.name⟩

theorem receive_of_type {expected : ObjectType} {o : Object} (h : o.type = expected.id) :
    receive expected o = .ok o.key :=
  if_pos h

/-- The outcome of a body as the outcome of a call. -/
def Body.run (body : Body σ) (r : Request) : Attempt σ InvocationError Response :=
  (body r).adapt InvocationError.of

/-! ## What answers a request -/

/-- A method that answers requests, with the type of the objects it is called on. -/
inductive Responder (σ : Type) where
  | static (body : Body σ)
  | onObject (owner : ObjectType) (body : Nat → Body σ)

/-- Calls a method, which looks at the object only if it is not static. -/
def Responder.call (a : Responder σ) (o : Object) (r : Request) :
    Attempt σ InvocationError Response :=
  match a with
  | .static body => body.run r
  | .onObject owner body =>
    match receive owner o with
    | .ok key => (body key).run r
    | .error e => throw e

/-- A method that makes an object of another. -/
structure Producer (σ : Type) where
  owner : ObjectType
  product : ObjectType
  produce : Nat → Work σ Nat

/-- Makes an object. -/
def Producer.call (p : Producer σ) (o : Object) : Attempt σ InvocationError Object :=
  match receive p.owner o with
  | .ok key => do return ⟨p.product.id, ← p.produce key⟩
  | .error e => throw e

/-! ## Methods of a table -/

namespace Signature

/-- The method that answers requests, if the signature is one of those. -/
def responder? (owner : ObjectType) : Signature σ → Option (Responder σ)
  | static body => some (.static body)
  | onObject body => some (.onObject owner body)
  | producer _ _ => none

/-- The method that makes objects, if the signature is one of those. -/
def producer? (owner : ObjectType) : Signature σ → Option (Producer σ)
  | producer product produce => some ⟨owner, product, produce⟩
  | _ => none

/-- Whether a method answers requests. -/
def answersRequests : Signature σ → Bool
  | producer _ _ => false
  | _ => true

@[simp] theorem responder?_isSome (owner : ObjectType) (s : Signature σ) :
    (s.responder? owner).isSome = s.answersRequests := by
  cases s <;> rfl

/-- What a report shows of a signature. -/
def summary : Signature σ → String
  | static _ => "static"
  | onObject _ => "instance"
  | producer product _ => "Nullary(-> " ++ product.name ++ ")"

end Signature

namespace TypeTable

/-- The methods of a name that answer requests, in their order. -/
def answering (t : TypeTable σ) (name : String) : List (Method σ) :=
  t.methods.filter fun m => m.name = name && m.signature.answersRequests

/-- What answers requests under a name, in the order of the methods. -/
def responders (t : TypeTable σ) (name : String) : List (Responder σ) :=
  t.methods.filterMap fun m => if m.name = name then m.signature.responder? t.owner else none

/-- The first method of a name that makes objects. -/
def producer? (t : TypeTable σ) (name : String) : Option (Producer σ) :=
  t.methods.findSome? fun m => if m.name = name then m.signature.producer? t.owner else none

/-- Makes an object of the type. -/
def make (t : TypeTable σ) (construct : Work σ Nat) : Work σ Object := do
  return ⟨t.type, ← construct⟩

/-- Calls a method of the table on an object: it answers the request or makes another object. -/
def call (t : TypeTable σ) (m : Method σ) (o : Object) (r : Request) :
    Attempt σ InvocationError (Response ⊕ Object) :=
  match m.signature with
  | .static body => do return .inl (← Responder.call (.static body) o r)
  | .onObject body => do return .inl (← Responder.call (.onObject t.owner body) o r)
  | .producer product produce => do return .inr (← Producer.call ⟨t.owner, product, produce⟩ o)

/-- What a report shows of a table. -/
def summary (t : TypeTable σ) : String :=
  let methods := t.methods.map fun m =>
    "MethodDef \x7b name: " ++ Text.quote m.name ++ ", signature: " ++ m.signature.summary ++
      " \x7d"
  "TypeDef \x7b name: " ++ Text.quote t.name ++ ", constructor: " ++
    toString t.construct.isSome ++ ", methods: [" ++ ", ".intercalate methods ++ "] \x7d"

@[simp] theorem length_responders (t : TypeTable σ) (name : String) :
    (t.responders name).length = (t.answering name).length := by
  rw [responders, answering]
  induction t.methods with
  | nil => rfl
  | cons m ms ih =>
    have hs := m.signature.responder?_isSome t.owner
    by_cases h : m.name = name
    · cases ht : m.signature.responder? t.owner <;> simp_all
    · simp [h, ih]

end TypeTable

end Switchboard
