import Switchboard.Dispatch.Route

/-!
# Connections to code

A server object is resolved once, into a handler that looks nothing up again. Its route is located
first; only a factory needs one object more, which is made when nothing can fail any longer. The
connection that comes of it answers every request in the same way.

* `Directory.resolve_of_locate_error`: a failing resolution does no work.
* `Directory.resolve_eq_ok`: what a resolution that succeeds gives.
-/

namespace Switchboard

variable {σ : Type}

/-- How a resolved handler reaches its code. -/
inductive Connection (σ : Type) where
  /-- The method needs no object. -/
  | static (body : Body σ)
  /-- Every request has an object made for it. -/
  | perRequest (type : TypeId) (construct : Work σ Nat) (owner : ObjectType) (body : Nat → Body σ)
  /-- Every request has an object made for it by the factory. -/
  | factory (factory : Object) (producer : Producer σ) (responder : Responder σ)
  /-- All requests share the object. -/
  | bean (object : Object) (responder : Responder σ)

/-- Makes the object that a factory needs, and nothing for any other route. -/
def Route.prepare : Route σ → Work σ (Connection σ)
  | .static body => return .static body
  | .perRequest type construct owner body => return .perRequest type construct owner body
  | .factory type construct producer responder => do
    return .factory ⟨type, ← construct⟩ producer responder
  | .bean object responder => return .bean object responder

/-- Answers a request by the code that was found. -/
def Connection.answer : Connection σ → Request → Attempt σ InvocationError Response
  | .static body, r => body.run r
  | .perRequest type construct owner body, r => do
    let key ← (construct : Work σ Nat)
    Responder.call (.onObject owner body) ⟨type, key⟩ r
  | .factory maker producer responder, r => do
    responder.call (← producer.call maker) r
  | .bean object responder, r => responder.call object r

/-- A handler that reaches its code by a server object; it may bear a data source. -/
structure DirectHandler (σ : Type) where
  id : String
  serverObject : ServerObject
  connection : Connection σ
  dataSource : Option DataSource

namespace DirectHandler

/-- The handler among others. -/
def toHandler (h : DirectHandler σ) : Handler σ := ⟨h.id, h.dataSource, h.connection.answer⟩

/-- The handler, bearing a data source. -/
def bearing (h : DirectHandler σ) (d : DataSource) : DirectHandler σ :=
  { h with dataSource := some d }

/-- What a report shows of the handler. -/
def summary (h : DirectHandler σ) : String :=
  let dataSource := match h.dataSource with
    | some d => "Some(" ++ Text.quote d.id ++ ")"
    | none => "None"
  "DmiHandler \x7b id: " ++ Text.quote h.id ++ ", descriptor: " ++ h.serverObject.summary ++
    ", data_source: " ++ dataSource ++ " \x7d"

end DirectHandler

/-- Resolves a server object into a handler registered under an id. -/
def Directory.resolve (d : Directory σ) (id : String) (o : ServerObject) :
    Attempt σ ResolutionError (DirectHandler σ) :=
  match d.locate o with
  | .error e => throw e
  | .ok route => do return ⟨id, o, ← (route.prepare : Work σ (Connection σ)), none⟩

theorem Directory.resolve_of_locate_error {d : Directory σ} {id : String} {o : ServerObject}
    {e : ResolutionError} (h : d.locate o = .error e) (s : σ) :
    (d.resolve id o).run.run s = (.error e, s) := by
  rw [resolve, h]
  rfl

/-- What a server object is resolved into. -/
theorem Directory.resolve_eq_ok {d : Directory σ} {id : String} {o : ServerObject} {s s' : σ}
    {h : DirectHandler σ} (hr : (d.resolve id o).run.run s = (.ok h, s')) :
    ∃ route, d.locate o = .ok route ∧ h = ⟨id, o, (route.prepare.run s).1, none⟩ := by
  unfold resolve at hr
  cases hl : d.locate o with
  | error e =>
    rw [hl] at hr
    cases hr
  | ok route =>
    rw [hl] at hr
    have hh : Except.ok (⟨id, o, (route.prepare.run s).1, none⟩ : DirectHandler σ) = .ok h :=
      congrArg Prod.fst hr
    exact ⟨route, rfl, (Except.ok.inj hh).symm⟩

end Switchboard
