import Switchboard.Dispatch.Connection
import Switchboard.Proofs.Dispatch.Receivers

/-!
# Watched code

To tell how often the code of an application runs, and on which objects, the code is watched: every
constructor, every method that makes objects and every method that is called on an object leaves an
event beside the state. The dispatch stays as it is: it is the same for watched code, since it is
written for code over states of any kind. Watched code does what it did before, so what is seen of
it is what happens.

* `Event`, `Watched`: what is seen, and where it is kept.
* `Directory.watched`: a directory with all its code watched.
* `Directory.locate_watched`: watched code is located as the code itself is.
* `Route.run_prepare_watched`, `Connection.run_answer_watched`: what is seen while a handler is
  made, and while it answers.
-/

namespace Switchboard

variable {σ : Type}

/-- What is seen of the code of an application. -/
inductive Event where
  /-- A constructor made an object. -/
  | constructed (object : Object)
  /-- A method of a name made an object of another one. -/
  | produced (method : String) (maker product : Object)
  /-- A method was called on an object. -/
  | called (receiver : Object)
deriving DecidableEq, Repr

/-- A state of an application, and the events up to it. -/
structure Watched (σ : Type) where
  state : σ
  events : List Event

/-! ## Watching -/

/-- Work that makes something, and leaves an event that tells what. -/
def watchWork {α : Type} (event : α → Event) (w : Work σ α) : Work (Watched σ) α := fun s =>
  ((w.run s.state).1, ⟨(w.run s.state).2, s.events ++ [event (w.run s.state).1]⟩)

/-- Work that starts with some events and leaves no others. -/
def watchAttempt {ε α : Type} (events : List Event) (x : Attempt σ ε α) :
    Attempt (Watched σ) ε α :=
  .mk fun s => ((x.run.run s.state).1, ⟨(x.run.run s.state).2, s.events ++ events⟩)

/-- A constructor of a type, watched. -/
def watchConstruct (type : TypeId) (construct : Work σ Nat) : Work (Watched σ) Nat :=
  watchWork (fun key => .constructed ⟨type, key⟩) construct

/-- The code of a method that makes objects, watched. -/
def watchProduce (name : String) (owner product : ObjectType) (produce : Nat → Work σ Nat) :
    Nat → Work (Watched σ) Nat :=
  fun key => watchWork (fun made => .produced name ⟨owner.id, key⟩ ⟨product.id, made⟩) (produce key)

/-- A body that needs no object, watched: there is nothing to be seen. -/
def watchStatic (body : Body σ) : Body (Watched σ) := fun r => watchAttempt [] (body r)

/-- A body that is called on objects of a type, watched. -/
def watchOnObject (owner : ObjectType) (body : Nat → Body σ) : Nat → Body (Watched σ) :=
  fun key r => watchAttempt [.called ⟨owner.id, key⟩] (body key r)

/-- The signature of a method of a name, its code watched. -/
def Signature.watched (owner : ObjectType) (name : String) : Signature σ → Signature (Watched σ)
  | static body => static (watchStatic body)
  | onObject body => onObject (watchOnObject owner body)
  | producer product produce => producer product (watchProduce name owner product produce)

/-- A table, its code watched. -/
def TypeTable.watched (t : TypeTable σ) : TypeTable (Watched σ) where
  name := t.name
  owner := t.owner
  construct := t.construct.map (watchConstruct t.type)
  methods := t.methods.map fun m => ⟨m.name, m.signature.watched t.owner m.name⟩

/-- A register, the code of all its tables watched. -/
def TypeRegister.watched (r : TypeRegister σ) : TypeRegister (Watched σ) :=
  ⟨r.tables.map fun _ t => t.watched, r.names, r.contested⟩

/-- A directory, the code of all its tables watched. -/
def Directory.watched (d : Directory σ) : Directory (Watched σ) := ⟨d.types.watched, d.container⟩

/-! ## Where watched code is located -/

/-- A method that answers requests, watched. -/
def Responder.watched : Responder σ → Responder (Watched σ)
  | static body => static (watchStatic body)
  | onObject owner body => onObject owner (watchOnObject owner body)

/-- A method of a name that makes objects, watched. -/
def Producer.watched (name : String) (p : Producer σ) : Producer (Watched σ) :=
  ⟨p.owner, p.product, watchProduce name p.owner p.product p.produce⟩

/-- A route to watched code. -/
def Route.watched : Route σ → Route (Watched σ)
  | .static body => .static (watchStatic body)
  | .perRequest type construct owner body =>
    .perRequest type (watchConstruct type construct) owner (watchOnObject owner body)
  | .factory type construct producer responder =>
    .factory type (watchConstruct type construct) (producer.watched createMethod) responder.watched
  | .bean object responder => .bean object responder.watched

namespace TypeTable

@[simp] theorem responders_watched (t : TypeTable σ) (method : String) :
    t.watched.responders method = (t.responders method).map Responder.watched := by
  rw [responders, responders, watched, List.filterMap_map, List.map_filterMap]
  congr 1
  funext m
  by_cases hm : m.name = method
  · cases hs : m.signature <;>
      simp [hm, hs, Signature.responder?, Signature.watched, Responder.watched]
  · simp [hm]

@[simp] theorem soleResponder_watched (t : TypeTable σ) (method : String) :
    t.watched.soleResponder method = (t.soleResponder method).map Responder.watched := by
  rw [soleResponder, soleResponder, responders_watched]
  match t.responders method with
  | [] => rfl
  | [a] => rfl
  | a :: b :: l => simp [Except.map, watched]

@[simp] theorem producer?_watched (t : TypeTable σ) (name : String) :
    t.watched.producer? name = (t.producer? name).map (Producer.watched name) := by
  rw [producer?, producer?, watched, List.findSome?_map, List.map_findSome?]
  congr 1
  funext m
  by_cases hm : m.name = name
  · cases hs : m.signature <;>
      simp [hm, hs, Signature.producer?, Signature.watched, Producer.watched]
  · simp [hm]

end TypeTable

@[simp] theorem TypeRegister.get?_watched (r : TypeRegister σ) (name : String) :
    r.watched.get? name = (r.get? name).map TypeTable.watched :=
  Std.ExtTreeMap.getElem?_map

namespace Directory

@[simp] theorem typeNamed_watched (d : Directory σ) (name : String) :
    d.watched.typeNamed name = (d.typeNamed name).map TypeTable.watched := by
  have hc : d.watched.types.isContested name = d.types.isContested name := rfl
  rw [typeNamed, typeNamed, hc]
  split
  · rfl
  · rw [show d.watched.types = d.types.watched from rfl, TypeRegister.get?_watched]
    cases d.types.get? name <;> rfl

@[simp] theorem typeOf?_watched (d : Directory σ) (type : TypeId) (subject : String) :
    d.watched.typeOf? type subject =
      (d.typeOf? type subject).map (Option.map TypeTable.watched) := by
  have hn : d.watched.types.namesOf type = d.types.namesOf type := rfl
  rw [typeOf?, typeOf?, hn]
  split
  · rfl
  · exact congrArg Except.ok (d.types.get?_watched _)
  · rfl

theorem locateNew_watched (d : Directory σ) (o : ServerObject) :
    d.watched.locateNew o = (d.locateNew o).map Route.watched := by
  rw [locateNew, locateNew, typeNamed_watched]
  cases d.typeNamed o.target with
  | error e => rfl
  | ok t =>
    simp only [Except.map, bind, Except.bind, TypeTable.soleResponder_watched]
    cases t.soleResponder o.method with
    | error e => rfl
    | ok a =>
      cases a with
      | static body => rfl
      | onObject owner body =>
        simp only [Responder.watched, TypeTable.watched]
        cases t.construct <;> rfl

theorem locateFactory_watched (d : Directory σ) (o : ServerObject) :
    d.watched.locateFactory o = (d.locateFactory o).map Route.watched := by
  rw [locateFactory, locateFactory, typeNamed_watched]
  cases d.typeNamed o.target with
  | error e => rfl
  | ok t =>
    simp only [Except.map, bind, Except.bind, TypeTable.producer?_watched]
    cases hc : t.construct with
    | none => simp only [TypeTable.watched, hc]; rfl
    | some construct =>
      cases hp : t.producer? createMethod with
      | none => simp only [TypeTable.watched, hc]; rfl
      | some producer =>
        simp only [TypeTable.watched, hc, Option.map_some, Producer.watched, typeOf?_watched]
        cases d.typeOf? producer.product.id producer.product.name with
        | error e => rfl
        | ok found =>
          cases found with
          | none => rfl
          | some worker =>
            simp only [Except.map, Option.map_some, TypeTable.soleResponder_watched]
            cases worker.soleResponder o.method <;> rfl

theorem locateBean_watched (d : Directory σ) (o : ServerObject) :
    d.watched.locateBean o = (d.locateBean o).map Route.watched := by
  rw [locateBean, locateBean, show d.watched.container = d.container from rfl]
  cases d.container with
  | none => rfl
  | some container =>
    cases ho : container o.target with
    | none => simp only [ho]; rfl
    | some object =>
      simp only [ho, Except.map, bind, Except.bind, typeOf?_watched]
      cases d.typeOf? object.type o.target with
      | error e => rfl
      | ok found =>
        cases found with
        | none => rfl
        | some t =>
          simp only [Except.map, Option.map_some, TypeTable.soleResponder_watched]
          cases t.soleResponder o.method <;> rfl

/-- Watched code is located where the code itself is, and fails to be located for the same reason.
-/
@[simp] theorem locate_watched (d : Directory σ) (o : ServerObject) :
    d.watched.locate o = (d.locate o).map Route.watched := by
  rw [locate, locate]
  cases o.lookup with
  | new => exact d.locateNew_watched o
  | factory => exact d.locateFactory_watched o
  | bean => exact d.locateBean_watched o

end Directory

/-! ## What is seen of it -/

/-- A connection to watched code. -/
def Connection.watched : Connection σ → Connection (Watched σ)
  | .static body => .static (watchStatic body)
  | .perRequest type construct owner body =>
    .perRequest type (watchConstruct type construct) owner (watchOnObject owner body)
  | .factory maker producer responder =>
    .factory maker (producer.watched createMethod) responder.watched
  | .bean object responder => .bean object responder.watched

/-- A handler that reaches watched code. -/
def DirectHandler.watched (h : DirectHandler σ) : DirectHandler (Watched σ) :=
  ⟨h.id, h.serverObject, h.connection.watched, h.dataSource⟩

/-- What is seen while a connection is made. -/
def Connection.made : Connection σ → List Event
  | .factory maker _ _ => [.constructed maker]
  | _ => []

/-- What is seen while a method is called on an object. -/
def Responder.seen (object : Object) : Responder σ → List Event
  | .static _ => []
  | .onObject _ _ => [.called object]

/-- What is seen while a connection answers, from the state on. -/
def Connection.seen (s : σ) : Connection σ → List Event
  | .static _ => []
  | .perRequest type construct _ _ =>
    [.constructed ⟨type, (construct.run s).1⟩, .called ⟨type, (construct.run s).1⟩]
  | .factory maker producer responder =>
    .produced createMethod maker ⟨producer.product.id, ((producer.produce maker.key).run s).1⟩ ::
      responder.seen ⟨producer.product.id, ((producer.produce maker.key).run s).1⟩
  | .bean object responder => responder.seen object

theorem Route.run_prepare_watched (route : Route σ) (s : σ) (log : List Event) :
    route.watched.prepare.run ⟨s, log⟩ =
      ((route.prepare.run s).1.watched,
        ⟨(route.prepare.run s).2, log ++ (route.prepare.run s).1.made⟩) := by
  cases route with
  | factory => rfl
  | _ => exact congrArg (fun l => (_, Watched.mk s l)) (List.append_nil log).symm

theorem run_adapt_watchAttempt {ε ε' α : Type} (f : ε → ε') (x : Attempt σ ε α)
    (events : List Event) (s : σ) (log : List Event) :
    ((watchAttempt events x).adapt f).run.run ⟨s, log⟩ =
      (((x.adapt f).run.run s).1, ⟨((x.adapt f).run.run s).2, log ++ events⟩) := rfl

/-- A method that may be called on an object does what it did, and is seen to be called. -/
theorem Responder.run_call_watched {a : Responder σ} {o : Object} (h : a.Accepts o.type)
    (r : Request) (s : σ) (log : List Event) :
    (a.watched.call o r).run.run ⟨s, log⟩ =
      (((a.call o r).run.run s).1, ⟨((a.call o r).run.run s).2, log ++ a.seen o⟩) := by
  cases a with
  | static body => exact run_adapt_watchAttempt _ (body r) [] s log
  | onObject owner body =>
    have hr : receive owner o = .ok o.key := if_pos h
    simp only [watched, call, hr]
    have ho : (⟨owner.id, o.key⟩ : Object) = o := by rw [← show o.type = owner.id from h]
    exact ho ▸ run_adapt_watchAttempt _ (body o.key r) [.called ⟨owner.id, o.key⟩] s log

/-- A sound connection to watched code answers as the one to the code itself. -/
theorem Connection.run_answer_watched {c : Connection σ} (h : c.IsSound) (r : Request) (s : σ)
    (log : List Event) :
    (c.watched.answer r).run.run ⟨s, log⟩ =
      (((c.answer r).run.run s).1, ⟨((c.answer r).run.run s).2, log ++ c.seen s⟩) := by
  cases c with
  | static body => exact run_adapt_watchAttempt _ (body r) [] s log
  | bean object responder => exact Responder.run_call_watched h r s log
  | perRequest type construct owner body =>
    have hc := Responder.run_call_watched (a := .onObject owner body)
      (o := ⟨type, (construct.run s).1⟩) h r (construct.run s).2
      (log ++ [.constructed ⟨type, (construct.run s).1⟩])
    rw [List.append_assoc] at hc
    exact hc
  | factory maker producer responder =>
    obtain ⟨hm, ha⟩ := h
    have hr : receive producer.owner maker = .ok maker.key := if_pos hm
    have hr' : receive (producer.watched createMethod).owner maker = .ok maker.key := hr
    have hw : (producer.watched createMethod).produce maker.key =
        watchWork (fun made => .produced createMethod maker ⟨producer.product.id, made⟩)
          (producer.produce maker.key) := by
      show watchWork (fun made => .produced _ ⟨producer.owner.id, maker.key⟩ _) _ = _
      rw [← hm]
    have hc := Responder.run_call_watched
      (o := ⟨producer.product.id, ((producer.produce maker.key).run s).1⟩) ha r
      ((producer.produce maker.key).run s).2
      (log ++ [.produced createMethod maker
        ⟨producer.product.id, ((producer.produce maker.key).run s).1⟩])
    rw [List.append_assoc] at hc
    simp only [watched, answer, Producer.call, hr, hr', hw]
    exact hc

end Switchboard
