import Switchboard.Proofs.Dispatch.Resolution

/-!
# Outcomes on their way to the caller

Between the code of an application and the caller of a handler stand the method, which wraps what
the code fails with, the dispatch, and any number of data sources that forward. The code may have
wrapped its error before, as often as it likes. Whatever it did, the caller meets the failure that
the code began with, and a response arrives as it is.

An invocation error has room for one failure only. To tell that wrapping never nests, errors are put
in boxes here, as an application sees them: in a box an invocation error could hold another one.

* `Boxed.wrap`, `Boxed.wrapTimes_succ`: wrapping, and that doing it again changes nothing.
* `InvocationError.boxed_of`: what code failed with becomes an invocation error by wrapping it.
* `Connection.target`, `Connection.answer_eq_target`: the outcome of a request is that of the code.
* `Directory.exists_soleResponder_of_resolve`: the code is that of the method asked for.
* `Handler.behind`, `Handler.handle_behind`: forwarding changes no outcome.
* `Directory.resolve_delivers`: what the caller of a resolved handler meets.
-/

namespace Switchboard

variable {σ : Type}

/-! ## Errors in boxes -/

/-- The type of an error. -/
inductive ErrorType where
  | application (kind : String)
  | unsupportedOperation
  | receiverMismatch
  | invocation
deriving DecidableEq, Repr

/-- The type of a failure. -/
def Failure.type : Failure → ErrorType
  | fault f => .application f.kind
  | unsupported _ _ => .unsupportedOperation
  | receiverMismatch _ => .receiverMismatch

/-- An error of any type; the payload of an invocation error is again one of any type. -/
inductive Boxed where
  | failure (failure : Failure)
  | invocation (payload : Boxed)
deriving DecidableEq, Repr

namespace Boxed

/-- The type of what is in the box. -/
def type : Boxed → ErrorType
  | failure f => f.type
  | invocation _ => .invocation

/-- What is in the box, for one who knows its type. -/
def downcast? (b : Boxed) (type : ErrorType) : Option Boxed :=
  if b.type = type then some b else none

/-- The payload of an invocation error. -/
def payload? : Boxed → Option Boxed
  | failure _ => none
  | invocation payload => some payload

/-- Wraps an error, unless it is an invocation error. -/
def wrap (b : Boxed) : Boxed := (b.downcast? .invocation).getD (.invocation b)

/-- Wraps an error as often as a number says. -/
def wrapTimes : Nat → Boxed → Boxed
  | 0, b => b
  | n + 1, b => (wrapTimes n b).wrap

@[simp] theorem wrap_failure (f : Failure) : (failure f).wrap = invocation (failure f) := by
  cases f <;> rfl

@[simp] theorem wrap_wrap (b : Boxed) : b.wrap.wrap = b.wrap := by
  cases b with
  | failure f => rw [wrap_failure]; rfl
  | invocation payload => rfl

/-- An error that is wrapped several times is wrapped once. -/
@[simp] theorem wrapTimes_succ (n : Nat) (b : Boxed) : wrapTimes (n + 1) b = b.wrap := by
  induction n with
  | zero => rfl
  | succ n ih => rw [wrapTimes, ih, wrap_wrap]

end Boxed

/-- An invocation error in a box. -/
def InvocationError.boxed (e : InvocationError) : Boxed := .invocation (.failure e.failure)

/-- What code failed with, in a box. -/
def Raised.boxed : Raised → Boxed
  | failure f => .failure f
  | invocation e => e.boxed

@[simp]
theorem InvocationError.boxed_of (raised : Raised) : (of raised).boxed = raised.boxed.wrap := by
  cases raised with
  | failure f => exact (Boxed.wrap_failure f).symm
  | invocation e => rfl

/-- An invocation error hands on a failure: it holds the failure itself, under its own type and not
as an invocation error, and says what the failure says. -/
structure InvocationError.HandsOn (e : InvocationError) (f : Failure) : Prop where
  payload_eq : e.boxed.payload? = some (.failure f)
  downcast_eq : e.boxed.payload?.bind (·.downcast? f.type) = some (.failure f)
  not_nested : e.boxed.payload?.bind (·.downcast? .invocation) = none
  message_eq : e.message = f.message
  causes_eq : e.causes = f.causes

theorem InvocationError.handsOn (f : Failure) : HandsOn ⟨f⟩ f where
  payload_eq := rfl
  downcast_eq := if_pos rfl
  not_nested := by cases f <;> rfl
  message_eq := rfl
  causes_eq := rfl

/-- However often the failure was wrapped, the invocation error hands on the failure itself. -/
theorem InvocationError.handsOn_of {raised : Raised} {n : Nat} {f : Failure}
    (h : raised.boxed = .wrapTimes n (.failure f)) : (of raised).HandsOn f := by
  have hof : (of raised).boxed = .invocation (.failure f) := by
    rw [boxed_of, h, ← Boxed.wrapTimes, Boxed.wrapTimes_succ, Boxed.wrap_failure]
  have hf : (of raised).failure = f := Boxed.failure.inj (Boxed.invocation.inj hof)
  rw [← hf]
  exact handsOn _

/-! ## The code that answers -/

/-- The code that answers on an object, if the method looks at one. -/
def Responder.bodyOn (a : Responder σ) (key : Nat) : Body σ :=
  match a with
  | .static body => body
  | .onObject _ body => body key

/-- The method that a connection calls. -/
def Connection.responder : Connection σ → Responder σ
  | .static body => .static body
  | .perRequest _ _ owner body => .onObject owner body
  | .factory _ _ responder => responder
  | .bean _ responder => responder

/-- A request to the code of a connection, which has the object it needs made for it. -/
def Connection.target : Connection σ → Request → Attempt σ Raised Response
  | .static body, r => body r
  | .perRequest _ construct _ body, r => do
    let key ← (construct : Work σ Nat)
    body key r
  | .factory maker producer responder, r => do
    let key ← (producer.produce maker.key : Work σ Nat)
    responder.bodyOn key r
  | .bean object responder, r => responder.bodyOn object.key r

theorem Responder.call_of_accepts {a : Responder σ} {o : Object} (h : a.Accepts o.type)
    (r : Request) : a.call o r = (a.bodyOn o.key).run r := by
  cases a with
  | static body => rfl
  | onObject owner body =>
    rw [call, receive_of_type h]
    rfl

theorem Producer.call_of_type {p : Producer σ} {o : Object} (h : o.type = p.owner.id) :
    p.call o = (do return ⟨p.product.id, ← p.produce o.key⟩) := by
  rw [call, receive_of_type h]

/-- A request is answered by the code, and what the code fails with is wrapped. -/
theorem Connection.answer_eq_target {c : Connection σ} (h : c.IsSound) (r : Request) :
    c.answer r = (c.target r).adapt .of := by
  cases c with
  | static body => rfl
  | perRequest type construct owner body =>
    rw [answer, target, adapt_bind, adapt_lift]
    refine bind_congr fun key => ?_
    exact Responder.call_of_accepts (a := .onObject owner body) (o := ⟨type, key⟩) h r
  | factory maker producer responder =>
    rw [answer, target, adapt_bind, adapt_lift, Producer.call_of_type h.1, bind_assoc]
    refine bind_congr fun key => ?_
    rw [pure_bind]
    exact Responder.call_of_accepts (o := ⟨producer.product.id, key⟩) h.2 r
  | bean object responder => exact Responder.call_of_accepts h r

/-! ## Data sources in front -/

namespace Handler

/-- A handler behind data sources, of which each forwards to the next one. -/
def behind (h : Handler σ) (sources : List DataSource) : Handler σ :=
  sources.foldr (fun d front => ofDataSource d (some front)) h

/-- A handler behind data sources answers as it does itself. -/
theorem handle_behind (h : Handler σ) (sources : List DataSource) (r : Request) :
    (h.behind sources).handle r = h.handle r := by
  induction sources with
  | nil => rfl
  | cons d sources ih => exact (handle_forward d _ r).trans ih

end Handler

/-! ## Outcomes -/

/-- The method of a resolved handler is the one that answers requests under the name asked for, in a
table of the register. -/
theorem Directory.exists_soleResponder_of_resolve {d : Directory σ} (hd : d.types.IsIndexed)
    {id : String} {o : ServerObject} {h : DirectHandler σ} {s s' : σ}
    (hr : (d.resolve id o).run.run s = (.ok h, s')) :
    ∃ name t, d.types.get? name = some t ∧
      t.soleResponder o.method = .ok h.connection.responder := by
  obtain ⟨route, hl, rfl⟩ := resolve_eq_ok hr
  rw [locate] at hl
  split at hl
  · obtain ⟨t, ht, ⟨body, ha, rfl⟩ | ⟨owner, body, construct, ha, -, rfl⟩⟩ := locateNew_eq_ok hl
    · exact ⟨o.target, t, (typeNamed_eq_ok_iff.1 ht).2, ha⟩
    · exact ⟨o.target, t, (typeNamed_eq_ok_iff.1 ht).2, ha⟩
  · obtain ⟨_, _, _, worker, a, -, -, -, hw, ha, rfl⟩ := locateFactory_eq_ok hl
    obtain ⟨name, hw⟩ := exists_holdsOnly_of_typeOf? hd hw
    exact ⟨name, worker, hw.1, ha⟩
  · obtain ⟨_, _, t, a, -, -, ht, ha, rfl⟩ := locateBean_eq_ok hl
    obtain ⟨name, ht⟩ := exists_holdsOnly_of_typeOf? hd ht
    exact ⟨name, t, ht.1, ha⟩

/-- What a resolved handler does reaches the caller as it is, whatever data source the handler bears
and however many data sources stand in front of it. Its code is that of the method asked for. Where
the code fails, the caller meets the failure itself, however often the code wrapped it; where it
answers, the caller gets the response. -/
theorem Directory.resolve_delivers {d : Directory σ} (hd : d.types.Reachable) {id : String}
    {o : ServerObject} {h : DirectHandler σ} {s s' : σ}
    (hr : (d.resolve id o).run.run s = (.ok h, s')) :
    (∃ name t, d.types.get? name = some t ∧
      t.soleResponder o.method = .ok h.connection.responder) ∧
    ∀ (own : Option DataSource) (sources : List DataSource) (r : Request) (start after : σ),
      (∀ raised n f, (h.connection.target r).run.run start = (.error raised, after) →
        raised.boxed = .wrapTimes n (.failure f) →
        ∃ e, ((({ h with dataSource := own }).toHandler.behind sources).handle r).run.run start =
          (.error e, after) ∧ e.HandsOn f) ∧
      ∀ x, (h.connection.target r).run.run start = (.ok x, after) →
        ((({ h with dataSource := own }).toHandler.behind sources).handle r).run.run start =
          (.ok x, after) := by
  refine ⟨exists_soleResponder_of_resolve hd.isIndexed hr, fun own sources r start after => ?_⟩
  have handle : (({ h with dataSource := own }).toHandler.behind sources).handle r =
      (h.connection.target r).adapt .of :=
    (Handler.handle_behind _ sources r).trans
      (Connection.answer_eq_target (resolve_isSound hd.isIndexed hr) r)
  rw [handle]
  refine ⟨fun raised n f ht hf => ?_, fun x ht => attempt_adapt_of_eq_ok ht⟩
  exact ⟨.of raised, attempt_adapt_of_eq_error ht, InvocationError.handsOn_of hf⟩

/-- What a clerk says who was asked to change an order that is locked. -/
def locked : Fault := ⟨"Locked", "order 7 is locked", ["the books are closed"]⟩

/-- An office that has a new clerk for every order; the clerk wraps a refusal twice. -/
def office : Directory Nat where
  types := (TypeRegister.empty.insert
      ⟨"clerk", "Clerk", none, [⟨"change", .onObject fun _ _ =>
        throw (.invocation (.of (.invocation (.of (.failure (.fault locked))))))⟩]⟩).insert
    ⟨"office", "Office", some (return 7),
      [⟨createMethod, .producer "Clerk" fun _ => modifyGet fun n => (n, n + 1)⟩]⟩
  container := none

theorem office_resolve_delivers :
    ∃ h s, (office.resolve "orders" ⟨.factory, "office", "change"⟩).run.run 0 = (.ok h, s) ∧
      ∃ e, ((h.toHandler.behind [.new "front", .new "gate"]).handle (.fetch "orders")).run.run s =
        (.error e, 1) ∧ e.HandsOn (.fault locked) := by
  have hd : office.types.Reachable := .insert _ (.insert _ .empty)
  obtain ⟨h, s, hr, ht⟩ : ∃ h s,
      (office.resolve "orders" ⟨.factory, "office", "change"⟩).run.run 0 = (.ok h, s) ∧
      (h.connection.target (.fetch "orders")).run.run s =
        (.error (.invocation (.of (.invocation (.of (.failure (.fault locked)))))), 1) :=
    ⟨_, _, rfl, rfl⟩
  refine ⟨h, s, hr, ?_⟩
  have delivered := (Directory.resolve_delivers hd hr).2 h.dataSource [.new "front", .new "gate"]
    (.fetch "orders") s 1
  exact delivered.1 _ 2 (.fault locked) ht rfl

end Switchboard
