import Switchboard.Dispatch.Connection
import Switchboard.Proofs.Attempts
import Switchboard.Proofs.Dispatch.NameIndex

/-!
# The objects that methods are called on

A method of a table is written for objects of one type, and the object it is called on comes from
elsewhere: from a constructor, from a factory, from a container. Each call checks its type first.
Here the check of the dispatch is told apart from failures of the application's own code, which may
well report a mismatch too, and it is shown that the check never fails on what a resolved server
object is connected to.

* `Stop`, `Connection.attempt`: a request answered with the two ends of a call told apart.
* `Connection.answer_eq`: telling them apart changes no answer.
* `Connection.IsSound`: what is handed to a method has the type that the method is written for.
* `Directory.locateNew_eq_ok`, `Directory.locateFactory_eq_ok`, `Directory.locateBean_eq_ok`: what
  was found where a route is located.
* `Directory.locate_isSound`: the routes that are located are sound, where the register is indexed.
* `Directory.resolve_never_mismatches`: no request to a resolved handler ends at a check.
-/

namespace Switchboard

variable {σ : Type}

/-! ## Where a call ends -/

/-- What ends a call without a response: the check of the object that a method is called on, or the
code of the method. -/
inductive Stop where
  | mismatch (expected : String)
  | code (raised : Raised)
deriving DecidableEq, Repr

/-- What is reported of the end of a call. -/
def Stop.error : Stop → InvocationError
  | mismatch expected => ⟨.receiverMismatch expected⟩
  | code raised => .of raised

/-- Calls a method, telling the check apart from the code. -/
def Responder.attempt (a : Responder σ) (o : Object) (r : Request) : Attempt σ Stop Response :=
  match a with
  | .static body => (body r).adapt .code
  | .onObject owner body =>
    if o.type = owner.id then (body o.key r).adapt .code else throw (.mismatch owner.name)

/-- Makes an object, unless the check fails. -/
def Producer.attempt (p : Producer σ) (o : Object) : Attempt σ Stop Object :=
  if o.type = p.owner.id then do return ⟨p.product.id, ← p.produce o.key⟩
  else throw (.mismatch p.owner.name)

/-- Answers a request, telling the checks apart from the code. -/
def Connection.attempt : Connection σ → Request → Attempt σ Stop Response
  | .static body, r => (body r).adapt .code
  | .perRequest type construct owner body, r => do
    let key ← (construct : Work σ Nat)
    Responder.attempt (.onObject owner body) ⟨type, key⟩ r
  | .factory maker producer responder, r => do
    responder.attempt (← producer.attempt maker) r
  | .bean object responder, r => responder.attempt object r

/-! ## Telling the ends apart changes nothing -/

theorem Body.run_eq (body : Body σ) (r : Request) :
    body.run r = ((body r).adapt Stop.code).adapt Stop.error := by
  rw [adapt_adapt]
  rfl

theorem Responder.call_eq (a : Responder σ) (o : Object) (r : Request) :
    a.call o r = (a.attempt o r).adapt Stop.error := by
  cases a with
  | static body => exact Body.run_eq body r
  | onObject owner body =>
    unfold call attempt receive
    by_cases h : o.type = owner.id
    · simp only [h, if_pos]
      exact Body.run_eq (body o.key) r
    · simp only [h, if_false]
      rfl

theorem Producer.call_eq (p : Producer σ) (o : Object) :
    p.call o = (p.attempt o).adapt Stop.error := by
  unfold call attempt receive
  by_cases h : o.type = p.owner.id
  · simp only [h, if_pos]
    rw [adapt_bind, adapt_lift]
    rfl
  · simp only [h, if_false]
    rfl

theorem Connection.answer_eq (c : Connection σ) (r : Request) :
    c.answer r = (c.attempt r).adapt Stop.error := by
  cases c with
  | static body => exact Body.run_eq body r
  | perRequest type construct owner body =>
    simp only [answer, attempt, adapt_bind, adapt_lift, Responder.call_eq]
  | factory maker producer responder =>
    simp only [answer, attempt, adapt_bind, Responder.call_eq, Producer.call_eq]
  | bean object responder => exact Responder.call_eq responder object r

/-! ## Calls that never end at the check -/

/-- Whatever state the work starts in, it does not end at a check. -/
def PassesChecks {α : Type} (x : Attempt σ Stop α) : Prop :=
  ∀ s expected, (x.run.run s).1 ≠ .error (.mismatch expected)

theorem passesChecks_code {α : Type} (x : Attempt σ Raised α) : PassesChecks (x.adapt .code) := by
  intro s expected h
  rw [ExceptT.run_adapt, StateT.run_map] at h
  generalize x.run.run s = out at h
  obtain ⟨out | out, s'⟩ := out <;> cases h

theorem PassesChecks.bind_lift {α β : Type} (x : Work σ α) {k : α → Attempt σ Stop β}
    (h : ∀ a, PassesChecks (k a)) : PassesChecks ((x : Attempt σ Stop α) >>= k) :=
  fun s expected => h (x.run s).1 (x.run s).2 expected

/-- A method may be called on objects of a type. -/
def Responder.Accepts (type : TypeId) : Responder σ → Prop
  | .static _ => True
  | .onObject owner _ => type = owner.id

theorem Responder.Accepts.passesChecks {a : Responder σ} {o : Object} (h : a.Accepts o.type)
    (r : Request) : PassesChecks (a.attempt o r) := by
  cases a with
  | static body => exact passesChecks_code (body r)
  | onObject owner body =>
    rw [attempt, if_pos (show o.type = owner.id from h)]
    exact passesChecks_code (body o.key r)

/-- What is handed to a method has the type that the method is written for. -/
def Connection.IsSound : Connection σ → Prop
  | .static _ => True
  | .perRequest type _ owner _ => type = owner.id
  | .factory maker producer responder =>
    maker.type = producer.owner.id ∧ responder.Accepts producer.product.id
  | .bean object responder => responder.Accepts object.type

theorem Connection.IsSound.passesChecks {c : Connection σ} (h : c.IsSound) (r : Request) :
    PassesChecks (c.attempt r) := by
  cases c with
  | static body => exact passesChecks_code (body r)
  | perRequest type construct owner body =>
    refine PassesChecks.bind_lift construct fun key => ?_
    exact Responder.Accepts.passesChecks (a := .onObject owner body) (o := ⟨type, key⟩) h r
  | factory maker producer responder =>
    -- The factory makes the object that the method is called on, of the type it declares.
    have hp : producer.attempt maker =
        ((producer.produce maker.key : Work σ Nat) : Attempt σ Stop Nat) >>=
          fun key => pure ⟨producer.product.id, key⟩ := if_pos h.1
    rw [Connection.attempt, hp, bind_assoc]
    refine PassesChecks.bind_lift _ fun key => ?_
    rw [pure_bind]
    exact Responder.Accepts.passesChecks (o := ⟨producer.product.id, key⟩) h.2 r
  | bean object responder => exact Responder.Accepts.passesChecks h r

/-! ## Resolved server objects -/

theorem TypeTable.accepts_of_soleResponder {t : TypeTable σ} {method : String} {a : Responder σ}
    (h : t.soleResponder method = .ok a) : a.Accepts t.type := by
  have ha : a ∈ t.responders method := by
    rw [soleResponder_eq_ok_iff.1 h]
    exact List.mem_singleton_self a
  obtain ⟨m, -, hm⟩ := List.mem_filterMap.1 ha
  split at hm
  · cases hs : m.signature with
    | static body => rw [hs] at hm; cases hm; trivial
    | onObject body => rw [hs] at hm; cases hm; rfl
    | producer product produce => rw [hs] at hm; cases hm
  · cases hm

theorem TypeTable.owner_of_producer? {t : TypeTable σ} {name : String} {p : Producer σ}
    (h : t.producer? name = some p) : p.owner = t.owner := by
  obtain ⟨m, -, hm⟩ := List.exists_of_findSome?_eq_some h
  split at hm
  · cases hs : m.signature with
    | static body => rw [hs] at hm; cases hm
    | onObject body => rw [hs] at hm; cases hm
    | producer product produce => rw [hs] at hm; cases hm; rfl
  · cases hm

namespace Directory

variable {d : Directory σ}

/-- The one table of a type is a table of that type. -/
theorem type_of_typeOf? (hd : d.types.IsIndexed) {type : TypeId} {subject : String}
    {t : TypeTable σ} (h : d.typeOf? type subject = .ok (some t)) : t.type = type := by
  unfold typeOf? at h
  split at h
  · cases h
  · next name hn =>
    have hm : name ∈ d.types.names.namesOf type := by
      rw [← Std.ExtTreeSet.mem_toList]
      show name ∈ d.types.namesOf type
      rw [hn]
      exact List.mem_singleton_self name
    obtain ⟨u, hu, ht⟩ := (hd type name).1 hm
    rw [hu] at h
    cases h
    exact ht
  · cases h

theorem locateNew_eq_ok {o : ServerObject} {route : Route σ} (h : d.locateNew o = .ok route) :
    ∃ t, d.typeNamed o.target = .ok t ∧
      ((∃ body, t.soleResponder o.method = .ok (.static body) ∧ route = .static body) ∨
        ∃ owner body construct, t.soleResponder o.method = .ok (.onObject owner body) ∧
          t.construct = some construct ∧ route = .perRequest t.type construct owner body) := by
  unfold locateNew at h
  obtain ⟨t, ht, h⟩ := except_bind_eq_ok h
  obtain ⟨a, ha, h⟩ := except_bind_eq_ok h
  refine ⟨t, ht, ?_⟩
  cases a with
  | static body =>
    cases h
    exact .inl ⟨body, ha, rfl⟩
  | onObject owner body =>
    cases hc : t.construct with
    | none => simp only [hc] at h; cases h
    | some construct =>
      simp only [hc] at h
      cases h
      exact .inr ⟨owner, body, construct, ha, rfl, rfl⟩

theorem locateFactory_eq_ok {o : ServerObject} {route : Route σ}
    (h : d.locateFactory o = .ok route) :
    ∃ t construct producer worker a, d.typeNamed o.target = .ok t ∧ t.construct = some construct ∧
      t.producer? createMethod = some producer ∧
      d.typeOf? producer.product.id producer.product.name = .ok (some worker) ∧
      worker.soleResponder o.method = .ok a ∧ route = .factory t.type construct producer a := by
  unfold locateFactory at h
  obtain ⟨t, ht, h⟩ := except_bind_eq_ok h
  split at h
  · next construct hc =>
    split at h
    · next producer hp =>
      obtain ⟨found, hw, h⟩ := except_bind_eq_ok h
      cases found with
      | none => cases h
      | some worker =>
        obtain ⟨a, ha, h⟩ := except_bind_eq_ok h
        cases h
        exact ⟨t, construct, producer, worker, a, ht, hc, hp, hw, ha, rfl⟩
    · cases h
  · cases h

theorem locateBean_eq_ok {o : ServerObject} {route : Route σ} (h : d.locateBean o = .ok route) :
    ∃ container object t a, d.container = some container ∧ container o.target = some object ∧
      d.typeOf? object.type o.target = .ok (some t) ∧ t.soleResponder o.method = .ok a ∧
      route = .bean object a := by
  unfold locateBean at h
  split at h
  · next container hc =>
    split at h
    · next object ho =>
      obtain ⟨found, ht, h⟩ := except_bind_eq_ok h
      cases found with
      | none => cases h
      | some t =>
        obtain ⟨a, ha, h⟩ := except_bind_eq_ok h
        cases h
        exact ⟨container, object, t, a, hc, ho, ht, ha, rfl⟩
    · cases h
  · cases h

theorem locateNew_isSound {o : ServerObject} {route : Route σ} (h : d.locateNew o = .ok route)
    (s : σ) : (route.prepare.run s).1.IsSound := by
  obtain ⟨t, -, ⟨body, -, rfl⟩ | ⟨owner, body, construct, ha, -, rfl⟩⟩ := locateNew_eq_ok h
  · trivial
  · exact TypeTable.accepts_of_soleResponder ha

theorem locateFactory_isSound (hd : d.types.IsIndexed) {o : ServerObject} {route : Route σ}
    (h : d.locateFactory o = .ok route) (s : σ) : (route.prepare.run s).1.IsSound := by
  obtain ⟨t, construct, producer, worker, a, -, -, hp, hw, ha, rfl⟩ := locateFactory_eq_ok h
  refine ⟨(congrArg ObjectType.id (TypeTable.owner_of_producer? hp)).symm, ?_⟩
  rw [← type_of_typeOf? hd hw]
  exact TypeTable.accepts_of_soleResponder ha

theorem locateBean_isSound (hd : d.types.IsIndexed) {o : ServerObject} {route : Route σ}
    (h : d.locateBean o = .ok route) (s : σ) : (route.prepare.run s).1.IsSound := by
  obtain ⟨container, object, t, a, -, -, ht, ha, rfl⟩ := locateBean_eq_ok h
  show Responder.Accepts object.type a
  rw [← type_of_typeOf? hd ht]
  exact TypeTable.accepts_of_soleResponder ha

/-- What is prepared on a route that was located is sound. -/
theorem locate_isSound (hd : d.types.IsIndexed) {o : ServerObject} {route : Route σ}
    (h : d.locate o = .ok route) (s : σ) : (route.prepare.run s).1.IsSound := by
  unfold locate at h
  split at h
  · exact locateNew_isSound h s
  · exact locateFactory_isSound hd h s
  · exact locateBean_isSound hd h s

theorem resolve_isSound (hd : d.types.IsIndexed) {id : String} {o : ServerObject}
    {h : DirectHandler σ} {s s' : σ} (hr : (d.resolve id o).run.run s = (.ok h, s')) :
    h.connection.IsSound := by
  obtain ⟨route, hl, rfl⟩ := resolve_eq_ok hr
  exact locate_isSound hd hl s

end Directory

/-- The state that a row of requests to a handler leaves behind, whatever their outcomes. -/
def Handler.stateAfter (h : Handler σ) (requests : List Request) (s : σ) : σ :=
  requests.foldl (fun s r => ((h.handle r).run.run s).2) s

/-- The dispatch of a resolved handler never fails for the type of an object: what is handed to a
method has the type that the method is written for; telling the checks apart from the code changes
nothing of the answers; and whatever was answered before, no request ends at a check. -/
theorem Directory.resolve_never_mismatches {d : Directory σ} (hd : d.types.Reachable) {id : String}
    {o : ServerObject} {h : DirectHandler σ} {s s' : σ}
    (hr : (d.resolve id o).run.run s = (.ok h, s')) :
    h.connection.IsSound ∧
    (∀ r, h.toHandler.handle r = (h.connection.attempt r).adapt Stop.error) ∧
    ∀ (earlier : List Request) (start : σ) (r : Request) (expected : String),
      ((h.connection.attempt r).run.run (h.toHandler.stateAfter earlier start)).1 ≠
        .error (.mismatch expected) := by
  have hs := resolve_isSound hd.isIndexed hr
  exact ⟨hs, h.connection.answer_eq, fun _ _ r => hs.passesChecks r _⟩

/-- A factory that makes numbered workers, whose own code complains of a mismatch. -/
def workshop : Directory Nat where
  types := (TypeRegister.empty.insert
      ⟨"worker", "Worker", none,
        [⟨"work", .onObject fun _ _ => throw (.failure (.receiverMismatch "Tool"))⟩]⟩).insert
    ⟨"factory", "Factory", some (return 7),
      [⟨createMethod, .producer "Worker" fun _ => modifyGet fun n => (n, n + 1)⟩]⟩
  container := none

theorem workshop_never_mismatches :
    ∃ h s, (workshop.resolve "w" ⟨.factory, "factory", "work"⟩).run.run 0 = (.ok h, s) ∧
      ∀ expected, ((h.connection.attempt (.fetch "w")).run.run
        (h.toHandler.stateAfter [.fetch "w", .fetch "w"] s)).1 ≠ .error (.mismatch expected) := by
  have hd : workshop.types.Reachable := .insert _ (.insert _ .empty)
  obtain ⟨h, s, hr⟩ : ∃ h s,
      (workshop.resolve "w" ⟨.factory, "factory", "work"⟩).run.run 0 = (.ok h, s) := ⟨_, _, rfl⟩
  exact ⟨h, s, hr, (Directory.resolve_never_mismatches hd hr).2.2 _ _ _⟩

end Switchboard
