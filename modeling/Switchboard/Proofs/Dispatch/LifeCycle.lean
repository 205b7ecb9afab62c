import Switchboard.Proofs.Dispatch.Sessions

/-!
# The objects of a run

What is seen of the code of the application while a program is at work follows rules: they say when
a constructor runs, when a factory makes an object and which factory does, and which object a method
is called on.

* `Directory.Foresees`: the rules.
* `Directory.leads_of_locate`: what is located is of the kind that was asked for.
* `Directory.foresees_step`, `Directory.Session.IsRecorded.step`: an act follows the rules, and
  keeps up the record of the handlers.
* `Directory.history_foreseen`: a run follows them, and how often constructors and factories work.
-/

namespace Switchboard

variable {σ : Type}

/-! ## Methods that need an object -/

/-- Whether a method is called on an object. -/
def Responder.needsObject : Responder σ → Bool
  | .static _ => false
  | .onObject _ _ => true

/-- Whether the method that a route leads to is called on an object. -/
def Route.needsObject : Route σ → Bool
  | .static _ => false
  | .perRequest _ _ _ _ => true
  | .factory _ _ _ responder => responder.needsObject
  | .bean _ responder => responder.needsObject

namespace Directory

/-- The object that the container holds under a name. -/
def bean? (d : Directory σ) (name : String) : Option Object := d.container.bind (· name)

/-- Whether the method that a server object leads to is called on an object. -/
def needsObject (d : Directory σ) (o : ServerObject) : Bool :=
  match d.locate o with
  | .ok route => route.needsObject
  | .error _ => false

/-- What is seen of the method that a server object leads to, which is handed an object. -/
def callOn (d : Directory σ) (o : ServerObject) (object : Object) : List Event :=
  if d.needsObject o then [.called object] else []

/-! ## Rules -/

/-- The server object of an episode in which a handler was obtained, and what was seen then. -/
def Episode.resolution? (e : Episode) : Option (ServerObject × List Event) :=
  match e.outcome with
  | .resolved _ o => some (o, e.events)
  | _ => none

/-- The resolutions of a run, each at the number of its handler. -/
def resolutions (episodes : List Episode) : List (ServerObject × List Event) :=
  episodes.filterMap Episode.resolution?

/-- What is seen in an act that comes to an outcome, after earlier episodes. -/
inductive Foresees (d : Directory σ) (before : List Episode) : Outcome → List Event → Prop
  | nothing : Foresees d before .nothing []
  /-- A failing resolution runs no code. -/
  | unresolved (o : ServerObject) (e : ResolutionError) : Foresees d before (.unresolved o e) []
  /-- Nor does one for a new object or for a bean. -/
  | resolved (o : ServerObject) : o.lookup ≠ .factory →
    Foresees d before (.resolved (resolutions before).length o) []
  /-- A factory is made when it is resolved. -/
  | resolvedFactory (o : ServerObject) (factory : Object) : o.lookup = .factory →
    Foresees d before (.resolved (resolutions before).length o) [.constructed factory]
  | answeredStatic (number : Nat) (o : ServerObject) (x : Except InvocationError Response) :
    (resolutions before)[number]? = some (o, []) → o.lookup = .new → d.needsObject o = false →
    Foresees d before (.answered number o x) []
  /-- A new object is made for a request, and the method is called on it. -/
  | answeredNew (number : Nat) (o : ServerObject) (x : Except InvocationError Response)
      (made : Object) :
    (resolutions before)[number]? = some (o, []) → o.lookup = .new → d.needsObject o = true →
    Foresees d before (.answered number o x) [.constructed made, .called made]
  /-- The factory that was made at the resolution makes a worker, whether or not the method needs
  one. -/
  | answeredFactory (number : Nat) (o : ServerObject) (x : Except InvocationError Response)
      (factory worker : Object) :
    (resolutions before)[number]? = some (o, [.constructed factory]) → o.lookup = .factory →
    Foresees d before (.answered number o x)
      (.produced createMethod factory worker :: d.callOn o worker)
  /-- The object of a bean is the one in the container. -/
  | answeredBean (number : Nat) (o : ServerObject) (x : Except InvocationError Response)
      (bean : Object) :
    (resolutions before)[number]? = some (o, []) → o.lookup = .bean → d.bean? o.target = some bean →
    Foresees d before (.answered number o x) (d.callOn o bean)

/-- A factory was resolved. -/
def Outcome.resolvesFactory : Outcome → Bool
  | .resolved _ o => o.lookup = .factory
  | _ => false

/-- A handler answered that calls a method on a new object. -/
def Outcome.callsOnNew (d : Directory σ) : Outcome → Bool
  | .answered _ o _ => o.lookup = .new && d.needsObject o
  | _ => false

/-- A handler of a factory answered. -/
def Outcome.callsFactory : Outcome → Bool
  | .answered _ o _ => o.lookup = .factory
  | _ => false

end Directory

namespace Event

def isConstruction : Event → Bool
  | constructed _ => true
  | _ => false

def isProduction : Event → Bool
  | produced _ _ _ => true
  | _ => false

end Event

/-! ## Routes of the ways of looking up -/

/-- A route is of the kind that a server object asks for. -/
def Directory.Leads (d : Directory σ) (o : ServerObject) : Route σ → Prop
  | .static _ => o.lookup = .new
  | .perRequest _ _ _ _ => o.lookup = .new
  | .factory _ _ _ _ => o.lookup = .factory
  | .bean object _ => o.lookup = .bean ∧ d.bean? o.target = some object

namespace Directory

variable {d : Directory σ}

theorem leads_of_locate {o : ServerObject} {route : Route σ} (h : d.locate o = .ok route) :
    d.Leads o route := by
  unfold locate at h
  cases hl : o.lookup with
  | new =>
    rw [hl] at h
    obtain ⟨-, -, ⟨-, -, rfl⟩ | ⟨-, -, -, -, -, rfl⟩⟩ := locateNew_eq_ok h
    · exact hl
    · exact hl
  | factory =>
    rw [hl] at h
    obtain ⟨-, -, -, -, -, -, -, -, -, -, rfl⟩ := locateFactory_eq_ok h
    exact hl
  | bean =>
    rw [hl] at h
    obtain ⟨container, object, -, -, hc, ho, -, -, rfl⟩ := locateBean_eq_ok h
    exact ⟨hl, by rw [bean?, hc]; exact ho⟩

theorem needsObject_of_locate {o : ServerObject} {route : Route σ} (h : d.locate o = .ok route) :
    d.needsObject o = route.needsObject := by
  rw [needsObject, h]

theorem seen_eq_callOn {o : ServerObject} {a : Responder σ} (h : d.needsObject o = a.needsObject)
    (object : Object) : a.seen object = d.callOn o object := by
  rw [callOn, h]
  cases a <;> rfl

/-! ## Acts follow the rules -/

/-- The resolutions of earlier episodes are those of the handlers that were obtained. -/
def Session.IsRecorded (before : List Episode) (x : Session σ) : Prop :=
  resolutions before = x.handlers.map fun h => (h.serverObject, h.connection.made)

theorem Session.IsRecorded.getElem? {before : List Episode} {x : Session σ}
    (hx : x.IsRecorded before) {number : Nat} {h : DirectHandler σ}
    (hn : x.handlers[number]? = some h) :
    (resolutions before)[number]? = some (h.serverObject, h.connection.made) := by
  rw [show resolutions before = _ from hx, List.getElem?_map, hn]
  rfl

/-- What is seen in an act follows the rules. -/
theorem foresees_step {before : List Episode} {x y : Session σ} (hx : x.ComesFrom d)
    (hr : x.IsRecorded before) {outcome : Outcome} {events : List Event}
    (hs : d.Step x outcome events y) : d.Foresees before outcome events := by
  cases hs with
  | unresolved o e => exact .unresolved o e
  | nothing => exact .nothing
  | resolved id o route hl =>
    have number : x.handlers.length = (resolutions before).length := by
      rw [show resolutions before = _ from hr, List.length_map]
    rw [number]
    have leads := leads_of_locate hl
    cases route with
    | factory type construct producer responder => exact .resolvedFactory o _ leads
    | static body => exact .resolved o (by rw [show o.lookup = _ from leads]; decide)
    | perRequest type construct owner body =>
      exact .resolved o (by rw [show o.lookup = _ from leads]; decide)
    | bean object responder => exact .resolved o (by rw [leads.1]; decide)
  | answered number r h hn =>
    obtain ⟨route, s, hl, hc⟩ := hx h (List.mem_of_getElem? hn)
    have leads := leads_of_locate hl
    have needs := needsObject_of_locate hl
    have made := hr.getElem? hn
    rw [hc] at made ⊢
    cases route with
    | static body => exact .answeredStatic number _ _ made leads needs
    | perRequest type construct owner body => exact .answeredNew number _ _ _ made leads needs
    | factory type construct producer responder =>
      show d.Foresees before _ (.produced createMethod _ _ :: responder.seen _)
      rw [seen_eq_callOn needs]
      exact .answeredFactory number _ _ _ _ made leads
    | bean object responder =>
      show d.Foresees before _ (responder.seen object)
      rw [seen_eq_callOn needs]
      exact .answeredBean number _ _ object made leads.1 leads.2

theorem resolutions_concat (before : List Episode) (e : Episode) :
    resolutions (before ++ [e]) = resolutions before ++ e.resolution?.toList := by
  rw [resolutions, List.filterMap_append, resolutions]
  cases h : e.resolution? <;> simp [h]

/-- An act keeps up the record of the handlers. -/
theorem Session.IsRecorded.step {before : List Episode} {x y : Session σ}
    (hr : x.IsRecorded before) {outcome : Outcome} {events : List Event}
    (hs : d.Step x outcome events y) : y.IsRecorded (before ++ [⟨outcome, events⟩]) := by
  rw [IsRecorded, resolutions_concat, show resolutions before = _ from hr]
  cases hs with
  | unresolved => exact List.append_nil _
  | answered => exact List.append_nil _
  | nothing => exact List.append_nil _
  | resolved id o route hl =>
    rw [List.map_append]
    rfl

/-- A run of acts follows the rules, whatever went before. -/
theorem foresees_foretold {before : List Episode} {x : Session σ} (hx : x.ComesFrom d)
    (hr : x.IsRecorded before) {acts : List Act} {earlier later : List Episode} {e : Episode}
    (h : d.foretold x acts = earlier ++ e :: later) :
    d.Foresees (before ++ earlier) e.outcome e.events := by
  induction acts generalizing x before earlier with
  | nil => cases earlier <;> cases h
  | cons a acts ih =>
    cases earlier with
    | nil =>
      cases h
      rw [List.append_nil]
      exact foresees_step hx hr (d.step x a)
    | cons first earlier =>
      obtain ⟨hfirst, hrest⟩ := List.cons_eq_cons.1 h
      have := ih (hx.step (d.step x a)) (hr.step (d.step x a)) hrest
      rwa [hfirst, List.append_assoc] at this

/-! ## How often -/

section Counting

variable {before : List Episode} {o : Outcome} {events : List Event}

theorem countP_callOn {p : Event → Bool} (hp : ∀ object, p (.called object) = false)
    (o : ServerObject) (object : Object) : (d.callOn o object).countP p = 0 := by
  unfold callOn
  split <;> simp [hp]

theorem Foresees.countP_isConstruction (h : d.Foresees before o events) :
    events.countP Event.isConstruction = o.resolvesFactory.toNat + (o.callsOnNew d).toNat := by
  have called : ∀ o object, (d.callOn o object).countP Event.isConstruction = 0 :=
    countP_callOn fun _ => rfl
  cases h with
  | nothing => rfl
  | unresolved => rfl
  | resolved o hl => simp [Outcome.resolvesFactory, Outcome.callsOnNew, hl]
  | resolvedFactory o factory hl =>
    simp [Outcome.resolvesFactory, Outcome.callsOnNew, hl, Event.isConstruction]
  | answeredStatic number o x hn hl needs =>
    simp [Outcome.resolvesFactory, Outcome.callsOnNew, hl, needs]
  | answeredNew number o x made hn hl needs =>
    simp [Outcome.resolvesFactory, Outcome.callsOnNew, hl, needs, Event.isConstruction,
      List.countP_cons]
  | answeredFactory number o x factory worker hn hl =>
    simp [Outcome.resolvesFactory, Outcome.callsOnNew, hl, Event.isConstruction, called]
  | answeredBean number o x bean hn hl hb =>
    simp [Outcome.resolvesFactory, Outcome.callsOnNew, hl, called]

theorem Foresees.countP_isProduction (h : d.Foresees before o events) :
    events.countP Event.isProduction = o.callsFactory.toNat := by
  have called : ∀ o object, (d.callOn o object).countP Event.isProduction = 0 :=
    countP_callOn fun _ => rfl
  cases h with
  | nothing => rfl
  | unresolved => rfl
  | resolved => rfl
  | resolvedFactory => rfl
  | answeredStatic number o x hn hl needs => simp [Outcome.callsFactory, hl]
  | answeredNew number o x made hn hl needs =>
    simp [Outcome.callsFactory, hl, Event.isProduction]
  | answeredFactory number o x factory worker hn hl =>
    simp [Outcome.callsFactory, hl, Event.isProduction, called, List.countP_cons]
  | answeredBean number o x bean hn hl hb => simp [Outcome.callsFactory, hl, called]

theorem countP_flatMap_events {p : Event → Bool} (q q' : Outcome → Bool) {episodes : List Episode}
    (h : ∀ e ∈ episodes, e.events.countP p = (q e.outcome).toNat + (q' e.outcome).toNat) :
    (episodes.flatMap Episode.events).countP p =
      (episodes.map Episode.outcome).countP q + (episodes.map Episode.outcome).countP q' := by
  induction episodes with
  | nil => rfl
  | cons e episodes ih =>
    obtain ⟨he, hrest⟩ := List.forall_mem_cons.1 h
    rw [List.flatMap_cons, List.countP_append, he, ih hrest, List.map_cons, List.countP_cons,
      List.countP_cons]
    cases q e.outcome <;> cases q' e.outcome <;> simp <;> omega

end Counting

/-! ## Beans -/

theorem Session.ComesFrom.after {x : Session σ} (hx : x.ComesFrom d) (acts : List Act) :
    (d.after x acts).ComesFrom d :=
  List.foldlRecOn acts _ hx fun y hy a _ => hy.step (d.step y a)

/-- A handler for a bean calls the method that was located on the object in the container. -/
theorem Session.ComesFrom.handle_bean {x : Session σ} (hx : x.ComesFrom d) {h : DirectHandler σ}
    (hh : h ∈ x.handlers) (hb : h.serverObject.lookup = .bean) :
    ∃ object responder, d.bean? h.serverObject.target = some object ∧
      d.locate h.serverObject = .ok (.bean object responder) ∧
      ∀ r, h.toHandler.handle r = responder.call object r := by
  obtain ⟨route, s, hl, hc⟩ := hx h hh
  have leads := leads_of_locate hl
  cases route with
  | bean object responder =>
    refine ⟨object, responder, leads.2, hl, fun r => ?_⟩
    rw [DirectHandler.toHandler, hc]
    rfl
  | factory type construct producer responder => cases hb.symm.trans leads
  | static body => cases hb.symm.trans leads
  | perRequest type construct owner body => cases hb.symm.trans leads

/-! ## Runs -/

/-- A run from the start, watched. Watching changes nothing: every act comes to what it comes to
without, and the application ends in the same state. What is seen in each act follows the rules.
Constructors work once for every factory that is resolved and once for every request that is
answered on a new object, factories once for every request that one of their handlers answers. And
all handlers for a bean call their methods on the one object of its name in the container. -/
theorem history_foreseen (hd : d.types.Reachable) (s : σ) (acts : List Act) :
    (d.history (.start ⟨s, []⟩) acts).map Episode.outcome = d.outcomes (.start s) acts ∧
    d.watched.after (.start ⟨s, []⟩) acts =
      (d.after (.start s) acts).watched
        ((d.history (.start ⟨s, []⟩) acts).flatMap Episode.events) ∧
    (∀ earlier e later, d.history (.start ⟨s, []⟩) acts = earlier ++ e :: later →
      d.Foresees earlier e.outcome e.events) ∧
    ((d.history (.start ⟨s, []⟩) acts).flatMap Episode.events).countP Event.isConstruction =
      (d.outcomes (.start s) acts).countP Outcome.resolvesFactory +
        (d.outcomes (.start s) acts).countP (Outcome.callsOnNew d) ∧
    ((d.history (.start ⟨s, []⟩) acts).flatMap Episode.events).countP Event.isProduction =
      (d.outcomes (.start s) acts).countP Outcome.callsFactory ∧
    ∀ h ∈ (d.after (.start s) acts).handlers, h.serverObject.lookup = .bean →
      ∃ object responder, d.bean? h.serverObject.target = some object ∧
        d.locate h.serverObject = .ok (.bean object responder) ∧
        ∀ r, h.toHandler.handle r = responder.call object r := by
  have from_start : (Session.start s).ComesFrom d := .start s
  have at_end : (d.after (.start s) acts).ComesFrom d := from_start.after acts
  have recorded : (Session.start s).IsRecorded [] := rfl
  have told : d.history (.start ⟨s, []⟩) acts = d.foretold (.start s) acts :=
    history_watched hd.isIndexed from_start [] acts
  have rules : ∀ earlier e later, d.foretold (.start s) acts = earlier ++ e :: later →
      d.Foresees earlier e.outcome e.events := fun _ _ _ => foresees_foretold from_start recorded
  have foreseen : ∀ e ∈ d.foretold (.start s) acts,
      ∃ earlier, d.Foresees earlier e.outcome e.events := fun e he => by
    obtain ⟨earlier, later, h⟩ := List.append_of_mem he
    exact ⟨earlier, rules earlier e later h⟩
  rw [told, ← map_outcome_foretold]
  refine ⟨rfl, after_watched hd.isIndexed from_start [] acts, rules, ?_, ?_, ?_⟩
  · refine countP_flatMap_events _ _ fun e he => ?_
    obtain ⟨earlier, h⟩ := foreseen e he
    exact h.countP_isConstruction
  · have := countP_flatMap_events Outcome.callsFactory (fun _ => false) fun e he => by
      obtain ⟨earlier, h⟩ := foreseen e he
      exact h.countP_isProduction
    rwa [List.countP_false] at this
  · exact fun h hh hb => at_end.handle_bean hh hb

/-- A town hall whose clerks are new for every request, whose bureau sends a messenger for each, and
whose archive is one; the state numbers the objects that are made. -/
def townHall : Directory Nat where
  types := .ofRegistrations
    [⟨"clerk", "Clerk", some (modifyGet fun n => (n, n + 1)),
        [⟨"note", .onObject fun _ _ => return .empty⟩]⟩,
      ⟨"bureau", "Bureau", some (modifyGet fun n => (n, n + 1)),
        [⟨createMethod, .producer "Messenger" fun _ => modifyGet fun n => (n, n + 1)⟩]⟩,
      ⟨"messenger", "Messenger", none, [⟨"announce", .static fun _ => return .empty⟩]⟩,
      ⟨"archive", "Archive", none,
        [⟨"file", .onObject fun _ _ => throw (.failure (.receiverMismatch "Folder"))⟩]⟩]
  container := some fun name => if name = "cellar" then some ⟨"Archive", 7⟩ else none

/-- A day in it, with requests that fail and things that are asked for in vain. -/
def workday : List Act :=
  [.resolve "n" ⟨.new, "clerk", "note"⟩, .resolve "a" ⟨.factory, "bureau", "announce"⟩,
    .call 1 (.fetch "a"), .resolve "f" ⟨.bean, "cellar", "file"⟩, .call 2 (.fetch "f"),
    .resolve "x" ⟨.factory, "bureau", "shout"⟩, .call 0 (.fetch "n"), .call 1 (.fetch "a"),
    .resolve "g" ⟨.bean, "cellar", "file"⟩, .call 3 (.fetch "g"), .call 0 (.fetch "n"),
    .call 4 (.fetch "x")]

theorem workday_history_foreseen :
    townHall.types.Reachable ∧
    ((townHall.history (.start ⟨0, []⟩) workday).flatMap Episode.events).countP
      Event.isConstruction = 1 + 2 ∧
    ((townHall.history (.start ⟨0, []⟩) workday).flatMap Episode.events).countP
      Event.isProduction = 2 := by
  have reachable : townHall.types.Reachable := .ofRegistrations _
  obtain ⟨-, -, -, constructions, productions, -⟩ := history_foreseen reachable 0 workday
  refine ⟨reachable, ?_, ?_⟩
  · rw [constructions]
    rfl
  · rw [productions]
    rfl

end Directory

end Switchboard
