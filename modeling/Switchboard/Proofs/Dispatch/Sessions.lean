import Switchboard.Proofs.Dispatch.Watching

/-!
# Programs at work

A program resolves server objects and hands requests to the handlers it obtained, in any order. Here
its acts are told one after the other, and so is a run of them with the code of the application
watched.

* `Directory.act`, `Directory.outcomes`: one act, and what a run of acts comes to.
* `Directory.Step`: what an act can come to, what is seen in it and where it leads.
* `Directory.act_watched`: an act with watched code comes to what it comes to without.
* `Directory.history_watched`, `Directory.after_watched`: and so does a run of acts.
-/

namespace Switchboard

variable {σ : Type}

namespace Directory

/-! ## Acts -/

/-- What a program does with a directory. -/
inductive Act where
  /-- Resolves a server object into a handler with an id. -/
  | resolve (id : String) (o : ServerObject)
  /-- Hands a request to a handler, by its number among those that were obtained. -/
  | call (number : Nat) (r : Request)

/-- What an act comes to. -/
inductive Outcome where
  /-- A handler was obtained, and got a number. -/
  | resolved (number : Nat) (o : ServerObject)
  | unresolved (o : ServerObject) (error : ResolutionError)
  /-- The handler of a number answered, which had been obtained for a server object. -/
  | answered (number : Nat) (o : ServerObject) (answer : Except InvocationError Response)
  /-- There was no handler of the number. -/
  | nothing

/-- The handlers obtained so far, by their numbers, and the state of the application. -/
structure Session (σ : Type) where
  handlers : List (DirectHandler σ)
  state : σ

/-- The start of a run: no handler was obtained. -/
def Session.start (s : σ) : Session σ := ⟨[], s⟩

/-- What an act comes to, and where it leads. -/
def act (d : Directory σ) (x : Session σ) : Act → Outcome × Session σ
  | .resolve id o =>
    match (d.resolve id o).run.run x.state with
    | (.ok h, s) => (.resolved x.handlers.length o, ⟨x.handlers ++ [h], s⟩)
    | (.error e, s) => (.unresolved o e, ⟨x.handlers, s⟩)
  | .call number r =>
    match x.handlers[number]? with
    | some h =>
      (.answered number h.serverObject ((h.toHandler.handle r).run.run x.state).1,
        ⟨x.handlers, ((h.toHandler.handle r).run.run x.state).2⟩)
    | none => (.nothing, x)

/-- Where acts lead, one after the other. -/
def after (d : Directory σ) (x : Session σ) (acts : List Act) : Session σ :=
  acts.foldl (fun x a => (d.act x a).2) x

/-- What acts come to, one after the other. -/
def outcomes (d : Directory σ) (x : Session σ) : List Act → List Outcome
  | [] => []
  | a :: acts => (d.act x a).1 :: d.outcomes (d.act x a).2 acts

/-- What an act came to, and what was seen of the code of the application meanwhile. -/
structure Episode where
  outcome : Outcome
  events : List Event

/-- A run of acts with the code of the directory watched. -/
def history (d : Directory σ) (x : Session (Watched σ)) : List Act → List Episode
  | [] => []
  | a :: acts =>
    ⟨(d.watched.act x a).1, (d.watched.act x a).2.state.events.drop x.state.events.length⟩ ::
      d.history (d.watched.act x a).2 acts

variable {d : Directory σ}

/-! ## One act -/

theorem run_resolve_of_locate_ok {o : ServerObject} {route : Route σ}
    (h : d.locate o = .ok route) (id : String) (s : σ) :
    (d.resolve id o).run.run s =
      (.ok ⟨id, o, (route.prepare.run s).1, none⟩, (route.prepare.run s).2) := by
  rw [resolve, h]
  rfl

/-- What is seen in an act. -/
def seen (d : Directory σ) (x : Session σ) : Act → List Event
  | .resolve _ o =>
    match d.locate o with
    | .ok route => (route.prepare.run x.state).1.made
    | .error _ => []
  | .call number _ =>
    match x.handlers[number]? with
    | some h => h.connection.seen x.state
    | none => []

/-- What an act can come to, what is seen in it and where it leads. -/
inductive Step (d : Directory σ) (x : Session σ) : Outcome → List Event → Session σ → Prop
  | unresolved (o : ServerObject) (e : ResolutionError) (hl : d.locate o = .error e) :
    Step d x (.unresolved o e) [] x
  | resolved (id : String) (o : ServerObject) (route : Route σ) (hl : d.locate o = .ok route) :
    Step d x (.resolved x.handlers.length o) (route.prepare.run x.state).1.made
      ⟨x.handlers ++ [⟨id, o, (route.prepare.run x.state).1, none⟩], (route.prepare.run x.state).2⟩
  | answered (number : Nat) (r : Request) (h : DirectHandler σ)
      (hn : x.handlers[number]? = some h) :
    Step d x (.answered number h.serverObject ((h.toHandler.handle r).run.run x.state).1)
      (h.connection.seen x.state) ⟨x.handlers, ((h.toHandler.handle r).run.run x.state).2⟩
  | nothing : Step d x .nothing [] x

theorem step (d : Directory σ) (x : Session σ) (a : Act) :
    d.Step x (d.act x a).1 (d.seen x a) (d.act x a).2 := by
  cases a with
  | resolve id o =>
    cases hl : d.locate o with
    | error e =>
      simp only [act, seen, hl, resolve_of_locate_error hl]
      exact .unresolved o e hl
    | ok route =>
      simp only [act, seen, hl, run_resolve_of_locate_ok hl]
      exact .resolved id o route hl
  | call number r =>
    cases hn : x.handlers[number]? with
    | none =>
      simp only [act, seen, hn]
      exact .nothing
    | some h =>
      simp only [act, seen, hn]
      exact .answered number r h hn

/-- The handlers of a session were obtained from the directory. -/
def Session.ComesFrom (d : Directory σ) (x : Session σ) : Prop :=
  ∀ h ∈ x.handlers, ∃ route s, d.locate h.serverObject = .ok route ∧
    h.connection = (route.prepare.run s).1

theorem Session.ComesFrom.start (s : σ) : (Session.start s).ComesFrom d := by
  intro h hh
  cases hh

theorem Session.ComesFrom.step {x y : Session σ} (hx : x.ComesFrom d) {outcome : Outcome}
    {events : List Event} (hs : d.Step x outcome events y) : y.ComesFrom d := by
  cases hs with
  | unresolved => exact hx
  | answered => exact hx
  | nothing => exact hx
  | resolved id o route hl =>
    intro h hh
    rcases List.mem_append.1 hh with hh | hh
    · exact hx h hh
    · rw [List.mem_singleton.1 hh]
      exact ⟨route, x.state, hl, rfl⟩

/-! ## Watched acts -/

/-- A session with handlers that reach watched code, after some events. -/
def Session.watched (x : Session σ) (log : List Event) : Session (Watched σ) :=
  ⟨x.handlers.map DirectHandler.watched, ⟨x.state, log⟩⟩

/-- An act with watched code comes to what it comes to with the code itself. -/
theorem act_watched (hd : d.types.IsIndexed) {x : Session σ} (hx : x.ComesFrom d)
    (log : List Event) (a : Act) :
    d.watched.act (x.watched log) a =
      ((d.act x a).1, (d.act x a).2.watched (log ++ d.seen x a)) := by
  cases a with
  | resolve id o =>
    cases hl : d.locate o with
    | error e =>
      have hw : d.watched.locate o = .error e := by rw [locate_watched, hl]; rfl
      simp only [act, seen, hl, resolve_of_locate_error hl, resolve_of_locate_error hw,
        List.append_nil, Session.watched]
    | ok route =>
      have hw : d.watched.locate o = .ok route.watched := by rw [locate_watched, hl]; rfl
      have hp := route.run_prepare_watched x.state log
      simp only [act, seen, hl, run_resolve_of_locate_ok hl, run_resolve_of_locate_ok hw,
        Session.watched, hp, List.length_map, List.map_append]
      rfl
  | call number r =>
    cases hn : x.handlers[number]? with
    | none =>
      simp only [act, seen, Session.watched, List.getElem?_map, hn, Option.map_none,
        List.append_nil]
    | some h =>
      obtain ⟨route, s, hl, hc⟩ := hx h (List.mem_of_getElem? hn)
      have sound : h.connection.IsSound := hc ▸ locate_isSound hd hl s
      have ha := Connection.run_answer_watched sound r x.state log
      simp only [act, seen, Session.watched, List.getElem?_map, hn, Option.map_some,
        DirectHandler.toHandler, DirectHandler.watched, ha]

/-- A run of acts with what is seen in each, told from the code itself. -/
def foretold (d : Directory σ) (x : Session σ) : List Act → List Episode
  | [] => []
  | a :: acts => ⟨(d.act x a).1, d.seen x a⟩ :: d.foretold (d.act x a).2 acts

theorem map_outcome_foretold (x : Session σ) (acts : List Act) :
    (d.foretold x acts).map Episode.outcome = d.outcomes x acts := by
  induction acts generalizing x with
  | nil => rfl
  | cons a acts ih => rw [foretold, outcomes, List.map_cons, ih]

theorem history_watched (hd : d.types.IsIndexed) {x : Session σ} (hx : x.ComesFrom d)
    (log : List Event) (acts : List Act) :
    d.history (x.watched log) acts = d.foretold x acts := by
  induction acts generalizing x log with
  | nil => rfl
  | cons a acts ih =>
    have events : ((d.act x a).2.watched (log ++ d.seen x a)).state.events.drop
        (x.watched log).state.events.length = d.seen x a := List.drop_left
    rw [history, foretold, act_watched hd hx, ih (hx.step (d.step x a)), events]

theorem after_watched (hd : d.types.IsIndexed) {x : Session σ} (hx : x.ComesFrom d)
    (log : List Event) (acts : List Act) :
    d.watched.after (x.watched log) acts =
      (d.after x acts).watched (log ++ (d.foretold x acts).flatMap Episode.events) := by
  induction acts generalizing x log with
  | nil => rw [foretold, List.flatMap_nil, List.append_nil]; rfl
  | cons a acts ih =>
    rw [foretold, List.flatMap_cons, ← List.append_assoc, after, List.foldl_cons,
      act_watched hd hx]
    exact ih (hx.step (d.step x a)) _

end Directory

end Switchboard
