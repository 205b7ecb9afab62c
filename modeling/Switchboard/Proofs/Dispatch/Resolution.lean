import Switchboard.Proofs.Dispatch.Reordering
import Switchboard.Proofs.Dispatch.Sessions

/-!
# Which server objects can be resolved

A server object can be resolved when all it names is there once: the type or the bean, one name of
the type that an object turns out to have, one method that answers requests, and a way to make
objects where one is needed. Otherwise the first thing that is missing, or is there more than once,
is the error. All this is said of the tables and the container alone, not of how they are searched.

* `TypeRegister.Holds`, `TypeRegister.HoldsOnly`, `TypeTable.answering`: what has to be there.
* `TypeRegister.LacksName`, `TypeRegister.LacksType`, `TypeTable.LacksMethod`: what is wrong
  otherwise.
* `Directory.IsResolvable`, `Directory.FailsWith`: the conditions, and the first that fails.
* `Directory.soleType_eq_error_iff`: no type is missed that is registered.
* `Directory.locate_eq_error_iff`, `Directory.exists_locate_iff`: failure and success, by the rules.
* `Directory.resolve_characterized`: the outcome of every resolution.
-/

namespace Switchboard

variable {σ : Type}

/-! ## What is asked for -/

namespace TypeRegister

/-- A table stands under a name that is not contested. -/
def Holds (r : TypeRegister σ) (name : String) (t : TypeTable σ) : Prop :=
  r.isContested name = false ∧ r.get? name = some t

/-- Why no table stands under a name. A contested name counts as such first. -/
inductive LacksName (r : TypeRegister σ) (name : String) : ResolutionError → Prop where
  | contested : r.isContested name = true → LacksName r name (.duplicateType name)
  | unknown : r.isContested name = false → r.get? name = none →
    LacksName r name (.unknownType name)

/-- A table is the only one of its type, and stands under a name. -/
def HoldsOnly (r : TypeRegister σ) (type : TypeId) (name : String) (t : TypeTable σ) : Prop :=
  r.get? name = some t ∧ t.type = type ∧
    ∀ name' t', r.get? name' = some t' → t'.type = type → name' = name

/-- All the names of a type, in order. -/
def AreNamesOf (r : TypeRegister σ) (type : TypeId) (names : List String) : Prop :=
  names.Pairwise (· < ·) ∧ ∀ name, name ∈ names ↔ ∃ t, r.get? name = some t ∧ t.type = type

/-- Why a type has no only table: it has none, for which there is an error of its own, or several.
-/
inductive LacksType (r : TypeRegister σ) (type : TypeId) (subject : String)
    (unregistered : ResolutionError) : ResolutionError → Prop where
  | unregistered : (∀ name t, r.get? name = some t → t.type ≠ type) →
    LacksType r type subject unregistered unregistered
  | ambiguous (names : List String) : r.AreNamesOf type names → 2 ≤ names.length →
    LacksType r type subject unregistered (.ambiguousType subject names)

end TypeRegister

namespace TypeTable

/-- Why not one method of a table, which stands under a name, answers requests as it is asked to. -/
inductive LacksMethod (name : String) (t : TypeTable σ) (method : String) :
    ResolutionError → Prop where
  | missing : t.answering method = [] → LacksMethod name t method (.missingMethod name method)
  | ambiguous : 2 ≤ (t.answering method).length →
    LacksMethod name t method (.ambiguousMethod name method (t.answering method).length)

/-- The first method by which a factory makes objects makes some of this type. -/
def Makes (t : TypeTable σ) (product : ObjectType) : Prop :=
  ∃ name produce, t.methods.find? Method.makesObjects = some ⟨name, .producer product produce⟩

end TypeTable

/-- Whether a method needs no object. -/
def Method.isStatic (m : Method σ) : Bool :=
  match m.signature with
  | .static _ => true
  | _ => false

namespace Directory

/-- The conditions under which a server object can be resolved. -/
inductive IsResolvable (d : Directory σ) (o : ServerObject) : Prop where
  | new (t : TypeTable σ) (m : Method σ) : o.lookup = .new → d.types.Holds o.target t →
    t.answering o.method = [m] → (m.isStatic = true ∨ t.construct.isSome = true) →
    IsResolvable d o
  | factory (t : TypeTable σ) (product : ObjectType) (name : String) (worker : TypeTable σ)
    (m : Method σ) : o.lookup = .factory → d.types.Holds o.target t → t.construct.isSome = true →
    t.Makes product → d.types.HoldsOnly product.id name worker →
    worker.answering o.method = [m] → IsResolvable d o
  | bean (container : Container) (object : Object) (name : String) (t : TypeTable σ)
    (m : Method σ) : o.lookup = .bean → d.container = some container →
    container o.target = some object → d.types.HoldsOnly object.type name t →
    t.answering o.method = [m] → IsResolvable d o

/-- The first of the conditions that fails, and its error. -/
inductive FailsWith (d : Directory σ) (o : ServerObject) : ResolutionError → Prop where
  | newType {e : ResolutionError} : o.lookup = .new → d.types.LacksName o.target e →
    FailsWith d o e
  | newMethod {e : ResolutionError} (t : TypeTable σ) : o.lookup = .new →
    d.types.Holds o.target t → t.LacksMethod o.target o.method e → FailsWith d o e
  | newConstructor (t : TypeTable σ) (m : Method σ) : o.lookup = .new →
    d.types.Holds o.target t → t.answering o.method = [m] → m.isStatic = false →
    t.construct = none → FailsWith d o (.missingConstructor o.target)
  | factoryType {e : ResolutionError} : o.lookup = .factory → d.types.LacksName o.target e →
    FailsWith d o e
  | factoryConstructor (t : TypeTable σ) : o.lookup = .factory → d.types.Holds o.target t →
    t.construct = none → FailsWith d o (.missingConstructor o.target)
  | factoryMethod (t : TypeTable σ) : o.lookup = .factory → d.types.Holds o.target t →
    t.construct.isSome = true → (∀ m ∈ t.methods, m.makesObjects = false) →
    FailsWith d o (.missingFactoryMethod o.target)
  | workerType {e : ResolutionError} (t : TypeTable σ) (product : ObjectType) :
    o.lookup = .factory → d.types.Holds o.target t → t.construct.isSome = true →
    t.Makes product →
    d.types.LacksType product.id product.name (.unknownWorkerType o.target product.name) e →
    FailsWith d o e
  | workerMethod {e : ResolutionError} (t : TypeTable σ) (product : ObjectType) (name : String)
    (worker : TypeTable σ) : o.lookup = .factory → d.types.Holds o.target t →
    t.construct.isSome = true → t.Makes product → d.types.HoldsOnly product.id name worker →
    worker.LacksMethod name o.method e → FailsWith d o e
  | container : o.lookup = .bean → d.container = none → FailsWith d o (.noContainer o.target)
  | bean (container : Container) : o.lookup = .bean → d.container = some container →
    container o.target = none → FailsWith d o (.unknownBean o.target)
  | beanType {e : ResolutionError} (container : Container) (object : Object) : o.lookup = .bean →
    d.container = some container → container o.target = some object →
    d.types.LacksType object.type o.target (.unregisteredBeanType o.target) e → FailsWith d o e
  | beanMethod {e : ResolutionError} (container : Container) (object : Object) (name : String)
    (t : TypeTable σ) : o.lookup = .bean → d.container = some container →
    container o.target = some object → d.types.HoldsOnly object.type name t →
    t.LacksMethod name o.method e → FailsWith d o e

end Directory

/-! ## Tables stand under their names -/

namespace TypeRegister

theorem Reachable.name_of_get? {r : TypeRegister σ} (h : r.Reachable) {name : String}
    {t : TypeTable σ} (ht : r.get? name = some t) : t.name = name := by
  induction h with
  | empty => simp [TypeRegister.empty, get?] at ht
  | ofRegistrations ts =>
    have hm : t ∈ registrationsOf ts name := by
      rw [((collects_ofRegistrations ts).get?_iff name t).1 ht]
      exact List.mem_singleton_self t
    simpa [registrationsOf] using (List.mem_filter.1 hm).2
  | insert u _ ih =>
    rw [get?_insert] at ht
    split at ht
    · next hu =>
      cases ht
      exact hu
    · exact ih ht

theorem areNamesOf_namesOf {r : TypeRegister σ} (h : r.IsIndexed) (type : TypeId) :
    r.AreNamesOf type (r.namesOf type) :=
  ⟨r.pairwise_namesOf type, fun name => by rw [namesOf, Std.ExtTreeSet.mem_toList, h type name]⟩

/-- There is one row of all the names of a type in order. -/
theorem AreNamesOf.unique {r : TypeRegister σ} {type : TypeId} {names names' : List String}
    (h : r.AreNamesOf type names) (h' : r.AreNamesOf type names') : names = names' :=
  h.1.eq_of_mem_iff h'.1 fun name => by rw [h.2, h'.2]

/-- A table is the only one of its type when the type has one name. -/
theorem holdsOnly_iff {r : TypeRegister σ} {type : TypeId} {names : List String}
    (h : r.AreNamesOf type names) {name : String} {t : TypeTable σ} :
    r.HoldsOnly type name t ↔ names = [name] ∧ r.get? name = some t := by
  constructor
  · rintro ⟨ht, htype, honly⟩
    refine ⟨h.unique ⟨List.pairwise_singleton _ _, fun name' => ?_⟩, ht⟩
    rw [List.mem_singleton]
    constructor
    · rintro rfl
      exact ⟨t, ht, htype⟩
    · rintro ⟨t', ht', htype'⟩
      exact honly name' t' ht' htype'
  · rintro ⟨rfl, ht⟩
    obtain ⟨t', ht', htype⟩ := (h.2 name).1 (List.mem_singleton_self name)
    cases ht.symm.trans ht'
    exact ⟨ht, htype, fun name' t' ht' htype' =>
      List.mem_singleton.1 ((h.2 name').2 ⟨t', ht', htype'⟩)⟩

/-- A type has no only table when it has no name, or several. -/
theorem lacksType_iff {r : TypeRegister σ} {type : TypeId} {names : List String}
    (h : r.AreNamesOf type names) {subject : String} {unregistered e : ResolutionError} :
    r.LacksType type subject unregistered e ↔
      (names = [] ∧ e = unregistered) ∨ (2 ≤ names.length ∧ e = .ambiguousType subject names) := by
  constructor
  · rintro (hnone | ⟨names', h', hlen⟩)
    · refine .inl ⟨List.eq_nil_iff_forall_not_mem.2 fun name hname => ?_, rfl⟩
      obtain ⟨t, ht, htype⟩ := (h.2 name).1 hname
      exact hnone name t ht htype
    · cases h.unique h'
      exact .inr ⟨hlen, rfl⟩
  · rintro (⟨rfl, rfl⟩ | ⟨hlen, rfl⟩)
    · exact .unregistered fun name t ht htype => List.not_mem_nil ((h.2 name).2 ⟨t, ht, htype⟩)
    · exact .ambiguous names h hlen

end TypeRegister

/-! ## Methods of a table -/

namespace TypeTable

theorem responders_eq_filterMap (t : TypeTable σ) (method : String) :
    t.responders method = (t.answering method).filterMap (·.signature.responder? t.owner) := by
  rw [responders, answering]
  induction t.methods with
  | nil => rfl
  | cons m ms ih =>
    have hs := m.signature.responder?_isSome t.owner
    by_cases h : m.name = method
    · cases hr : m.signature.responder? t.owner <;> simp_all
    · simp [h, ih]

theorem answersRequests_of_answering {t : TypeTable σ} {method : String} {m : Method σ}
    (h : t.answering method = [m]) : m.signature.answersRequests = true := by
  have hm : m ∈ t.answering method := h ▸ List.mem_singleton_self m
  exact (Bool.and_eq_true_iff.1 (List.mem_filter.1 hm).2).2

theorem soleResponder_eq_ok_iff_answering {t : TypeTable σ} {method : String} {a : Responder σ} :
    t.soleResponder method = .ok a ↔
      ∃ m, t.answering method = [m] ∧ m.signature.responder? t.owner = some a := by
  rw [soleResponder_eq_ok_iff]
  constructor
  · intro h
    have hl : (t.answering method).length = 1 := by rw [← t.length_responders, h]; rfl
    obtain ⟨m, hm⟩ := List.length_eq_one_iff.1 hl
    refine ⟨m, hm, ?_⟩
    rw [responders_eq_filterMap, hm] at h
    cases hr : m.signature.responder? t.owner <;> simp_all
  · rintro ⟨m, hm, hr⟩
    rw [responders_eq_filterMap, hm]
    simp [hr]

theorem exists_soleResponder_iff {t : TypeTable σ} {method : String} :
    (∃ a, t.soleResponder method = .ok a) ↔ ∃ m, t.answering method = [m] := by
  simp only [soleResponder_eq_ok_iff_answering]
  constructor
  · rintro ⟨a, m, hm, -⟩
    exact ⟨m, hm⟩
  · rintro ⟨m, hm⟩
    have hs := m.signature.responder?_isSome t.owner
    rw [answersRequests_of_answering hm] at hs
    obtain ⟨a, ha⟩ := Option.isSome_iff_exists.1 hs
    exact ⟨a, m, hm, ha⟩

/-- A static method needs no object, and any other needs one. -/
theorem isStatic_of_soleResponder {t : TypeTable σ} {method : String} {m : Method σ}
    {a : Responder σ} (hm : t.answering method = [m]) (ha : t.soleResponder method = .ok a) :
    m.isStatic = true ↔ ∃ body, a = .static body := by
  obtain ⟨m', hm', ha⟩ := soleResponder_eq_ok_iff_answering.1 ha
  cases hm.symm.trans hm'
  rw [Method.isStatic]
  cases hs : m.signature <;> rw [hs] at ha <;> cases ha <;> simp

theorem soleResponder_eq_error_iff {t : TypeTable σ} {method : String} {e : ResolutionError} :
    t.soleResponder method = .error e ↔ t.LacksMethod t.name method e := by
  have hl := t.length_responders method
  rw [soleResponder]
  rcases hr : t.responders method with _ | ⟨a, _ | ⟨b, rest⟩⟩
  · rw [hr] at hl
    have hn : t.answering method = [] := List.length_eq_zero_iff.1 hl.symm
    constructor
    · rintro ⟨⟩
      exact .missing hn
    · rintro (_ | h)
      · rfl
      · simp [hn] at h
  · rw [hr] at hl
    constructor
    · rintro ⟨⟩
    · rintro (h | h)
      · simp [h] at hl
      · rw [← hl] at h
        simp at h
  · rw [hr] at hl
    constructor
    · rintro ⟨⟩
      rw [hl]
      exact .ambiguous (by simp [← hl])
    · rintro (h | h)
      · simp [h] at hl
      · exact congrArg (fun n => Except.error (ResolutionError.ambiguousMethod t.name method n)) hl

/-- What a factory makes objects by is the first method that can make any. -/
theorem producer?_eq_bind_find? (t : TypeTable σ) :
    t.producer? createMethod =
      (t.methods.find? Method.makesObjects).bind (·.signature.producer? t.owner) := by
  rw [producer?_createMethod, ← List.head?_filter]
  cases hf : t.methods.filter Method.makesObjects with
  | nil => rfl
  | cons m ms =>
    have hm : m.makesObjects = true :=
      (List.mem_filter.1 (hf ▸ List.mem_cons_self : m ∈ t.methods.filter Method.makesObjects)).2
    have hs := m.signature.producer?_isSome t.owner
    cases hp : m.signature.producer? t.owner <;> simp_all [Method.makesObjects]

theorem producer?_eq_none_iff {t : TypeTable σ} :
    t.producer? createMethod = none ↔ ∀ m ∈ t.methods, m.makesObjects = false := by
  rw [producer?_createMethod, List.findSome?_eq_none_iff]
  constructor
  · intro h m hm
    have hs := m.signature.producer?_isSome t.owner
    cases hmakes : m.makesObjects with
    | false => rfl
    | true =>
      rw [h m (List.mem_filter.2 ⟨hm, hmakes⟩)] at hs
      simp [Method.makesObjects, ← hs] at hmakes
  · intro h m hm
    obtain ⟨hm, hmakes⟩ := List.mem_filter.1 hm
    simp [h m hm] at hmakes

theorem makes_iff {t : TypeTable σ} {product : ObjectType} :
    t.Makes product ↔ ∃ p, t.producer? createMethod = some p ∧ p.product = product := by
  rw [producer?_eq_bind_find?]
  constructor
  · rintro ⟨name, produce, h⟩
    rw [h]
    exact ⟨⟨t.owner, product, produce⟩, rfl, rfl⟩
  · rintro ⟨p, hp, rfl⟩
    obtain ⟨⟨name, signature⟩, hm, hs⟩ := Option.bind_eq_some_iff.1 hp
    cases signature with
    | producer product produce =>
      cases hs
      exact ⟨name, produce, hm⟩
    | static body => cases hs
    | onObject body => cases hs

end TypeTable

/-! ## What is looked up -/

namespace Directory

variable {d : Directory σ}

theorem typeNamed_eq_ok_iff {name : String} {t : TypeTable σ} :
    d.typeNamed name = .ok t ↔ d.types.Holds name t := by
  rw [typeNamed, TypeRegister.Holds]
  cases d.types.isContested name <;> cases d.types.get? name <;> simp

theorem typeNamed_eq_error_iff {name : String} {e : ResolutionError} :
    d.typeNamed name = .error e ↔ d.types.LacksName name e := by
  rw [typeNamed]
  cases hc : d.types.isContested name with
  | true =>
    constructor
    · rintro ⟨⟩
      exact .contested hc
    · rintro (_ | ⟨h, -⟩)
      · rfl
      · cases hc.symm.trans h
  | false =>
    cases ht : d.types.get? name with
    | none =>
      constructor
      · rintro ⟨⟩
        exact .unknown hc ht
      · rintro (h | _)
        · cases hc.symm.trans h
        · rfl
    | some t =>
      constructor
      · rintro ⟨⟩
      · rintro (h | ⟨-, h⟩)
        · cases hc.symm.trans h
        · cases ht.symm.trans h

/-- The one table of a type. -/
def soleType (d : Directory σ) (type : TypeId) (subject : String)
    (unregistered : ResolutionError) : Except ResolutionError (TypeTable σ) := do
  let some t ← d.typeOf? type subject | throw unregistered
  return t

/-- The only table of a type is found. -/
theorem soleType_eq_ok_iff (hd : d.types.IsIndexed) {type : TypeId} {subject : String}
    {unregistered : ResolutionError} {t : TypeTable σ} :
    d.soleType type subject unregistered = .ok t ↔ ∃ name, d.types.HoldsOnly type name t := by
  have names := TypeRegister.areNamesOf_namesOf hd type
  simp only [TypeRegister.holdsOnly_iff names]
  rw [soleType, typeOf?]
  rcases hn : d.types.namesOf type with _ | ⟨name, _ | ⟨_, _⟩⟩
  · simp [bind, Except.bind, throw, throwThe, MonadExceptOf.throw]
  · cases ht : d.types.get? name <;>
      simp [bind, Except.bind, throw, throwThe, MonadExceptOf.throw, pure, Except.pure, ht]
  · simp [bind, Except.bind]

/-- A type that is registered is not missed: the error for a type without a table is met only where
no table is of the type. -/
theorem soleType_eq_error_iff (hd : d.types.IsIndexed) {type : TypeId} {subject : String}
    {unregistered e : ResolutionError} :
    d.soleType type subject unregistered = .error e ↔
      d.types.LacksType type subject unregistered e := by
  have names := TypeRegister.areNamesOf_namesOf hd type
  rw [TypeRegister.lacksType_iff names, soleType, typeOf?]
  rcases hn : d.types.namesOf type with _ | ⟨name, _ | ⟨_, _⟩⟩
  · simp [bind, Except.bind, throw, throwThe, MonadExceptOf.throw, eq_comm]
  · obtain ⟨t, ht, -⟩ := (names.2 name).1 (hn ▸ List.mem_singleton_self name)
    simp [bind, Except.bind, pure, Except.pure, ht]
  · simp [bind, Except.bind, eq_comm]

theorem locateFactory_eq (d : Directory σ) (o : ServerObject) :
    d.locateFactory o = (do
      let t ← d.typeNamed o.target
      let some construct := t.construct | throw (.missingConstructor t.name)
      let some producer := t.producer? createMethod | throw (.missingFactoryMethod t.name)
      let worker ← d.soleType producer.product.id producer.product.name
        (.unknownWorkerType t.name producer.product.name)
      return .factory t.type construct producer (← worker.soleResponder o.method)) := by
  rw [locateFactory]
  refine bind_congr fun t => ?_
  cases t.construct with
  | none => rfl
  | some construct =>
    cases t.producer? createMethod with
    | none => rfl
    | some producer =>
      simp only [soleType, bind_assoc]
      refine bind_congr fun found => ?_
      cases found <;> rfl

theorem locateBean_eq (d : Directory σ) (o : ServerObject) :
    d.locateBean o = (do
      let some container := d.container | throw (.noContainer o.target)
      let some object := container o.target | throw (.unknownBean o.target)
      let t ← d.soleType object.type o.target (.unregisteredBeanType o.target)
      return .bean object (← t.soleResponder o.method)) := by
  rw [locateBean]
  cases d.container with
  | none => rfl
  | some container =>
    cases ho : container o.target with
    | none => simp only [ho]
    | some object =>
      simp only [ho, soleType, bind_assoc]
      refine bind_congr fun found => ?_
      cases found <;> rfl

/-! ## Failures -/

/-- What is missing in a table is missed under the name that the table stands under. -/
theorem lacksMethod_of_soleResponder (hd : d.types.Reachable) {name method : String}
    {t : TypeTable σ} (ht : d.types.get? name = some t) {e : ResolutionError} :
    t.soleResponder method = .error e ↔ t.LacksMethod name method e := by
  rw [TypeTable.soleResponder_eq_error_iff, hd.name_of_get? ht]

theorem failsWith_of_locateNew (hd : d.types.Reachable) {o : ServerObject} {e : ResolutionError}
    (ho : o.lookup = .new) (h : d.locateNew o = .error e) : d.FailsWith o e := by
  obtain h | ⟨t, ht, h⟩ := except_bind_eq_error h
  · exact .newType ho (typeNamed_eq_error_iff.1 h)
  replace ht := typeNamed_eq_ok_iff.1 ht
  obtain h | ⟨a, ha, h⟩ := except_bind_eq_error h
  · exact .newMethod t ho ht ((lacksMethod_of_soleResponder hd ht.2).1 h)
  obtain ⟨m, hm⟩ := TypeTable.exists_soleResponder_iff.1 ⟨a, ha⟩
  cases a with
  | static body => cases h
  | onObject owner body =>
    cases hc : t.construct with
    | some construct => simp only [hc] at h; cases h
    | none =>
      simp only [hc] at h
      cases h
      rw [hd.name_of_get? ht.2]
      refine .newConstructor t m ho ht hm ?_ hc
      rw [← Bool.not_eq_true, TypeTable.isStatic_of_soleResponder hm ha]
      rintro ⟨body', ⟨⟩⟩

theorem failsWith_of_locateFactory (hd : d.types.Reachable) {o : ServerObject}
    {e : ResolutionError} (ho : o.lookup = .factory) (h : d.locateFactory o = .error e) :
    d.FailsWith o e := by
  rw [locateFactory_eq] at h
  obtain h | ⟨t, ht, h⟩ := except_bind_eq_error h
  · exact .factoryType ho (typeNamed_eq_error_iff.1 h)
  replace ht := typeNamed_eq_ok_iff.1 ht
  have hname := hd.name_of_get? ht.2
  cases hc : t.construct with
  | none =>
    rw [hc] at h
    cases h
    rw [hname]
    exact .factoryConstructor t ho ht hc
  | some construct =>
    have hc' : t.construct.isSome = true := hc ▸ rfl
    cases hp : t.producer? createMethod with
    | none =>
      simp only [hc, hp] at h
      cases h
      rw [hname]
      exact .factoryMethod t ho ht hc' (TypeTable.producer?_eq_none_iff.1 hp)
    | some producer =>
      have hmakes := TypeTable.makes_iff.2 ⟨producer, hp, rfl⟩
      simp only [hc, hp] at h
      obtain h | ⟨worker, hw, h⟩ := except_bind_eq_error h
      · rw [hname, soleType_eq_error_iff hd.isIndexed] at h
        exact .workerType t producer.product ho ht hc' hmakes h
      obtain ⟨name, hw⟩ := (soleType_eq_ok_iff hd.isIndexed).1 hw
      obtain h | ⟨a, -, h⟩ := except_bind_eq_error h
      · exact .workerMethod t producer.product name worker ho ht hc' hmakes hw
          ((lacksMethod_of_soleResponder hd hw.1).1 h)
      · cases h

theorem failsWith_of_locateBean (hd : d.types.Reachable) {o : ServerObject}
    {e : ResolutionError} (ho : o.lookup = .bean) (h : d.locateBean o = .error e) :
    d.FailsWith o e := by
  rw [locateBean_eq] at h
  cases hc : d.container with
  | none =>
    rw [hc] at h
    cases h
    exact .container ho hc
  | some container =>
    cases hobject : container o.target with
    | none =>
      simp only [hc, hobject] at h
      cases h
      exact .bean container ho hc hobject
    | some object =>
      simp only [hc, hobject] at h
      obtain h | ⟨t, ht, h⟩ := except_bind_eq_error h
      · exact .beanType container object ho hc hobject ((soleType_eq_error_iff hd.isIndexed).1 h)
      obtain ⟨name, ht⟩ := (soleType_eq_ok_iff hd.isIndexed).1 ht
      obtain h | ⟨a, -, h⟩ := except_bind_eq_error h
      · exact .beanMethod container object name t ho hc hobject ht
          ((lacksMethod_of_soleResponder hd ht.1).1 h)
      · cases h

theorem locate_of_failsWith (hd : d.types.Reachable) {o : ServerObject} {e : ResolutionError}
    (h : d.FailsWith o e) : d.locate o = .error e := by
  rw [locate]
  cases h with
  | newType ho h =>
    simp only [ho, locateNew, typeNamed_eq_error_iff.2 h, except_error_bind]
  | newMethod t ho ht h =>
    simp only [ho, locateNew, typeNamed_eq_ok_iff.2 ht, except_ok_bind,
      (lacksMethod_of_soleResponder hd ht.2).2 h, except_error_bind]
  | newConstructor t m ho ht hm hs hc =>
    obtain ⟨a, ha⟩ := TypeTable.exists_soleResponder_iff.2 ⟨m, hm⟩
    simp only [ho, locateNew, typeNamed_eq_ok_iff.2 ht, except_ok_bind, ha, hc,
      hd.name_of_get? ht.2]
    cases a with
    | static body =>
      cases hs.symm.trans ((TypeTable.isStatic_of_soleResponder hm ha).2 ⟨body, rfl⟩)
    | onObject owner body => rfl
  | factoryType ho h =>
    simp only [ho, locateFactory, typeNamed_eq_error_iff.2 h, except_error_bind]
  | factoryConstructor t ho ht hc =>
    simp only [ho, locateFactory, typeNamed_eq_ok_iff.2 ht, except_ok_bind, hc,
      hd.name_of_get? ht.2]
    rfl
  | factoryMethod t ho ht hc hp =>
    obtain ⟨construct, hc⟩ := Option.isSome_iff_exists.1 hc
    simp only [ho, locateFactory, typeNamed_eq_ok_iff.2 ht, except_ok_bind, hc,
      hd.name_of_get? ht.2, TypeTable.producer?_eq_none_iff.2 hp]
    rfl
  | workerType t product ho ht hc hmakes h =>
    obtain ⟨construct, hc⟩ := Option.isSome_iff_exists.1 hc
    obtain ⟨producer, hp, rfl⟩ := TypeTable.makes_iff.1 hmakes
    simp only [ho, locateFactory_eq, typeNamed_eq_ok_iff.2 ht, except_ok_bind, hc, hp,
      hd.name_of_get? ht.2, (soleType_eq_error_iff hd.isIndexed).2 h, except_error_bind]
  | workerMethod t product name worker ho ht hc hmakes hw h =>
    obtain ⟨construct, hc⟩ := Option.isSome_iff_exists.1 hc
    obtain ⟨producer, hp, rfl⟩ := TypeTable.makes_iff.1 hmakes
    simp only [ho, locateFactory_eq, typeNamed_eq_ok_iff.2 ht, except_ok_bind, hc, hp,
      (soleType_eq_ok_iff hd.isIndexed).2 ⟨name, hw⟩,
      (lacksMethod_of_soleResponder hd hw.1).2 h, except_error_bind]
  | container ho hc =>
    simp only [ho, locateBean, hc]
    rfl
  | bean container ho hc hobject =>
    simp only [ho, locateBean, hc, hobject]
    rfl
  | beanType container object ho hc hobject h =>
    simp only [ho, locateBean_eq, hc, hobject, (soleType_eq_error_iff hd.isIndexed).2 h,
      except_error_bind]
  | beanMethod container object name t ho hc hobject ht h =>
    simp only [ho, locateBean_eq, hc, hobject, (soleType_eq_ok_iff hd.isIndexed).2 ⟨name, ht⟩,
      except_ok_bind, (lacksMethod_of_soleResponder hd ht.1).2 h, except_error_bind]

/-- A resolution fails with the error of the first condition that fails. -/
theorem locate_eq_error_iff (hd : d.types.Reachable) {o : ServerObject} {e : ResolutionError} :
    d.locate o = .error e ↔ d.FailsWith o e := by
  refine ⟨fun h => ?_, locate_of_failsWith hd⟩
  rw [locate] at h
  cases ho : o.lookup with
  | new => exact failsWith_of_locateNew hd ho (by simpa only [ho] using h)
  | factory => exact failsWith_of_locateFactory hd ho (by simpa only [ho] using h)
  | bean => exact failsWith_of_locateBean hd ho (by simpa only [ho] using h)

/-! ## Success -/

theorem soleType_of_typeOf? {type : TypeId} {subject : String} {t : TypeTable σ}
    (h : d.typeOf? type subject = .ok (some t)) (unregistered : ResolutionError) :
    d.soleType type subject unregistered = .ok t := by
  rw [soleType, h]
  rfl

theorem exists_holdsOnly_of_typeOf? (hd : d.types.IsIndexed) {type : TypeId} {subject : String}
    {t : TypeTable σ} (h : d.typeOf? type subject = .ok (some t)) :
    ∃ name, d.types.HoldsOnly type name t :=
  (soleType_eq_ok_iff hd).1 (soleType_of_typeOf? h (.unknownType subject))

theorem isResolvable_of_locateNew {o : ServerObject} {route : Route σ} (ho : o.lookup = .new)
    (h : d.locateNew o = .ok route) : d.IsResolvable o := by
  obtain ⟨t, ht, hroute⟩ := locateNew_eq_ok h
  replace ht := typeNamed_eq_ok_iff.1 ht
  obtain ⟨body, ha, -⟩ | ⟨owner, body, construct, ha, hc, -⟩ := hroute
  · obtain ⟨m, hm⟩ := TypeTable.exists_soleResponder_iff.1 ⟨_, ha⟩
    exact .new t m ho ht hm (.inl ((TypeTable.isStatic_of_soleResponder hm ha).2 ⟨body, rfl⟩))
  · obtain ⟨m, hm⟩ := TypeTable.exists_soleResponder_iff.1 ⟨_, ha⟩
    exact .new t m ho ht hm (.inr (hc ▸ rfl))

theorem isResolvable_of_locateFactory (hd : d.types.IsIndexed) {o : ServerObject}
    {route : Route σ} (ho : o.lookup = .factory) (h : d.locateFactory o = .ok route) :
    d.IsResolvable o := by
  obtain ⟨t, construct, producer, worker, a, ht, hc, hp, hw, ha, -⟩ := locateFactory_eq_ok h
  obtain ⟨name, hw⟩ := exists_holdsOnly_of_typeOf? hd hw
  obtain ⟨m, hm⟩ := TypeTable.exists_soleResponder_iff.1 ⟨a, ha⟩
  exact .factory t producer.product name worker m ho (typeNamed_eq_ok_iff.1 ht) (hc ▸ rfl)
    (TypeTable.makes_iff.2 ⟨producer, hp, rfl⟩) hw hm

theorem isResolvable_of_locateBean (hd : d.types.IsIndexed) {o : ServerObject}
    {route : Route σ} (ho : o.lookup = .bean) (h : d.locateBean o = .ok route) :
    d.IsResolvable o := by
  obtain ⟨container, object, t, a, hc, hobject, ht, ha, -⟩ := locateBean_eq_ok h
  obtain ⟨name, ht⟩ := exists_holdsOnly_of_typeOf? hd ht
  obtain ⟨m, hm⟩ := TypeTable.exists_soleResponder_iff.1 ⟨a, ha⟩
  exact .bean container object name t m ho hc hobject ht hm

theorem exists_locate_of_isResolvable (hd : d.types.IsIndexed) {o : ServerObject}
    (h : d.IsResolvable o) : ∃ route, d.locate o = .ok route := by
  rw [locate]
  cases h with
  | new t m ho ht hm hneeds =>
    obtain ⟨a, ha⟩ := TypeTable.exists_soleResponder_iff.2 ⟨m, hm⟩
    simp only [ho, locateNew, typeNamed_eq_ok_iff.2 ht, except_ok_bind, ha]
    cases a with
    | static body => exact ⟨_, rfl⟩
    | onObject owner body =>
      obtain hs | hc := hneeds
      · obtain ⟨body', ⟨⟩⟩ := (TypeTable.isStatic_of_soleResponder hm ha).1 hs
      · obtain ⟨construct, hc⟩ := Option.isSome_iff_exists.1 hc
        simp only [hc]
        exact ⟨_, rfl⟩
  | factory t product name worker m ho ht hc hmakes hw hm =>
    obtain ⟨construct, hc⟩ := Option.isSome_iff_exists.1 hc
    obtain ⟨producer, hp, rfl⟩ := TypeTable.makes_iff.1 hmakes
    obtain ⟨a, ha⟩ := TypeTable.exists_soleResponder_iff.2 ⟨m, hm⟩
    simp only [ho, locateFactory_eq, typeNamed_eq_ok_iff.2 ht, except_ok_bind, hc, hp,
      (soleType_eq_ok_iff hd).2 ⟨name, hw⟩, ha]
    exact ⟨_, rfl⟩
  | bean container object name t m ho hc hobject ht hm =>
    obtain ⟨a, ha⟩ := TypeTable.exists_soleResponder_iff.2 ⟨m, hm⟩
    simp only [ho, locateBean_eq, hc, hobject, (soleType_eq_ok_iff hd).2 ⟨name, ht⟩,
      except_ok_bind, ha]
    exact ⟨_, rfl⟩

/-- A resolution succeeds when all it needs is there. -/
theorem exists_locate_iff (hd : d.types.IsIndexed) {o : ServerObject} :
    (∃ route, d.locate o = .ok route) ↔ d.IsResolvable o := by
  refine ⟨fun ⟨route, h⟩ => ?_, exists_locate_of_isResolvable hd⟩
  rw [locate] at h
  cases ho : o.lookup with
  | new => exact isResolvable_of_locateNew ho (by simpa only [ho] using h)
  | factory => exact isResolvable_of_locateFactory hd ho (by simpa only [ho] using h)
  | bean => exact isResolvable_of_locateBean hd ho (by simpa only [ho] using h)

/-! ## Resolutions -/

/-- A server object is resolved when all it needs is there. Otherwise the resolution ends in the
error of the first condition that fails, and nothing was done in the application. -/
theorem resolve_characterized (hd : d.types.Reachable) (id : String) (o : ServerObject) (s : σ) :
    ((∃ h s', (d.resolve id o).run.run s = (.ok h, s')) ↔ d.IsResolvable o) ∧
      ∀ e s', (d.resolve id o).run.run s = (.error e, s') ↔ d.FailsWith o e ∧ s' = s := by
  rw [← exists_locate_iff hd.isIndexed]
  simp only [← locate_eq_error_iff hd]
  cases hl : d.locate o with
  | error e =>
    rw [resolve_of_locate_error hl]
    refine ⟨⟨?_, ?_⟩, fun e' s' => ⟨?_, ?_⟩⟩
    · rintro ⟨h, s', ⟨⟩⟩
    · rintro ⟨route, ⟨⟩⟩
    · rintro ⟨⟩
      exact ⟨rfl, rfl⟩
    · rintro ⟨⟨⟩, rfl⟩
      rfl
  | ok route =>
    rw [run_resolve_of_locate_ok hl]
    refine ⟨⟨fun _ => ⟨route, rfl⟩, fun _ => ⟨_, _, rfl⟩⟩, fun e s' => ⟨?_, ?_⟩⟩
    · rintro ⟨⟩
    · rintro ⟨⟨⟩, -⟩

/-- A workroom with a maker, whose workers go by two names, and a bench, at which one can work in
two ways. -/
def atelier : Directory Unit where
  types := (((TypeRegister.empty.insert ⟨"painter", ⟨"41", "Worker"⟩, none, []⟩).insert
      ⟨"carver", ⟨"41", "Worker"⟩, none, []⟩).insert
    ⟨"maker", "Maker", some (return 0),
      [⟨createMethod, .producer ⟨"41", "Worker"⟩ fun _ => return 1⟩]⟩).insert
    ⟨"bench", "Bench", none, [⟨"work", .static fun _ => return .empty⟩,
      ⟨"work", .producer "Bench" fun _ => return 3⟩, ⟨"work", .onObject fun _ _ => return .empty⟩,
      ⟨"rest", .onObject fun _ _ => return .empty⟩]⟩
  container := some fun name => if name = "corner" then some ⟨"Bench", 2⟩ else none

theorem atelier_resolve_characterized :
    atelier.types.Reachable ∧ atelier.IsResolvable ⟨.bean, "corner", "rest"⟩ ∧
      atelier.FailsWith ⟨.factory, "maker", "work"⟩
        (.ambiguousType "Worker" ["carver", "painter"]) ∧
      atelier.FailsWith ⟨.new, "bench", "work"⟩ (.ambiguousMethod "bench" "work" 2) := by
  have hd : atelier.types.Reachable := .insert _ (.insert _ (.insert _ (.insert _ .empty)))
  have found := (resolve_characterized hd "h" ⟨.bean, "corner", "rest"⟩ ()).1
  have worker := (resolve_characterized hd "h" ⟨.factory, "maker", "work"⟩ ()).2
    (.ambiguousType "Worker" ["carver", "painter"]) ()
  have method := (resolve_characterized hd "h" ⟨.new, "bench", "work"⟩ ()).2
    (.ambiguousMethod "bench" "work" 2) ()
  exact ⟨hd, found.1 ⟨_, _, rfl⟩, (worker.1 rfl).1, (method.1 rfl).1⟩

end Directory

end Switchboard
