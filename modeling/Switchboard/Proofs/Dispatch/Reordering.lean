import Switchboard.Dispatch.Connection
import Switchboard.Proofs.Dispatch.Registrations

/-!
# The order of tables and methods

The tables of a register come in one after the other, and so do the methods of a table. Neither
order decides what a server object is resolved to, nor why it is not: a method has to be the only
one of its name, and a type that is known by its objects has to have one name. Only among the
methods by which a factory makes objects the first counts, so their order has to stay.

* `TypeTable.IsReordered`: the same table, its methods in another order.
* `TypeTable.IsReordered.soleResponder_eq`, `TypeTable.IsReordered.producer?_eq`: what is found in
  the table does not change.
* `TypeRegister.IsReordered`, `TypeRegister.isReordered_ofTables`: the same tables, put in in
  another order.
* `Directory.locate_of_reordered`: the same routes and the same errors.
* `Directory.resolve_of_reordered`: the same outcome of every resolution.
-/

namespace Switchboard

variable {σ : Type}

/-! ## Methods -/

/-- Whether a factory may make objects by the method. -/
def Method.makesObjects (m : Method σ) : Bool :=
  m.name = createMethod && !m.signature.answersRequests

@[simp] theorem Signature.producer?_isSome (owner : ObjectType) (s : Signature σ) :
    (s.producer? owner).isSome = !s.answersRequests := by
  cases s <;> rfl

namespace TypeTable

/-- The same table but for the order of the methods, and those by which it makes objects stand in
the same order. -/
structure IsReordered (t t' : TypeTable σ) : Prop where
  name_eq : t'.name = t.name
  owner_eq : t'.owner = t.owner
  construct_eq : t'.construct = t.construct
  methods_perm : t.methods.Perm t'.methods
  makers_eq : t'.methods.filter Method.makesObjects = t.methods.filter Method.makesObjects

variable {t t' : TypeTable σ}

theorem IsReordered.responders_perm (h : t.IsReordered t') (method : String) :
    (t.responders method).Perm (t'.responders method) := by
  rw [responders, responders, h.owner_eq]
  exact h.methods_perm.filterMap _

/-- The only method of a name is the only one in every order, and others are as many. -/
theorem IsReordered.soleResponder_eq (h : t.IsReordered t') (method : String) :
    t'.soleResponder method = t.soleResponder method := by
  have hp := h.responders_perm method
  have hl := hp.length_eq
  rw [soleResponder, soleResponder, h.name_eq]
  match hr : t.responders method, hr' : t'.responders method with
  | [], [] => rfl
  | [a], [b] =>
    rw [hr, hr', List.perm_singleton, List.singleton_inj] at hp
    rw [hp]
  | _ :: _ :: _, _ :: _ :: _ =>
    rw [hr, hr'] at hl
    exact congrArg (fun n => Except.error (ResolutionError.ambiguousMethod t.name method n)) hl.symm
  | [], _ :: _ | _ :: _, [] | [_], _ :: _ :: _ | _ :: _ :: _, [_] => simp [hr, hr'] at hl

/-- What a factory makes objects by stands among the methods that make objects. -/
theorem producer?_createMethod (t : TypeTable σ) :
    t.producer? createMethod =
      (t.methods.filter Method.makesObjects).findSome? (·.signature.producer? t.owner) := by
  rw [producer?]
  induction t.methods with
  | nil => rfl
  | cons m ms ih =>
    have hs := m.signature.producer?_isSome t.owner
    by_cases hm : m.name = createMethod
    · cases hp : m.signature.producer? t.owner <;> simp_all [Method.makesObjects]
    · simp [Method.makesObjects, hm, ih]

theorem IsReordered.producer?_eq (h : t.IsReordered t') :
    t'.producer? createMethod = t.producer? createMethod := by
  rw [producer?_createMethod, producer?_createMethod, h.makers_eq, h.owner_eq]

end TypeTable

/-! ## Tables -/

namespace TypeRegister

/-- The register that tables lead to, put in one after the other. -/
def ofTables (ts : List (TypeTable σ)) : TypeRegister σ := ts.foldl insert empty

/-- The same tables, each perhaps with its methods in another order, and the same contested names.
-/
structure IsReordered (r r' : TypeRegister σ) : Prop where
  get? : ∀ name, Option.Rel TypeTable.IsReordered (r.get? name) (r'.get? name)
  namesOf_eq : ∀ type, r'.namesOf type = r.namesOf type
  isContested_eq : ∀ name, r'.isContested name = r.isContested name

theorem reachable_ofTables (ts : List (TypeTable σ)) : (ofTables ts).Reachable :=
  List.foldlRecOn ts insert .empty fun _ h t _ => .insert t h

/-- Putting in a table contests no name. -/
@[simp] theorem isContested_ofTables (ts : List (TypeTable σ)) (name : String) :
    (ofTables ts).isContested name = false := by
  refine List.foldlRecOn (motive := fun r => r.isContested name = false) ts insert ?_
    fun r h t _ => ?_
  · simp [empty, isContested]
  · rw [isContested_insert, h, ite_self]

theorem isReordered_ofTables {ts ts' : List (TypeTable σ)}
    (h : ∀ name, Option.Rel TypeTable.IsReordered ((ofTables ts).get? name)
      ((ofTables ts').get? name)) : (ofTables ts).IsReordered (ofTables ts') where
  get? := h
  namesOf_eq := by
    refine namesOf_congr (reachable_ofTables ts).isIndexed (reachable_ofTables ts').isIndexed
      fun name => ?_
    have hn := h name
    generalize (ofTables ts).get? name = a at hn ⊢
    generalize (ofTables ts').get? name = b at hn ⊢
    cases hn with
    | none => rfl
    | some ht => exact congrArg (fun owner => some owner.id) ht.owner_eq
  isContested_eq name := by rw [isContested_ofTables, isContested_ofTables]

end TypeRegister

/-! ## Routes -/

namespace Directory

variable {d d' : Directory σ}

/-- What goes on alike with the same table, its methods in another order, goes on alike from a name.
-/
theorem typeNamed_bind_of_reordered (h : d.types.IsReordered d'.types) (name : String) {β : Type}
    {k k' : TypeTable σ → Except ResolutionError β} (hk : ∀ t t', t.IsReordered t' → k' t' = k t) :
    (d'.typeNamed name >>= k') = (d.typeNamed name >>= k) := by
  rw [typeNamed, typeNamed, h.isContested_eq]
  by_cases hc : d.types.isContested name = true
  · rw [if_pos hc, if_pos hc]
    rfl
  · rw [if_neg hc, if_neg hc]
    have hn := h.get? name
    generalize d.types.get? name = found at hn ⊢
    generalize d'.types.get? name = found' at hn ⊢
    cases hn with
    | none => rfl
    | some ht => exact hk _ _ ht

theorem typeOf?_bind_of_reordered (h : d.types.IsReordered d'.types) (type : TypeId)
    (subject : String) {β : Type} {k k' : Option (TypeTable σ) → Except ResolutionError β}
    (hk : ∀ found found', Option.Rel TypeTable.IsReordered found found' → k' found' = k found) :
    (d'.typeOf? type subject >>= k') = (d.typeOf? type subject >>= k) := by
  rw [typeOf?, typeOf?, h.namesOf_eq]
  split
  · exact hk none none .none
  · exact hk _ _ (h.get? _)
  · rfl

theorem locateNew_of_reordered (h : d.types.IsReordered d'.types) (o : ServerObject) :
    d'.locateNew o = d.locateNew o := by
  refine typeNamed_bind_of_reordered h o.target fun t t' ht => ?_
  rw [ht.soleResponder_eq, ht.construct_eq, TypeTable.type, ht.owner_eq, ht.name_eq]

theorem locateFactory_of_reordered (h : d.types.IsReordered d'.types) (o : ServerObject) :
    d'.locateFactory o = d.locateFactory o := by
  refine typeNamed_bind_of_reordered h o.target fun t t' ht => ?_
  rw [ht.construct_eq, ht.producer?_eq, TypeTable.type, ht.owner_eq, ht.name_eq]
  cases t.construct with
  | none => rfl
  | some construct =>
    cases t.producer? createMethod with
    | none => rfl
    | some producer =>
      refine typeOf?_bind_of_reordered h _ producer.product.name fun found found' hw => ?_
      cases hw with
      | none => rfl
      | some hw => simp only [hw.soleResponder_eq]

theorem locateBean_of_reordered (h : d.types.IsReordered d'.types)
    (hc : d'.container = d.container) (o : ServerObject) : d'.locateBean o = d.locateBean o := by
  rw [locateBean, locateBean, hc]
  cases d.container with
  | none => rfl
  | some container =>
    cases ho : container o.target with
    | none => simp only [ho]
    | some object =>
      simp only [ho]
      refine typeOf?_bind_of_reordered h object.type o.target fun found found' hw => ?_
      cases hw with
      | none => rfl
      | some hw => simp only [hw.soleResponder_eq]

/-- The order of tables and methods decides neither a route nor an error. -/
theorem locate_of_reordered (h : d.types.IsReordered d'.types) (hc : d'.container = d.container)
    (o : ServerObject) : d'.locate o = d.locate o := by
  rw [locate, locate]
  cases o.lookup with
  | new => exact locateNew_of_reordered h o
  | factory => exact locateFactory_of_reordered h o
  | bean => exact locateBean_of_reordered h hc o

/-- Two rows of tables that lead to the same names, under each of them the same table but for the
order of its methods, resolve every server object alike, whatever the container holds: with the same
error, or into handlers that reach the same code in the same way and so answer all requests alike.
-/
theorem resolve_of_reordered {ts ts' : List (TypeTable σ)}
    (h : ∀ name, Option.Rel TypeTable.IsReordered ((TypeRegister.ofTables ts).get? name)
      ((TypeRegister.ofTables ts').get? name))
    (container : Option Container) (id : String) (o : ServerObject) :
    (Directory.mk (.ofTables ts') container).locate o =
        (Directory.mk (.ofTables ts) container).locate o ∧
      (Directory.mk (.ofTables ts') container).resolve id o =
        (Directory.mk (.ofTables ts) container).resolve id o := by
  have types : (Directory.mk (.ofTables ts) container).types.IsReordered
      (Directory.mk (.ofTables ts') container).types := TypeRegister.isReordered_ofTables h
  have located := locate_of_reordered types rfl o
  exact ⟨located, by rw [resolve, resolve, located]⟩

/-- A mill whose factory can make two kinds of stones; the second one is known under two names. -/
def mill : List (TypeTable Unit) :=
  [⟨"stone", "Stone", none, [⟨"grind", .static fun _ => return .empty⟩,
      ⟨"rest", .static fun _ => return .empty⟩]⟩,
    ⟨"mill", "Grain", none, []⟩, ⟨"chip", "Pebble", none, []⟩, ⟨"grit", "Pebble", none, []⟩,
    ⟨"mill", "Mill", some (return 0), [⟨createMethod, .producer "Stone" fun _ => return 1⟩,
      ⟨"grind", .static fun _ => return .empty⟩,
      ⟨createMethod, .producer "Pebble" fun _ => return 2⟩]⟩]

/-- The same mill, told in another order. -/
def millAgain : List (TypeTable Unit) :=
  [⟨"grit", "Pebble", none, []⟩,
    ⟨"mill", "Mill", some (return 0), [⟨createMethod, .producer "Stone" fun _ => return 1⟩,
      ⟨createMethod, .producer "Pebble" fun _ => return 2⟩,
      ⟨"grind", .static fun _ => return .empty⟩]⟩,
    ⟨"chip", "Pebble", none, []⟩,
    ⟨"stone", "Stone", none, [⟨"rest", .static fun _ => return .empty⟩,
      ⟨"grind", .static fun _ => return .empty⟩]⟩]

theorem mill_resolve_of_reordered :
    (∀ name, Option.Rel TypeTable.IsReordered ((TypeRegister.ofTables mill).get? name)
      ((TypeRegister.ofTables millAgain).get? name)) ∧
    ∀ container id,
      (Directory.mk (.ofTables millAgain) container).resolve id ⟨.factory, "mill", "grind"⟩ =
        (Directory.mk (.ofTables mill) container).resolve id ⟨.factory, "mill", "grind"⟩ := by
  have same : ∀ name, Option.Rel TypeTable.IsReordered ((TypeRegister.ofTables mill).get? name)
      ((TypeRegister.ofTables millAgain).get? name) := by
    intro name
    simp only [TypeRegister.ofTables, mill, millAgain, List.foldl_cons, List.foldl_nil,
      TypeRegister.get?_insert]
    by_cases hm : "mill" = name
    · subst hm
      exact .some ⟨rfl, rfl, rfl, .cons _ (.swap _ _ _), rfl⟩
    by_cases hs : "stone" = name
    · subst hs
      exact .some ⟨rfl, rfl, rfl, .swap _ _ _, rfl⟩
    by_cases hc : "chip" = name
    · subst hc
      exact .some ⟨rfl, rfl, rfl, .refl _, rfl⟩
    by_cases hg : "grit" = name
    · subst hg
      exact .some ⟨rfl, rfl, rfl, .refl _, rfl⟩
    · simp only [if_neg hm, if_neg hs, if_neg hc, if_neg hg]
      exact .none
  exact ⟨same, fun container id => (resolve_of_reordered same container id _).2⟩

end Directory

end Switchboard
