import Switchboard.CommandLine.Run
import Switchboard.Proofs.Registry.Metadata

/-!
# Reports on data sources

The commands that report on a data source only look at the registry. What they write does not hang
on the state of the application, and of two registries that know the same of data sources they write
the same.

* `Report.printed`: what a report writes, and how it ends.
* `IsStateless`: a report that writes the same in all states.
* `isStateless_relations`, `isStateless_templating`: the reports on a data source do.
* `printed_relations_eq`, `printed_templating_eq`: registries that know the same have the same
  written of them.
-/

namespace Switchboard.CommandLine

variable {σ α β : Type}

/-- What a report leaves of a text that it is written behind, and how it ends, where it starts in a
state of the application. -/
def Report.printed (x : Report σ α) (out : String) (s : σ) : Except Error α × String :=
  ((x.run.run out).run s).1

/-! ## Reports that hang on no state -/

/-- A report writes the same and ends alike in all states of the application. -/
def IsStateless (x : Report σ α) : Prop := ∀ out s t, x.printed out s = x.printed out t

theorem isStateless_pure (a : α) : IsStateless (pure a : Report σ α) := fun _ _ _ => rfl

theorem isStateless_throw (e : Error) : IsStateless (throw e : Report σ α) := fun _ _ _ => rfl

theorem isStateless_writeLine (line : String) : IsStateless (writeLine line : Report σ Unit) :=
  fun _ _ _ => rfl

theorem isStateless_orFail {ε : Type} (f : ε → Error) (x : Except ε α) :
    IsStateless (orFail f x : Report σ α) := by
  cases x with
  | error e => exact isStateless_throw (f e)
  | ok a => exact isStateless_pure a

theorem IsStateless.bind {x : Report σ α} {k : α → Report σ β} (hx : IsStateless x)
    (hk : ∀ a, IsStateless (k a)) : IsStateless (x >>= k) := by
  intro out s t
  have h := hx out s t
  unfold Report.printed at h ⊢
  rw [ExceptT.run_bind, StateT.run_bind, StateT.run_bind, StateT.run_bind]
  generalize (x.run.run out).run s = u at h ⊢
  generalize (x.run.run out).run t = v at h ⊢
  obtain ⟨⟨result, text⟩, s'⟩ := u
  obtain ⟨written, t'⟩ := v
  obtain rfl : (result, text) = written := h
  cases result with
  | error e => rfl
  | ok a => exact hk a text s' t'

theorem isStateless_forIn {xs : List α} {f : α → Report σ Unit} (h : ∀ x, IsStateless (f x)) :
    IsStateless (forIn xs PUnit.unit fun x _ => do f x; pure (ForInStep.yield PUnit.unit)) := by
  induction xs with
  | nil => exact isStateless_pure _
  | cons x xs ih =>
    rw [List.forIn_cons, bind_assoc]
    exact (h x).bind fun _ => ih

theorem isStateless_relations (r : Registry σ Id) (dataSource : String) :
    IsStateless (relations r dataSource) := by
  refine (isStateless_orFail _ _).bind fun keys => ?_
  refine (isStateless_forIn fun k => isStateless_writeLine (keyLine k)).bind fun _ => ?_
  refine (isStateless_orFail _ _).bind fun imports => ?_
  exact (isStateless_forIn fun i => isStateless_writeLine (importLine i)).bind fun _ =>
    isStateless_pure _

theorem isStateless_templating (r : Registry σ Id) (dataSource : String) (operation : Operation)
    (operationId : Option String) :
    IsStateless (templating r dataSource operation operationId) := by
  refine (isStateless_orFail _ _).bind fun h => ?_
  cases h.dataSource with
  | none => exact isStateless_throw _
  | some d =>
    dsimp only
    cases d.bindingFor? { Request.new dataSource operation with operationId } with
    | none => exact (isStateless_writeLine _).bind fun _ => isStateless_writeLine _
    | some b =>
      refine (isStateless_writeLine _).bind fun _ => ?_
      refine (isStateless_forIn fun line => isStateless_writeLine line).bind fun _ => ?_
      exact isStateless_writeLine _

/-! ## Registries that know the same -/

section

variable {r r' : Registry σ Id} (h : r.KnowsSame r')
include h

/-- The relations of any data source are reported alike. -/
theorem printed_relations_eq (dataSource out : String) (s t : σ) :
    (relations r dataSource).printed out s = (relations r' dataSource).printed out t := by
  rw [isStateless_relations r dataSource out s t]
  unfold relations
  rw [h.foreignKeysOf, h.importsOf]

/-- So are the bindings of a data source that is there. -/
theorem printed_templating_eq {id : String} {d : DataSource} (hd : r.dataSource? id = some d)
    (operation : Operation) (operationId : Option String) (out : String) (s t : σ) :
    (templating r id operation operationId).printed out s =
      (templating r' id operation operationId).printed out t := by
  obtain ⟨g, hg, hgd⟩ := Option.bind_eq_some_iff.1 hd
  obtain ⟨g', hg', hgd'⟩ := Option.bind_eq_some_iff.1 (congrFun h.dataSource?_eq id ▸ hd)
  rw [isStateless_templating r id operation operationId out s t]
  simp only [templating, Registry.lookup, hg, hg', orFail, pure_bind, hgd, hgd']

end

end Switchboard.CommandLine
