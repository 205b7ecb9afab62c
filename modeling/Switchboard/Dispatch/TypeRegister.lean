import Std.Data.ExtTreeSet
import Switchboard.Dispatch.TypeTable

/-!
# Registers of types

A register holds method tables by name, and knows under which names each type stands in it. A table
takes the place of an earlier one of its name. Where an application collects registrations from many
places, no order among them decides: a name that is registered there more than once is contested,
and holds no table until one is inserted for it.

* `get?_insert`: what an insertion changes.
-/

namespace Switchboard

open Std (ExtTreeMap ExtTreeSet)

variable {σ : Type}

/-- Names by the type that stands under them. -/
abbrev NameIndex : Type := ExtTreeMap TypeId (ExtTreeSet String)

namespace NameIndex

/-- The names of a type. -/
def namesOf (index : NameIndex) (type : TypeId) : ExtTreeSet String := index[type]?.getD ∅

/-- One more name of a type. -/
def add (index : NameIndex) (type : TypeId) (name : String) : NameIndex :=
  index.insert type ((index.namesOf type).insert name)

/-- A type without one of its names; a type without names is not kept. -/
def drop (index : NameIndex) (type : TypeId) (name : String) : NameIndex :=
  if ((index.namesOf type).erase name).isEmpty then index.erase type
  else index.insert type ((index.namesOf type).erase name)

end NameIndex

/-- Method tables by name, the names of each type, and the contested names. -/
structure TypeRegister (σ : Type) where
  tables : ExtTreeMap String (TypeTable σ)
  names : NameIndex
  contested : ExtTreeSet String

namespace TypeRegister

/-- The register without tables. -/
def empty : TypeRegister σ := ⟨∅, ∅, ∅⟩

instance : Inhabited (TypeRegister σ) := ⟨empty⟩

/-- The table of a name. -/
def get? (r : TypeRegister σ) (name : String) : Option (TypeTable σ) := r.tables[name]?

/-- The names a type is registered under, in order. -/
def namesOf (r : TypeRegister σ) (type : TypeId) : List String :=
  (r.names.namesOf type).toList

/-- Whether a name is contested. -/
def isContested (r : TypeRegister σ) (name : String) : Bool := r.contested.contains name

/-- The number of tables. -/
def size (r : TypeRegister σ) : Nat := r.tables.size

/-- Whether there are no tables. -/
def isEmpty (r : TypeRegister σ) : Bool := r.tables.isEmpty

/-- The register without the table of a name. -/
def erase (r : TypeRegister σ) (name : String) : TypeRegister σ :=
  match r.tables[name]? with
  | none => r
  | some t => { r with tables := r.tables.erase name, names := r.names.drop t.type name }

/-- The register with a table, which takes the place of one of its name. -/
def insert (r : TypeRegister σ) (t : TypeTable σ) : TypeRegister σ :=
  let r := r.erase t.name
  ⟨r.tables.insert t.name t, r.names.add t.type t.name, r.contested.erase t.name⟩

/-- The register with one registration more: a name met for the second time is contested, and stays
so. -/
def register (r : TypeRegister σ) (t : TypeTable σ) : TypeRegister σ :=
  if r.isContested t.name then r
  else if r.tables.contains t.name then
    { r.erase t.name with contested := r.contested.insert t.name }
  else r.insert t

/-- The register of registrations from many places. -/
def ofRegistrations (ts : List (TypeTable σ)) : TypeRegister σ :=
  ts.foldl register empty

@[simp] theorem tables_erase (r : TypeRegister σ) (name : String) :
    (r.erase name).tables = r.tables.erase name := by
  unfold erase
  split
  · next h =>
    apply ExtTreeMap.ext_getElem?
    intro k
    rw [Names.getElem?_erase]
    split
    · next hk =>
      rw [← hk]
      exact h
    · rfl
  · rfl

@[simp] theorem get?_insert (r : TypeRegister σ) (t : TypeTable σ) (name : String) :
    (r.insert t).get? name = if t.name = name then some t else r.get? name := by
  simp only [get?, insert, tables_erase, Names.getElem?_insert, Names.getElem?_erase]
  split
  · rfl
  · rfl

end TypeRegister

end Switchboard
