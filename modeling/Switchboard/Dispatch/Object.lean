import Switchboard.Names

/-!
# Objects of the application

The code that answers requests belongs to an application, whose state is of some type `σ`. Its
objects are known here by their type and by a key that the application chose; what an object holds
is in the state. Work of the application may change the state.

Types are told apart by their identities. Code that is written for a type knows a name of it too,
which only reports show.

The surroundings of a program may hold objects under names. A container tells the object of a name;
a `Shelf` is a container that objects are put into one by one, the last under a name staying.

* `Shelf.find?_put`: what putting an object changes.
-/

namespace Switchboard

/-- The identity of a type of objects. -/
abbrev TypeId := String

/-- A type of objects as code knows it: its identity, and the name that reports show. -/
structure ObjectType where
  id : TypeId
  name : String
deriving DecidableEq, Repr

/-- A type whose qualified name in the application's code stands for its identity. -/
instance : Coe String ObjectType := ⟨fun name => ⟨name, name⟩⟩

/-- An object of the application. -/
structure Object where
  type : TypeId
  key : Nat
deriving DecidableEq, Repr

/-- Work of the application with a result. -/
abbrev Work (σ α : Type) : Type := StateM σ α

/-- Work of the application that may fail; what it did before it failed stays done. -/
abbrev Attempt (σ ε α : Type) : Type := ExceptT ε (StateM σ) α

/-! ## Objects under names -/

/-- What holds objects under names. -/
abbrev Container := String → Option Object

/-- Objects put under names. -/
structure Shelf where
  objects : Std.ExtTreeMap String Object

namespace Shelf

/-- The shelf without objects. -/
def empty : Shelf := ⟨∅⟩

/-- Puts an object under a name. -/
def put (s : Shelf) (name : String) (o : Object) : Shelf := ⟨s.objects.insert name o⟩

/-- The object under a name. -/
def find? (s : Shelf) : Container := fun name => s.objects[name]?

@[simp] theorem find?_put (s : Shelf) (name : String) (o : Object) (k : String) :
    (s.put name o).find? k = if name = k then some o else s.find? k := by
  rw [find?, put, Names.getElem?_insert]
  rfl

end Shelf

end Switchboard
