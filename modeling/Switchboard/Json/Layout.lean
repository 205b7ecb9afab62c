import Switchboard.Json.Value

/-!
# Layouts of typed records

A `Shape` reads and writes the values of a type. A `Layout` describes a record type by its slots:
the name of each, other names it is read under, whether it may be left out, and how it is read into
and written from a record. The shape of a layout reads an object, whose members may come in any
order, or a list of the values of the slots in their order; it writes an object with the slots in
their order, under their own names.

Members are read one after the other, so the first fault in the order of the tree is the one
reported. A slot may be given once. A member of another name is a fault where the layout is closed,
and is passed over elsewhere.

* `Layout.slot?_some`: a member is read by a slot that has its name.
* `Shape.readList_map_write`: a list reads back when its items do.
-/

namespace Switchboard.Json

/-- Why a tree cannot be read as a type. -/
inductive ReadError where
  /-- The tree has another form than the type. -/
  | form
  /-- The tree is marked as a value of some other kind. -/
  | marker (name : String)
deriving DecidableEq, Repr

/-- What a format leaves open. -/
structure Dialect where
  /-- The trees that stand beside the name of a choice that is given as an object. -/
  isUnit : Json → Bool
  /-- Whether a list may go on behind the last slot. -/
  longLists : Bool

/-- JSON itself: a choice has null beside its name, and a list ends with the last slot. -/
def Dialect.strict : Dialect := ⟨fun j => j = .null, false⟩

/-- How the values of a type are read and written. -/
structure Shape (α : Type) where
  read : Dialect → Json → Except ReadError α
  write : α → Json

/-- Whether a slot may be left out. -/
inductive Presence where
  /-- It has to be given. -/
  | required
  /-- It may be left out. -/
  | optional
  /-- It may be left out of an object, not of a list. -/
  | optionalByName
deriving DecidableEq

/-- A slot of a record type. -/
structure Slot (α : Type) where
  key : String
  aliases : List String
  presence : Presence
  read : Dialect → Json → α → Except ReadError α
  write : α → Option Json

/-- A record type: what a record is before any slot is read, the slots in order, and whether members
of other names are faults. -/
structure Layout (α : Type) where
  blank : α
  slots : List (Slot α)
  isClosed : Bool

/-! ## Slots -/

namespace Slot

variable {α β : Type}

/-- The names a slot is read under. -/
def names (s : Slot α) : List String := s.key :: s.aliases

/-- A slot that has to be given. -/
def required (key : String) (aliases : List String) (shape : Shape β) (get : α → β)
    (set : α → β → α) : Slot α :=
  ⟨key, aliases, .required, fun d j a => (shape.read d j).map (set a),
    fun a => some (shape.write (get a))⟩

/-- A slot that may be left out, in which case the record keeps what it is without it. -/
def defaulted (key : String) (aliases : List String) (shape : Shape β) (get : α → β)
    (set : α → β → α) : Slot α :=
  { required key aliases shape get set with presence := .optional }

/-- A slot for a value that may be absent; null stands for absence, and absence is not written. -/
def optional (key : String) (aliases : List String) (shape : Shape β) (get : α → Option β)
    (set : α → Option β → α) : Slot α :=
  ⟨key, aliases, .optional,
    fun d j a =>
      if j = .null then .ok (set a none) else (shape.read d j).map fun b => set a (some b),
    fun a => (get a).map shape.write⟩

/-- A slot for a value that may be absent, whose absence is written as null. -/
def nullable (key : String) (aliases : List String) (shape : Shape β) (get : α → Option β)
    (set : α → Option β → α) : Slot α :=
  { optional key aliases shape get set with
    presence := .optionalByName
    write := fun a => some (((get a).map shape.write).getD .null) }

end Slot

/-! ## Layouts -/

namespace Layout

variable {α : Type}

/-- The slot that a name is read by. -/
def slot? (l : Layout α) (key : String) : Option (Slot α) :=
  l.slots.find? fun s => s.names.contains key

theorem slot?_some {l : Layout α} {key : String} {s : Slot α} (h : l.slot? key = some s) :
    s ∈ l.slots ∧ key ∈ s.names :=
  ⟨List.mem_of_find?_eq_some h, by simpa using List.find?_some h⟩

/-- Whether all slots that have to be given are among the ones read. -/
def complete (l : Layout α) (seen : List String) : Bool :=
  l.slots.all fun s => s.presence != .required || seen.contains s.key

/-- Reads the members of an object into a record of which some slots are read. -/
def readMembers (l : Layout α) (d : Dialect) (seen : List String) (a : α) :
    List (String × Json) → Except ReadError α
  | [] => if l.complete seen then .ok a else .error .form
  | (key, j) :: ms =>
    match l.slot? key with
    | none =>
      if l.isClosed || !j.isHarmless then .error .form else l.readMembers d seen a ms
    | some s =>
      if seen.contains s.key then .error .form
      else match s.read d j a with
        | .error e => .error e
        | .ok b => l.readMembers d (s.key :: seen) b ms

/-- Reads the items of a list into the slots in their order. -/
def readItems (d : Dialect) (a : α) : List (Slot α) → List Json → Except ReadError α
  | [], items => if items.isEmpty || d.longLists then .ok a else .error .form
  | slots, [] => if slots.all (·.presence == .optional) then .ok a else .error .form
  | s :: slots, j :: items =>
    match s.read d j a with
    | .error e => .error e
    | .ok b => readItems d b slots items

/-- Reads an object or a list as a record. -/
def read (l : Layout α) (d : Dialect) : Json → Except ReadError α
  | .object ms => l.readMembers d [] l.blank ms
  | .list items => readItems d l.blank l.slots items
  | _ => .error .form

/-- Writes a record as an object. -/
def write (l : Layout α) (a : α) : Json :=
  .object (l.slots.filterMap fun s => (s.write a).map fun j => (s.key, j))

/-- The shape of a record type. -/
def shape (l : Layout α) : Shape α := ⟨l.read, l.write⟩

end Layout

/-! ## Shapes -/

namespace Shape

variable {α : Type}

/-- A text. -/
def text : Shape String where
  read _
    | .string s => .ok s
    | _ => .error .form
  write := .string

/-- Any value. -/
def value : Shape Value where
  read _ j := match Value.ofJson? j with
    | some v => .ok v
    | none => .error .form
  write := Value.json

/-- Values by name. -/
def record : Shape Record where
  read _ j := match Record.ofJson? j with
    | some r => .ok r
    | none => .error .form
  write r := .object r.members

/-- An unsigned integer of 64 bits. -/
def count : Shape Nat where
  read _
    | .number (.int (.ofNat n)) => if n ≤ Decimal.Literal.limit then .ok n else .error .form
    | _ => .error .form
  write n := .number (.int n)

/-- Reads every item of a list. -/
def readList (s : Shape α) (d : Dialect) : List Json → Except ReadError (List α)
  | [] => .ok []
  | j :: js =>
    match s.read d j with
    | .error e => .error e
    | .ok a => (readList s d js).map (a :: ·)

theorem readList_map_write {s : Shape α} {d : Dialect} {as : List α}
    (h : ∀ a ∈ as, s.read d (s.write a) = .ok a) : readList s d (as.map s.write) = .ok as := by
  induction as with
  | nil => rfl
  | cons a as ih =>
    obtain ⟨ha, hs⟩ := List.forall_mem_cons.1 h
    simp [readList, ha, ih hs, Except.map]

/-- A list of values of one shape. -/
def list (s : Shape α) : Shape (List α) where
  read d
    | .list items => readList s d items
    | _ => .error .form
  write as := .list (as.map s.write)

/-- A choice by name: its name alone, or an object that has it as the only member. -/
def choice (read? : String → Option α) (name : α → String) : Shape α where
  read d j :=
    let found := match j with
      | .string s => read? s
      | .object [(s, content)] => if d.isUnit content then read? s else none
      | _ => none
    match found with
    | some a => .ok a
    | none => .error .form
  write a := .string (name a)

end Shape

end Switchboard.Json
