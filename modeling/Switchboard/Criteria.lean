import Switchboard.Json.Layout

/-!
# Criteria

The filter of a request is either a flat record of values by field, or a tree of conditions: a leaf
compares a field with a value, an inner node joins conditions by an operator. On the wire a tree is
an object marked with `_constructor`; every other object is a flat filter.

A node of a tree is read from an object of no other members than the five it may have, or from a
list of them in order. The mark is checked once the node is read; it may be missing or null inside
the tree. Which of several members of one name counts is settled for a whole filter before it is
read, and is a fault in a node on its own.

* `Criteria.read_eq`: a filter is read through its record.
-/

namespace Switchboard

open Json (ReadError Dialect Shape)

/-- A condition, or several joined by an operator. -/
structure Condition where
  operator : String
  field : Option String
  value : Option Value
  nested : List Condition

namespace Condition

instance : Inhabited Condition := ⟨⟨"", none, none, []⟩⟩

/-- A field compared with a value. -/
def leaf (operator field : String) (value : Value) : Condition :=
  ⟨operator, some field, some value, []⟩

/-- Conditions joined by an operator. -/
def join (operator : String) (nested : List Condition) : Condition :=
  ⟨operator, none, none, nested⟩

/-! ## Equality -/

mutual

/-- Decides whether two conditions are the same. -/
def decideEq : (a b : Condition) → Decidable (a = b)
  | ⟨o, f, v, cs⟩, ⟨p, g, w, ds⟩ =>
    @decidable_of_iff _ ((o = p ∧ f = g ∧ v = w) ∧ cs = ds) (by simp [and_assoc])
      (@instDecidableAnd _ _ _ (decideEqNested cs ds))
termination_by structural a => a

/-- Decides whether two lists of conditions are the same. -/
def decideEqNested : (as bs : List Condition) → Decidable (as = bs)
  | [], [] => isTrue rfl
  | a :: as, b :: bs =>
    @decidable_of_iff _ (a = b ∧ as = bs) (by simp)
      (@instDecidableAnd _ _ (decideEq a b) (decideEqNested as bs))
  | [], _ :: _ | _ :: _, [] => isFalse nofun
termination_by structural as => as

end

instance : DecidableEq Condition := decideEq

/-! ## The form on the wire -/

/-- The name of the mark. -/
def markKey : String := "_constructor"

/-- The mark of a tree of conditions. -/
def mark : String := "AdvancedCriteria"

/-- What is reported of a node with another mark. -/
def markMessage (name : String) : String :=
  s!"unexpected {markKey} '{name}'"

/-- The members of a node, in their order. -/
def keys : List String := [markKey, "operator", "fieldName", "value", "criteria"]

/-- A node of which some members are read. -/
structure Draft where
  seen : List String
  marked : Option String
  operator : Option String
  field : Option String
  value : Option Value
  nested : List Condition

/-- A node of which nothing is read. -/
def Draft.blank : Draft := ⟨[], none, none, none, none, []⟩

/-- The node, once all that is given was read: it has an operator and no other mark. -/
def Draft.finish (d : Draft) : Except ReadError Condition :=
  match d.operator with
  | none => .error .form
  | some operator =>
    match d.marked with
    | none => .ok ⟨operator, d.field, d.value, d.nested⟩
    | some m =>
      if m = mark then .ok ⟨operator, d.field, d.value, d.nested⟩ else .error (.marker m)

/-- Reads a text that may be null. -/
def readText? : Json → Except ReadError (Option String)
  | .null => .ok none
  | .string s => .ok (some s)
  | _ => .error .form

/-- Reads a value that may be null. -/
def readValue? (j : Json) : Except ReadError (Option Value) :=
  match Value.ofJson? j with
  | some v => .ok (if v.json = .null then none else some v)
  | none => .error .form

/-- Reads a member that holds no conditions. -/
def Draft.readPlain (d : Draft) (key : String) (j : Json) : Except ReadError Draft :=
  if key = markKey then (readText? j).map fun s => { d with marked := s }
  else if key = "operator" then
    match j with
    | .string s => .ok { d with operator := some s }
    | _ => .error .form
  else if key = "fieldName" then (readText? j).map fun s => { d with field := s }
  else if key = "value" then (readValue? j).map fun v => { d with value := v }
  else .error .form

mutual

/-- Reads a condition from an object or from a list of its members. -/
def read : Json → Except ReadError Condition
  | .object ms =>
    match readMembers .blank ms with
    | .error e => .error e
    | .ok d => d.finish
  | .list items =>
    match readItems .blank keys items with
    | .error e => .error e
    | .ok d => d.finish
  | _ => .error .form
termination_by structural j => j

/-- Reads the member of a name, which must not have been read before. -/
def readMember (d : Draft) (key : String) : Json → Except ReadError Draft
  | .list items =>
    if d.seen.contains key then .error .form
    else if key = "criteria" then
      match readNested items with
      | .error e => .error e
      | .ok cs => .ok { d with nested := cs, seen := key :: d.seen }
    else (d.readPlain key (.list items)).map fun d => { d with seen := key :: d.seen }
  | j =>
    if d.seen.contains key then .error .form
    else (d.readPlain key j).map fun d => { d with seen := key :: d.seen }
termination_by structural j => j

/-- Reads the members of an object one after the other. -/
def readMembers (d : Draft) : List (String × Json) → Except ReadError Draft
  | [] => .ok d
  | (key, j) :: ms =>
    match readMember d key j with
    | .error e => .error e
    | .ok d => readMembers d ms
termination_by structural ms => ms

/-- Reads the items of a list as the members of the given names; the rest may be left off. -/
def readItems (d : Draft) (keys : List String) : List Json → Except ReadError Draft
  | [] => .ok d
  | j :: js =>
    match keys with
    | [] => .error .form
    | key :: keys =>
      match readMember d key j with
      | .error e => .error e
      | .ok d => readItems d keys js
termination_by structural js => js

/-- Reads every item of a list as a condition. -/
def readNested : List Json → Except ReadError (List Condition)
  | [] => .ok []
  | j :: js =>
    match read j with
    | .error e => .error e
    | .ok c => (readNested js).map (c :: ·)
termination_by structural js => js

end

mutual

/-- The members of a condition; those that are absent or empty are left out. -/
def members : Condition → List (String × Json)
  | ⟨operator, field, value, nested⟩ =>
    ("operator", .string operator) ::
      ((field.map fun s => ("fieldName", Json.string s)).toList ++
        (value.map fun v => ("value", v.json)).toList ++
        if nested.isEmpty then [] else [("criteria", .list (writeNested nested))])
termination_by structural c => c

/-- Writes every condition of a list as an object. -/
def writeNested : List Condition → List Json
  | [] => []
  | c :: cs => .object c.members :: writeNested cs
termination_by structural cs => cs

end

/-- Writes a condition as an object without a mark. -/
def write (c : Condition) : Json := .object c.members

/-- Conditions on their own are read and written without a mark. -/
def shape : Shape Condition := ⟨fun _ => read, write⟩

end Condition

/-- The filter of a request. -/
inductive Criteria where
  /-- A tree of conditions. -/
  | advanced (condition : Condition)
  /-- Values by field. -/
  | simple (filter : Record)
deriving DecidableEq

namespace Criteria

/-- Whether a record is marked as a tree of conditions. -/
def isMarked (r : Record) : Bool :=
  Json.find? Condition.markKey r.members = some (.string Condition.mark)

/-- Reads a record as a filter. -/
def ofRecord (r : Record) : Except ReadError Criteria :=
  if isMarked r then (Condition.read (.object r.members)).map .advanced else .ok (.simple r)

/-- Reads a filter. -/
def read (j : Json) : Except ReadError Criteria :=
  match Record.ofJson? j with
  | some r => ofRecord r
  | none => .error .form

/-- Writes a filter; a tree is marked. -/
def write : Criteria → Json
  | advanced c => .object ((Condition.markKey, .string Condition.mark) :: c.members)
  | simple r => .object r.members

/-- The filter as a value, without the mark of a tree. -/
def toValue : Criteria → Value
  | advanced c => (Value.ofJson? c.write).getD .null
  | simple r => .ofRecord r

/-- Filters are marked where they are trees. -/
def shape : Shape Criteria := ⟨fun _ => read, write⟩

theorem read_eq {j : Json} {r : Record} (h : Record.ofJson? j = some r) : read j = ofRecord r := by
  rw [read, h]

@[simp] theorem read_object (r : Record) : read (.object r.members) = ofRecord r :=
  read_eq (Record.ofJson?_object r)

end Criteria

end Switchboard
