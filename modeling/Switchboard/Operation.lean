import Switchboard.Json.Layout

/-!
# Operations

The kinds of operation that a request performs on a data source. Each has a name on the wire, and
they are ordered as they are listed here.

* `ofName?_eq_some_iff`: a name is read as the operation it belongs to.
* `sort_perm`, `sort_pairwise`: sorting keeps the operations and puts them in their order.
-/

namespace Switchboard

open Json (Shape)

/-- The kind of operation that a request performs. -/
inductive Operation where
  | fetch
  | add
  | update
  | remove
  | custom
deriving DecidableEq, Repr

namespace Operation

/-- The operations in their order. -/
def all : List Operation := [fetch, add, update, remove, custom]

/-- The name on the wire. -/
def name : Operation → String
  | fetch => "fetch"
  | add => "add"
  | update => "update"
  | remove => "remove"
  | custom => "custom"

/-- The operation of a name. -/
def ofName? (s : String) : Option Operation :=
  all.find? (·.name = s)

/-- The place of an operation in the order. -/
def rank : Operation → Nat
  | fetch => 0
  | add => 1
  | update => 2
  | remove => 3
  | custom => 4

instance : LE Operation := ⟨fun a b => a.rank ≤ b.rank⟩

instance (a b : Operation) : Decidable (a ≤ b) := inferInstanceAs (Decidable (a.rank ≤ b.rank))

/-- The operations of a list in their order. -/
def sort (ops : List Operation) : List Operation :=
  ops.mergeSort fun a b => decide (a ≤ b)

/-- What is reported of a name that no operation has. -/
def unknownMessage (s : String) : String :=
  s!"unknown operation type '{s}'"

/-- An operation is given by its name. -/
def shape : Shape Operation := .choice ofName? name

@[simp] theorem ofName?_name (op : Operation) : ofName? op.name = some op := by
  cases op <;> decide

theorem ofName?_eq_some_iff {s : String} {op : Operation} : ofName? s = some op ↔ op.name = s := by
  constructor
  · intro h
    simpa using List.find?_some h
  · rintro rfl
    exact ofName?_name op

theorem sort_perm (ops : List Operation) : (sort ops).Perm ops :=
  List.mergeSort_perm ops _

theorem le_trans {a b c : Operation} (hab : a ≤ b) (hbc : b ≤ c) : a ≤ c :=
  Nat.le_trans hab hbc

theorem le_total (a b : Operation) : a ≤ b ∨ b ≤ a :=
  Nat.le_total a.rank b.rank

theorem sort_pairwise (ops : List Operation) : (sort ops).Pairwise (· ≤ ·) := by
  have h : (sort ops).Pairwise fun a b => decide (a ≤ b) = true := by
    apply List.pairwise_mergeSort
    · intro a b c hab hbc
      exact decide_eq_true (le_trans (of_decide_eq_true hab) (of_decide_eq_true hbc))
    · intro a b
      rw [Bool.or_eq_true, decide_eq_true_iff, decide_eq_true_iff]
      exact le_total a b
  exact h.imp of_decide_eq_true

end Operation

end Switchboard
