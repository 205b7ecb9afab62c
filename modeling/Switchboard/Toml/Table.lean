import Switchboard.Json.Basic

/-!
# TOML tables

A table may be opened by a header, implied by a longer header, or made by a key with dots. What
opened it decides how it may grow. A header opens a table once, and may open one that was only
implied. A key with dots grows tables made by such keys, and implied ones, which then count as made
by it, but not one that a header opened. Arrays of tables grow by headers; headers and keys with
dots pass through the last of their tables. A value, be it a table itself, does not grow at all.

* `child?_put`: what putting in a child changes.
-/

namespace Switchboard.Toml

/-- What opened a table. -/
inductive Opening where
  | header
  | implied
  | dotted
deriving DecidableEq, Repr

/-- What stands under a key. -/
inductive Node where
  | value (j : Json)
  | table (opening : Opening) (children : List (String × Node))
  /-- The tables of an array, the last one first. -/
  | tables (latest : List (String × Node)) (earlier : List (List (String × Node)))

/-- The children of a table by key. -/
abbrev Children : Type := List (String × Node)

/-- The child of a key. -/
def child? (key : String) : Children → Option Node
  | [] => none
  | c :: cs => if c.1 = key then some c.2 else child? key cs

/-- Puts a child under a key, in the place of an earlier one. -/
def put (key : String) (node : Node) : Children → Children
  | [] => [(key, node)]
  | c :: cs => if c.1 = key then (key, node) :: cs else c :: put key node cs

@[simp] theorem child?_put (key : String) (node : Node) (cs : Children) (k : String) :
    child? k (put key node cs) = if key = k then some node else child? k cs := by
  induction cs with
  | nil => simp [put, child?]
  | cons c cs ih =>
    rw [put]
    split
    · next h => by_cases hk : key = k <;> simp [child?, h, hk]
    · next h =>
      rw [child?, ih, child?]
      by_cases hk : key = k
      · rw [if_neg fun hc => h (hc.trans hk.symm), if_pos hk, if_pos hk]
      · rw [if_neg hk, if_neg hk]

/-- Changes the table at the end of a path, making the tables on the way. A key with dots marks the
tables that it passes. -/
def grow? (dotted : Bool) (change : Opening → Children → Option Children) :
    List String → Opening → Children → Option Children
  | [], opening, cs => change opening cs
  | key :: path, _, cs =>
    match child? key cs with
    | none => do
      let opening := if dotted then .dotted else .implied
      let inner ← grow? dotted change path opening []
      return put key (.table opening inner) cs
    | some (.value _) => none
    | some (.table opening inner) =>
      if dotted ∧ opening = .header then none
      else
        let opening := if dotted then .dotted else opening
        (grow? dotted change path opening inner).map fun inner => put key (.table opening inner) cs
    | some (.tables latest earlier) =>
      (grow? dotted change path .header latest).map fun latest =>
        put key (.tables latest earlier) cs

/-- Puts a value under a key with dots, which must be new. -/
def insert? (path : List String) (j : Json) (opening : Opening) (cs : Children) :
    Option Children := do
  let key ← path.getLast?
  let change := fun (opening : Opening) (cs : Children) =>
    if decide (opening = .dotted) == (path.length == 1) then none
    else if (child? key cs).isSome then none
    else some (put key (.value j) cs)
  grow? true change path.dropLast opening cs

/-- Opens the table of a header. -/
def openTable? (path : List String) (root : Children) : Option Children := do
  let key ← path.getLast?
  let change := fun (_ : Opening) (cs : Children) =>
    match child? key cs with
    | none => some (put key (.table .header []) cs)
    | some (.table .implied inner) => some (put key (.table .header inner) cs)
    | _ => none
  grow? false change path.dropLast .header root

/-- Opens one more table of the array of a header. -/
def openArray? (path : List String) (root : Children) : Option Children := do
  let key ← path.getLast?
  let change := fun (_ : Opening) (cs : Children) =>
    match child? key cs with
    | none => some (put key (.tables [] []) cs)
    | some (.tables latest earlier) => some (put key (.tables [] (latest :: earlier)) cs)
    | _ => none
  grow? false change path.dropLast .header root

mutual

/-- The tree of what stands under a key. -/
def Node.toJson : Node → Json
  | .value j => j
  | .table _ children => .object (members children)
  | .tables latest earlier => .list (tablesToJson earlier ++ [.object (members latest)])
termination_by structural n => n

/-- The members of a table. -/
def members : List (String × Node) → List (String × Json)
  | [] => []
  | (key, node) :: cs => (key, node.toJson) :: members cs
termination_by structural cs => cs

/-- The tables of an array, the first one first. -/
def tablesToJson : List (List (String × Node)) → List Json
  | [] => []
  | t :: ts => tablesToJson ts ++ [.object (members t)]
termination_by structural ts => ts

end

end Switchboard.Toml
