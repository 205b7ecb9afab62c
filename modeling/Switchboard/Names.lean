import Std.Data.ExtTreeMap

/-!
# What stands under a name

Handlers, tables, relations and objects are kept in maps by name. An entry that comes in, or goes,
changes what stands under its own name and nothing else.
-/

namespace Switchboard.Names

open Std (ExtTreeMap)

variable {α : Type}

@[simp] theorem getElem?_insert (m : ExtTreeMap String α) (name : String) (a : α) (k : String) :
    (m.insert name a)[k]? = if name = k then some a else m[k]? := by
  simp only [ExtTreeMap.getElem?_insert, Std.LawfulEqCmp.compare_eq_iff_eq]

@[simp] theorem getElem?_erase (m : ExtTreeMap String α) (name k : String) :
    (m.erase name)[k]? = if name = k then none else m[k]? := by
  simp only [ExtTreeMap.getElem?_erase, Std.LawfulEqCmp.compare_eq_iff_eq]

end Switchboard.Names
