import Switchboard.DataSource
import Switchboard.Dispatch.ServerObject
import Switchboard.Proofs.Json.Restoring
import Switchboard.Request
import Switchboard.Response

/-!
# Forms on the wire

What is written of a request, a response, a data source or a server object is read back as it was,
from the tree that is written and from the value that the tree stands for. The exceptions are those
of filters: a null value in a tree of conditions, and a flat filter that is marked as a tree. A
number of rows has to be one that 64 bits hold.

Some members of bindings and of server objects have second names, which are read and never written.

* `Request.isReadFrom_write` and its siblings: each form on its own.
* `DataSource.writesNames`, `ServerObject.writesNames`: the names that are written.
* `wireForms_read_back`: all forms, and the second names.
-/

namespace Switchboard

open Json (Dialect IsReadFrom HasName Layout Shape Slot)

variable {d : Dialect}

/-! ## Data sources -/

@[simp] theorem Summary.ofName?_name (s : Summary) : ofName? s.name = some s := by
  cases s <;> decide

namespace Import

theorem isApart_slots : layout.slots.Pairwise Slot.IsApart := by
  simp [layout, Slot.isApart]

theorem isReadFrom_write (i : Import) : IsReadFrom (layout.read d) (layout.write i) i :=
  Layout.isReadFrom_write (by decide) isApart_slots <|
    .slot (Slot.restores_required (Shape.isReadFrom_text i.via) _) <|
    .slot (Slot.restores_required (Shape.isReadFrom_text i.displayField) _) <|
    .slot (Slot.restores_optional
      (fun s _ => ⟨Shape.isReadFrom_choice s.ofName?_name, nofun⟩) rfl) <|
    .done

end Import

namespace Field

theorem isApart_slots : layout.slots.Pairwise Slot.IsApart := by
  simp [layout, Slot.isApart]

theorem isReadFrom_write (f : Field) : IsReadFrom (layout.read d) (layout.write f) f :=
  Layout.isReadFrom_write (by decide) isApart_slots <|
    .slot (Slot.restores_required (Shape.isReadFrom_text f.name) _) <|
    .slot (Slot.restores_optional (fun s _ => ⟨Shape.isReadFrom_text s, nofun⟩) rfl) <|
    .slot (Slot.restores_optional
      (fun i _ => ⟨i.isReadFrom_write, Layout.write_ne_null _ i⟩) rfl) <|
    .done

end Field

namespace OperationBinding

theorem hasDistinctNames_layout : layout.HasDistinctNames := by decide

theorem isApart_slots : layout.slots.Pairwise Slot.IsApart := by
  simp [layout, Slot.isApart]

theorem isReadFrom_write (b : OperationBinding) :
    IsReadFrom (layout.read d) (layout.write b) b := by
  have text : ∀ (found : Option String) x, found = some x →
      IsReadFrom (Shape.text.read d) (Shape.text.write x) x ∧ Shape.text.write x ≠ .null :=
    fun _ x _ => ⟨Shape.isReadFrom_text x, nofun⟩
  exact Layout.isReadFrom_write hasDistinctNames_layout isApart_slots <|
    .slot (Slot.restores_nullable
      (fun op _ => ⟨Shape.isReadFrom_choice op.ofName?_name, nofun⟩) _) <|
    .slot (Slot.restores_optional (text b.operationId) rfl) <|
    .slot (Slot.restores_optional (text b.selectClause) rfl) <|
    .slot (Slot.restores_optional (text b.tableClause) rfl) <|
    .slot (Slot.restores_optional (text b.whereClause) rfl) <|
    .slot (Slot.restores_optional (text b.orderClause) rfl) <|
    .slot (Slot.restores_optional (text b.joinClause) rfl) <|
    .slot (Slot.restores_optional (text b.statement) rfl) <|
    .done

end OperationBinding

namespace DataSource

theorem isApart_slots : layout.slots.Pairwise Slot.IsApart := by
  simp [layout, slots, Slot.isApart]

theorem isReadFrom_write (x : DataSource) : IsReadFrom (layout.read d) (layout.write x) x :=
  Layout.isReadFrom_write (by decide) isApart_slots <|
    .slot (Slot.restores_required (Shape.isReadFrom_text x.id) _) <|
    .slot (Slot.restores_defaulted
      (Shape.isReadFrom_list fun (f : Field) _ => f.isReadFrom_write) _) <|
    .slot (Slot.restores_defaulted
      (Shape.isReadFrom_list fun (b : OperationBinding) _ => b.isReadFrom_write) _) <|
    .done

end DataSource

/-! ## Server objects -/

@[simp] theorem Lookup.ofName?_name (s : Lookup) : ofName? s.name = some s := by
  cases s <;> decide

namespace ServerObject

theorem hasDistinctNames_layout : layout.HasDistinctNames := by decide

theorem isApart_slots : layout.slots.Pairwise Slot.IsApart := by
  simp [layout, Slot.isApart]

theorem isReadFrom_write (o : ServerObject) : IsReadFrom (layout.read d) (layout.write o) o :=
  Layout.isReadFrom_write hasDistinctNames_layout isApart_slots <|
    .slot (Slot.restores_defaulted (Shape.isReadFrom_choice o.lookup.ofName?_name) _) <|
    .slot (Slot.restores_required (Shape.isReadFrom_text o.target) _) <|
    .slot (Slot.restores_required (Shape.isReadFrom_text o.method) _) <|
    .done

end ServerObject

/-! ## Requests and responses -/

/-- A flat filter is not marked as a tree, and in a tree no value is null. -/
def Criteria.IsPlain : Criteria → Prop
  | .simple m => m.find? "_constructor" ≠ some (.ofString "AdvancedCriteria")
  | .advanced a => ¬ a.HoldsNull

theorem Criteria.IsPlain.isReadFrom_write {c : Criteria} (h : c.IsPlain) :
    IsReadFrom (shape.read d) (shape.write c) c ∧ shape.write c ≠ .null := by
  cases c with
  | simple m => exact ⟨Criteria.isReadFrom_of_read ((Criteria.read_write_simple m).2 h), nofun⟩
  | advanced a =>
    have hread := Criteria.read_write_advanced a
    rw [Condition.withoutNulls_eq_self_iff.2 h] at hread
    exact ⟨Criteria.isReadFrom_of_read hread, nofun⟩

namespace Request

theorem isApart_slots : layout.slots.Pairwise Slot.IsApart := by
  simp [layout, Slot.isApart]

theorem isReadFrom_write {r : Request} (h : ∀ c, r.criteria = some c → c.IsPlain) :
    IsReadFrom (layout.read d) (layout.write r) r :=
  Layout.isReadFrom_write (by decide) isApart_slots <|
    .slot (Slot.restores_required (Shape.isReadFrom_text r.dataSource) _) <|
    .slot (Slot.restores_required (Shape.isReadFrom_choice r.operation.ofName?_name) _) <|
    .slot (Slot.restores_optional (fun s _ => ⟨Shape.isReadFrom_text s, nofun⟩) rfl) <|
    .slot (Slot.restores_optional (fun c hc => (h c hc).isReadFrom_write) rfl) <|
    .slot (Slot.restores_defaulted (Shape.isReadFrom_record r.values) _) <|
    .slot (Slot.restores_optional (fun m _ => ⟨Shape.isReadFrom_record m, nofun⟩) rfl) <|
    .done

end Request

@[simp] theorem Status.ofName?_name (s : Status) : ofName? s.name = some s := by
  cases s <;> decide

namespace Response

theorem isApart_slots : layout.slots.Pairwise Slot.IsApart := by
  simp [layout, Slot.isApart]

theorem isReadFrom_write {r : Response} (h : ∀ n, r.total = some n → n ≤ Decimal.Literal.limit) :
    IsReadFrom (layout.read d) (layout.write r) r :=
  Layout.isReadFrom_write (by decide) isApart_slots <|
    .slot (Slot.restores_required (Shape.isReadFrom_choice r.status.ofName?_name) _) <|
    .slot (Slot.restores_defaulted
      (Shape.isReadFrom_list fun m _ => Shape.isReadFrom_record m) _) <|
    .slot (Slot.restores_optional (fun n hn => ⟨Shape.isReadFrom_count (h n hn), nofun⟩) rfl) <|
    .done

end Response

/-! ## Names -/

/-- The names that are written of data sources and server objects. -/
def writtenNames : List String :=
  ["id", "field", "name", "foreign_key", "import", "via", "display_field", "summary",
    "operation_binding", "operation_type", "operation_id", "select_clause", "table_clause",
    "where_clause", "order_clause", "join_clause", "custom_sql", "lookup_style", "target", "method"]

section

variable {key : String} {aliases : List String} {α : Type}

theorem writesNames_text {get : α → String} {set : α → String → α} (hk : key ∈ writtenNames) :
    (Slot.required key aliases .text get set).WritesNames writtenNames :=
  Slot.writesNames_required hk Shape.writesNames_text

theorem writesNames_clause {get : α → Option String} {set : α → Option String → α}
    (hk : key ∈ writtenNames) :
    (Slot.optional key aliases .text get set).WritesNames writtenNames :=
  Slot.writesNames_optional hk Shape.writesNames_text

end

theorem Import.writesNames : layout.shape.WritesNames writtenNames := by
  refine Layout.writesNames ?_
  simp only [layout, List.forall_mem_cons]
  exact ⟨writesNames_text (by decide), writesNames_text (by decide),
    Slot.writesNames_optional (by decide) Shape.writesNames_choice, nofun⟩

theorem Field.writesNames : layout.shape.WritesNames writtenNames := by
  refine Layout.writesNames ?_
  simp only [layout, List.forall_mem_cons]
  exact ⟨writesNames_text (by decide), writesNames_clause (by decide),
    Slot.writesNames_optional (by decide) Import.writesNames, nofun⟩

theorem OperationBinding.writesNames : layout.shape.WritesNames writtenNames := by
  refine Layout.writesNames ?_
  simp only [layout, List.forall_mem_cons]
  exact ⟨Slot.writesNames_nullable (by decide) Shape.writesNames_choice,
    writesNames_clause (by decide), writesNames_clause (by decide), writesNames_clause (by decide),
    writesNames_clause (by decide), writesNames_clause (by decide), writesNames_clause (by decide),
    writesNames_clause (by decide), nofun⟩

theorem DataSource.writesNames : layout.shape.WritesNames writtenNames := by
  refine Layout.writesNames ?_
  simp only [layout, slots, List.forall_mem_cons]
  exact ⟨writesNames_text (by decide),
    Slot.writesNames_defaulted (by decide) (Shape.writesNames_list Field.writesNames),
    Slot.writesNames_defaulted (by decide) (Shape.writesNames_list OperationBinding.writesNames),
    nofun⟩

theorem ServerObject.writesNames : layout.shape.WritesNames writtenNames := by
  refine Layout.writesNames ?_
  simp only [layout, List.forall_mem_cons]
  exact ⟨Slot.writesNames_defaulted (by decide) Shape.writesNames_choice,
    writesNames_text (by decide), writesNames_text (by decide), nofun⟩

/-- The second names of members, of bindings and of server objects. -/
def otherNames : List String :=
  ["from_clause", "ansi_join_clause", "class_name", "bean", "method_name"]

theorem not_hasName_of_writesNames {α : Type} {s : Shape α} (h : s.WritesNames writtenNames)
    {other : String} (ho : other ∈ otherNames) (a : α) : ¬ HasName other (s.write a) := by
  have hdisjoint : ∀ other ∈ otherNames, other ∉ writtenNames := by decide
  exact fun hkey => hdisjoint other ho (h a other hkey)

theorem not_mem_members_of_write {α : Type} {l : Layout α}
    (h : ∀ other ∈ otherNames, other ∉ l.slots.map Slot.key) {other : String}
    (ho : other ∈ otherNames) {a : α} {ms : List (String × Json)} (hw : l.write a = .object ms) :
    other ∉ ms.map Prod.fst := by
  cases hw
  exact fun hm => h other ho ((Layout.map_fst_members_sublist l.slots a).mem hm)

/-! ## All forms -/

/-- What is written of a request, a response, a data source or a server object is read back as it
was, with the exceptions that filters and numbers of rows have. The second names are not written.
They may be given in place of the first ones, and not beside them. -/
theorem wireForms_read_back :
    (∀ d (r : Request), (∀ c, r.criteria = some c → c.IsPlain) →
      IsReadFrom (Request.layout.read d) (Request.layout.write r) r) ∧
    (∀ d (r : Response), (∀ n, r.total = some n → n ≤ Decimal.Literal.limit) →
      IsReadFrom (Response.layout.read d) (Response.layout.write r) r) ∧
    (∀ d (x : DataSource), IsReadFrom (DataSource.layout.read d) (DataSource.layout.write x) x) ∧
    (∀ d (o : ServerObject),
      IsReadFrom (ServerObject.layout.read d) (ServerObject.layout.write o) o) ∧
    (∀ other ∈ otherNames,
      (∀ r ms, Request.layout.write r = .object ms → other ∉ ms.map Prod.fst) ∧
      (∀ r ms, Response.layout.write r = .object ms → other ∉ ms.map Prod.fst) ∧
      (∀ x, ¬ HasName other (DataSource.layout.write x)) ∧
      ∀ o, ¬ HasName other (ServerObject.layout.write o)) ∧
    OperationBinding.layout.HasAliases
      [("table_clause", "from_clause"), ("join_clause", "ansi_join_clause")] ∧
    ServerObject.layout.HasAliases
      [("target", "class_name"), ("target", "bean"), ("method", "method_name")] := by
  refine ⟨fun _ _ => Request.isReadFrom_write, fun _ _ => Response.isReadFrom_write,
    fun _ => DataSource.isReadFrom_write, fun _ => ServerObject.isReadFrom_write,
    fun other ho => ⟨fun _ _ => ?_, fun _ _ => ?_, ?_, ?_⟩, ?_, ?_⟩
  · exact not_mem_members_of_write (by decide) ho
  · exact not_mem_members_of_write (by decide) ho
  · exact not_hasName_of_writesNames DataSource.writesNames ho
  · exact not_hasName_of_writesNames ServerObject.writesNames ho
  · exact Layout.hasAliases OperationBinding.hasDistinctNames_layout OperationBinding.isApart_slots
  · exact Layout.hasAliases ServerObject.hasDistinctNames_layout ServerObject.isApart_slots

/-- A request for the open orders and an answer that counts one row are read back, and a server
object is read under second names. -/
theorem openOrders_read_back :
    let criteria := Condition.leaf "equals" "state" (.ofString "open")
    let request := { Request.fetch "order" with criteria := some (.advanced criteria) }
    IsReadFrom (Request.layout.read .strict) (Request.layout.write request) request ∧
      IsReadFrom (Response.layout.read .strict)
        (Response.layout.write (.ofRow .empty)) (.ofRow .empty) ∧
      ServerObject.layout.read .strict
        (.object [("bean", .string "orders"), ("method_name", .string "fetch")]) =
        .ok ⟨.new, "orders", "fetch"⟩ := by
  obtain ⟨requests, responses, -, -, -, -, objects⟩ := wireForms_read_back
  refine ⟨requests .strict _ ?_, responses .strict _ ?_, ?_⟩
  · rintro c ⟨⟩
    exact Condition.withoutNulls_eq_self_iff.1 rfl
  · rintro n ⟨⟩
    decide
  · have hread : ServerObject.layout.read .strict
        (.object [("target", .string "orders"), ("method", .string "fetch")]) =
        .ok ⟨.new, "orders", "fetch"⟩ := rfl
    refine objects.renamed .strict _ [("bean", .string "orders"), ("method_name", .string "fetch")]
      _ _ ?_ (.refl _) hread
    exact .cons ⟨rfl, .inr (by decide)⟩ (.cons ⟨rfl, .inr (by decide)⟩ .nil)

end Switchboard
