import Switchboard.Dispatch.ServerObject
import Switchboard.DataSource
import Switchboard.Toml.Document

/-!
# Catalogs

A catalog declares data sources, each perhaps with a server object that answers its requests, and
handlers that are server objects alone. It is written in TOML. Catalogs are layered: an entry whose
id is declared already takes the place of that declaration, and a new one goes to the end of its
section.

* `overlay_of_not_mem`: an entry with a new id goes to the end.
-/

namespace Switchboard

open Json (Layout Shape Slot ReadError Dialect)

/-- A slot of a part of a record, as a slot of the record. -/
def Json.Slot.within {α β : Type} (s : Slot α) (get : β → α) (set : β → α → β) : Slot β where
  key := s.key
  aliases := s.aliases
  presence := s.presence
  read d j b := (s.read d j (get b)).map (set b)
  write b := s.write (get b)

/-- The declaration of a data source. -/
structure DataSourceEntry where
  definition : DataSource
  serverObject : Option ServerObject
deriving DecidableEq, Repr

namespace DataSourceEntry

/-- The id of the data source. -/
def id (e : DataSourceEntry) : String := e.definition.id

/-- The form in a catalog: no other members than these may stand there. -/
def layout : Layout DataSourceEntry where
  blank := ⟨.new "", none⟩
  slots :=
    DataSource.slots.map (·.within definition fun e d => { e with definition := d }) ++
      [.optional "server_object" [] ServerObject.shape serverObject
        fun e x => { e with serverObject := x }]
  isClosed := true

end DataSourceEntry

/-- The declaration of a handler. -/
structure HandlerEntry where
  id : String
  serverObject : ServerObject
deriving DecidableEq, Repr

namespace HandlerEntry

/-- The form in a catalog: no other members than these may stand there. -/
def layout : Layout HandlerEntry where
  blank := ⟨"", ⟨.new, "", ""⟩⟩
  slots := [
    .required "id" [] .text id fun e x => { e with id := x },
    .required "server_object" [] ServerObject.shape serverObject
      fun e x => { e with serverObject := x }]
  isClosed := true

end HandlerEntry

/-- A catalog: declarations of data sources and of handlers. -/
structure Catalog where
  dataSources : List DataSourceEntry
  handlers : List HandlerEntry
deriving DecidableEq, Repr

/-- The entries with one more: it takes the place of the first one of its id, or goes to the end. -/
def overlay {α : Type} (id : α → String) (e : α) : List α → List α
  | [] => [e]
  | x :: xs => if id x = id e then e :: xs else x :: overlay id e xs

theorem overlay_of_not_mem {α : Type} {id : α → String} {e : α} {xs : List α}
    (h : id e ∉ xs.map id) : overlay id e xs = xs ++ [e] := by
  induction xs with
  | nil => rfl
  | cons x xs ih =>
    simp only [List.map_cons, List.mem_cons, not_or] at h
    rw [overlay, if_neg (Ne.symm h.1), ih h.2, List.cons_append]

namespace Catalog

/-- The catalog without entries. -/
def empty : Catalog := ⟨[], []⟩

/-- The form on the wire: no other members than these may stand there. -/
def layout : Layout Catalog where
  blank := empty
  slots := [
    .defaulted "data_source" [] (.list DataSourceEntry.layout.shape) dataSources
      fun c x => { c with dataSources := x },
    .defaulted "handler" [] (.list HandlerEntry.layout.shape) handlers
      fun c x => { c with handlers := x }]
  isClosed := true

/-- What TOML leaves open: a choice has an empty table or list beside its name, and a list may go on
behind the last slot. -/
def dialect : Dialect where
  isUnit j := j = .object [] || j = .list []
  longLists := true

/-- The catalog that a text declares. -/
def ofText? (s : String) : Option Catalog := do
  let j ← Toml.ofText? s
  match layout.read dialect j with
  | .ok c => return c
  | .error _ => none

/-- A catalog with another one on top. -/
def merge (base top : Catalog) : Catalog where
  dataSources := top.dataSources.foldl (fun es e => overlay (·.id) e es) base.dataSources
  handlers := top.handlers.foldl (fun es e => overlay (·.id) e es) base.handlers

/-- The catalog of layers, each on top of those before it. -/
def ofLayers (layers : List Catalog) : Catalog := layers.foldl merge empty

/-- The catalog without server objects, and so without handlers. -/
def withoutServerObjects (c : Catalog) : Catalog where
  dataSources := c.dataSources.map fun e => { e with serverObject := none }
  handlers := []

end Catalog

end Switchboard
