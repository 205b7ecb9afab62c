import Switchboard.Json.Layout
import Switchboard.Text.Quoted

/-!
# Server objects

A server object says how to reach the code that answers requests: how to look it up, the name of a
type or of an object, and the name of a method.
-/

namespace Switchboard

open Json (Layout Shape Slot)

/-- How the object is found that a method is called on. -/
inductive Lookup where
  /-- The type makes one for every request, unless the method needs none. -/
  | new
  /-- The type makes one object, which makes another for every request. -/
  | factory
  /-- The surroundings of the program hold one under a name. -/
  | bean
deriving DecidableEq, Repr

namespace Lookup

/-- The name on the wire. -/
def name : Lookup → String
  | new => "new"
  | factory => "factory"
  | bean => "bean"

/-- The name in a report. -/
def title : Lookup → String
  | new => "New"
  | factory => "Factory"
  | bean => "Bean"

/-- The way of looking up that has a name; beans have a second one. -/
def ofName? (s : String) : Option Lookup :=
  if s = "spring" then some bean else [new, factory, bean].find? (·.name = s)

/-- A way of looking up is given by its name. -/
def shape : Shape Lookup := .choice ofName? name

end Lookup

/-- How to reach the code that answers requests. -/
structure ServerObject where
  lookup : Lookup
  target : String
  method : String
deriving DecidableEq, Repr

namespace ServerObject

/-- The form on the wire. -/
def layout : Layout ServerObject where
  blank := ⟨.new, "", ""⟩
  slots := [
    .defaulted "lookup_style" [] Lookup.shape lookup fun o x => { o with lookup := x },
    .required "target" ["class_name", "bean"] .text target fun o x => { o with target := x },
    .required "method" ["method_name"] .text method fun o x => { o with method := x }]
  isClosed := false

/-- Server objects are objects with the slots of the layout. -/
def shape : Shape ServerObject := layout.shape

/-- What a report shows of a server object. -/
def summary (o : ServerObject) : String :=
  "DmiDescriptor \x7b lookup_style: " ++ o.lookup.title ++ ", target: " ++ Text.quote o.target ++
    ", method: " ++ Text.quote o.method ++ " \x7d"

end ServerObject

end Switchboard
