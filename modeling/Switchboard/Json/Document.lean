import Switchboard.Json.Token
import Switchboard.Json.Value

/-!
# JSON documents

A text is one JSON tree with white space around it. The tree is put together from the tokens with a
stack of the lists and objects that are still open. A list or object inside more than 127 others, or
one with a name that is no text, is unreadable.
-/

namespace Switchboard.Json

/-- A list or an object that is still open; what it holds so far is kept last first. -/
inductive Frame where
  | list (items : List Json)
  | object (members : List (String × Json)) (readable : Bool) (key : Option String)

/-- What may come next. -/
inductive Expected where
  | value
  | itemOrEnd
  | nameOrEnd
  | name
  | colon
  | separator
  | nothing (result : Json)

/-- How many lists and objects may be open at once around anything that is read. -/
def maxDepth : Nat := 127

/-- A list or object that ends while the given frames are still open around it. -/
def closed (outer : List Frame) (readable : Bool) (j : Json) : Json :=
  if readable && outer.length < maxDepth then j else .unreadable true

/-- Puts a complete tree where it belongs. -/
def place (j : Json) : List Frame → List Frame × Expected
  | [] => ([], .nothing j)
  | .list items :: outer => (.list (j :: items) :: outer, .separator)
  | .object ms readable key :: outer =>
    match key with
    | some k => (.object ((k, j) :: ms) readable none :: outer, .separator)
    | none => (.object ms false none :: outer, .separator)

/-- What a token does to the open lists and objects. -/
def accept? : List Frame × Expected → Token → Option (List Frame × Expected)
  | (frames, .value), t | (frames, .itemOrEnd), t =>
    match t with
    | .scalar j => some (place j frames)
    | .text s => some (place ((s.map Json.string).getD (.unreadable true)) frames)
    | .openList => some (.list [] :: frames, .itemOrEnd)
    | .openObject => some (.object [] true none :: frames, .nameOrEnd)
    | _ => none
  | (.object ms readable _ :: outer, .name), .text key
  | (.object ms readable _ :: outer, .nameOrEnd), .text key =>
    some (.object ms readable key :: outer, .colon)
  | (frames, .colon), .colon => some (frames, .value)
  | (.list items :: outer, .separator), .comma => some (.list items :: outer, .value)
  | (.object ms readable key :: outer, .separator), .comma =>
    some (.object ms readable key :: outer, .name)
  | (.list items :: outer, .separator), .closeList =>
    some (place (closed outer true (.list items.reverse)) outer)
  | (.object ms readable _ :: outer, .separator), .closeObject
  | (.object ms readable _ :: outer, .nameOrEnd), .closeObject =>
    some (place (closed outer readable (.object ms.reverse)) outer)
  | _, _ => none

/-- What a token does, the end of an empty list included. -/
def acceptOrEnd? : List Frame × Expected → Token → Option (List Frame × Expected)
  | (.list [] :: outer, .itemOrEnd), .closeList => some (place (closed outer true (.list [])) outer)
  | state, t => accept? state t

/-- The tree that a text writes. -/
def ofText? (s : String) : Option Json := do
  let ts ← tokens? s.toList
  match ← ts.foldlM acceptOrEnd? ([], .value) with
  | ([], .nothing j) => return j
  | _ => none

end Switchboard.Json

namespace Switchboard

/-- The value that a text writes. -/
def Value.ofText? (s : String) : Option Value :=
  (Json.ofText? s).bind Value.ofJson?

end Switchboard
