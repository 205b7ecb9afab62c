import Switchboard.Toml.Scalar
import Switchboard.Toml.Table

/-!
# TOML documents

A document is lines of headers and pairs. It is read as one JSON tree: the headers open tables, and
every pair goes into the table that was opened last. Lists and inline tables may be nested eighty
deep, and a key may have eighty parts.
-/

namespace Switchboard.Toml

/-- A line of a document. -/
inductive Statement where
  | table (path : List String)
  | array (path : List String)
  | pair (path : List String) (value : Json)

/-! ## Keys -/

/-- The characters of a key without quotes. -/
def isKeyChar (c : Char) : Bool := c.isAlphanum || c = '_' || c = '-'

/-- A key without dots. -/
def simpleKey? (cs : List Char) : Option (String × List Char) :=
  match cs.takeWhile isKeyChar with
  | [] => shortString? cs
  | key => some (.ofList key, cs.dropWhile isKeyChar)

/-- How many parts a key may have. -/
def maxParts : Nat := 80

/-- A key of at most so many parts. -/
def keyPathWithin? : Nat → List Char → Option (List String × List Char)
  | 0, _ => none
  | fuel + 1, cs => do
    let (key, cs) ← simpleKey? (skipSpace cs)
    match skipSpace cs with
    | '.' :: rest =>
      let (path, rest) ← keyPathWithin? fuel rest
      return (key :: path, rest)
    | rest => return ([key], rest)

/-- A key: parts with dots between them, and space around the dots. -/
def keyPath? (cs : List Char) : Option (List String × List Char) :=
  keyPathWithin? maxParts cs

/-! ## Blank parts -/

/-- The text behind a comment, if one starts here; no control characters may stand in it. -/
def comment? (cs : List Char) : Option (List Char) :=
  match cs with
  | '#' :: cs =>
    let rest := cs.dropWhile isPlain
    match rest with
    | [] => some []
    | _ => (newline? rest).map fun _ => rest
  | cs => some cs

/-- The text behind blank lines and comments, from inside a comment or from outside. -/
def skipLinesFrom? : Bool → List Char → Option (List Char)
  | _, [] => some []
  | _, '\n' :: cs | _, '\r' :: '\n' :: cs => skipLinesFrom? false cs
  | true, c :: cs => if isPlain c then skipLinesFrom? true cs else none
  | false, '#' :: cs => skipLinesFrom? true cs
  | false, ' ' :: cs | false, '\t' :: cs => skipLinesFrom? false cs
  | false, cs => some cs

/-- The text behind blank lines and comments. -/
def skipLines? (cs : List Char) : Option (List Char) :=
  skipLinesFrom? false cs

/-! ## Values -/

/-- How deep lists and inline tables may be nested. -/
def maxDepth : Nat := 80

mutual

/-- A value off the front of a text, in at most so many steps. -/
def valueWithin? (depth : Nat) : Nat → List Char → Option (Json × List Char)
  | 0, _ => none
  | fuel + 1, cs =>
    match cs with
    | '[' :: cs => do
      guard (0 < depth)
      let (items, cs) ← items? (depth - 1) fuel cs
      return (.list items, cs)
    | '\x7b' :: cs => do
      guard (0 < depth)
      let (children, cs) ← pairs? (depth - 1) [] fuel cs
      return (.object (members children), cs)
    | '"' :: _ | '\'' :: _ => do
      let (s, cs) ← string? cs
      return (.string s, cs)
    | cs => do
      let (w, rest) := word cs
      return (← wordValue? w, rest)

/-- The items of a list up to its end; a comma may stand behind the last. -/
def items? (depth : Nat) : Nat → List Char → Option (List Json × List Char)
  | 0, _ => none
  | fuel + 1, cs => do
    match ← skipLines? cs with
    | ']' :: rest => return ([], rest)
    | rest =>
      let (j, rest) ← valueWithin? depth fuel rest
      match ← skipLines? rest with
      | ',' :: rest =>
        let (js, rest) ← items? depth fuel rest
        return (j :: js, rest)
      | ']' :: rest => return ([j], rest)
      | _ => none

/-- The pairs of an inline table up to its end, put into those before them; a comma may stand behind
the last. Lines may end around every part of a pair. -/
def pairs? (depth : Nat) (children : Children) : Nat → List Char → Option (Children × List Char)
  | 0, _ => none
  | fuel + 1, cs => do
    match ← skipLines? cs with
    | '\x7d' :: rest => return (children, rest)
    | rest =>
      let (path, rest) ← keyPath? rest
      let rest ← expect? ['='] (← skipLines? rest)
      let (j, rest) ← valueWithin? depth fuel (← skipLines? rest)
      let children ← insert? path j .header children
      match ← skipLines? rest with
      | ',' :: rest => pairs? depth children fuel rest
      | '\x7d' :: rest => return (children, rest)
      | _ => none

end

/-! ## Lines -/

/-- A header or a pair off the front of a text, its value in at most so many steps. -/
def statementWithin? (fuel : Nat) (cs : List Char) : Option (Statement × List Char) :=
  match cs with
  | '[' :: '[' :: cs => do
    let (path, rest) ← keyPath? cs
    return (.array path, ← expect? [']', ']'] rest)
  | '[' :: cs => do
    let (path, rest) ← keyPath? cs
    return (.table path, ← expect? [']'] rest)
  | cs => do
    let (path, rest) ← keyPath? cs
    let rest ← expect? ['='] rest
    let (j, rest) ← valueWithin? maxDepth fuel (skipSpace rest)
    return (.pair path j, rest)

/-- The lines of a document, fewer than so many and their values in at most so many steps. -/
def statementsWithin? : Nat → List Char → Option (List Statement)
  | 0, _ => none
  | fuel + 1, cs => do
    match ← skipLines? cs with
    | [] => return []
    | rest =>
      let (s, rest) ← statementWithin? (fuel + 1) rest
      match ← comment? (skipSpace rest) with
      | [] => return [s]
      | rest => return s :: (← statementsWithin? fuel (← newline? rest))

/-- The lines of a document. -/
def statements? (cs : List Char) : Option (List Statement) :=
  statementsWithin? (2 * cs.length + 2) cs

/-- A document of which some lines are read: its tables, and the path of the one opened last. -/
structure Draft where
  current : List String
  root : Children

/-- Takes in one line. -/
def Draft.add? (d : Draft) : Statement → Option Draft
  | .table path => (openTable? path d.root).map fun root => ⟨path, root⟩
  | .array path => (openArray? path d.root).map fun root => ⟨path, root⟩
  | .pair path j =>
    (grow? false (insert? path j) d.current .header d.root).map fun root => { d with root }

/-- The tree that a document writes. A mark of byte order may stand in front of it. -/
def ofText? (s : String) : Option Json := do
  let cs := match s.toList with
    | '\uFEFF' :: cs => cs
    | cs => cs
  let draft ← (← statements? cs).foldlM Draft.add? ⟨[], []⟩
  return .object (members draft.root)

end Switchboard.Toml
