import Switchboard.Json.Value
import Switchboard.Decimal.Shortest

/-!
# Writing JSON

`compact` writes a tree without white space, `pretty` with one member or item a line, indented by
two spaces. Members are written in the order of the tree. Doubles are written with the fewest digits
that read back: in positional notation, with a digit after the point, from `1e-5` up to `1e16`, and
with a signed exponent elsewhere.
-/

namespace Switchboard.Json

open Decimal (Number Binary64 shortest)

/-! ## Numbers -/

/-- The digits as characters. -/
def digitChars (ds : List Nat) : List Char :=
  ds.map Nat.digitChar

/-- The least and the greatest power of ten of the first digit in positional notation. -/
def positional : Int × Int := (-5, 15)

/-- A decimal in positional notation. -/
def positionalChars (d : Decimal.Digits) : List Char :=
  if d.power < 0 then
    '0' :: '.' :: List.replicate (-d.power - 1).toNat '0' ++ digitChars d.digits
  else
    let n := d.power.toNat + 1
    let whole := d.digits.take n
    let fraction := d.digits.drop n
    digitChars whole ++ List.replicate (n - whole.length) '0' ++ '.' ::
      (if fraction.isEmpty then ['0'] else digitChars fraction)

/-- A decimal with an exponent. -/
def exponentChars (d : Decimal.Digits) : List Char :=
  let fraction := d.digits.drop 1
  digitChars (d.digits.take 1) ++ (if fraction.isEmpty then [] else '.' :: digitChars fraction) ++
    'e' :: (if d.power < 0 then '-' else '+') :: Nat.toDigits 10 d.power.natAbs

/-- The text of a double. -/
def doubleChars (x : Binary64) : List Char :=
  let magnitude :=
    if x.magnitude = 0 then ['0', '.', '0']
    else
      let d := shortest x.magnitude
      if positional.1 ≤ d.power ∧ d.power ≤ positional.2 then positionalChars d
      else exponentChars d
  if x.negative then '-' :: magnitude else magnitude

/-- The text of a number. -/
def numberChars : Number → List Char
  | .int (.ofNat n) => Nat.toDigits 10 n
  | .int (.negSucc n) => '-' :: Nat.toDigits 10 (n + 1)
  | .double x => doubleChars x

/-! ## Strings -/

/-- The characters that stand for one character of a string. -/
def escapeChar (c : Char) : List Char :=
  if c = '"' then ['\\', '"']
  else if c = '\\' then ['\\', '\\']
  else if c = '\x08' then ['\\', 'b']
  else if c = '\x0c' then ['\\', 'f']
  else if c = '\n' then ['\\', 'n']
  else if c = '\r' then ['\\', 'r']
  else if c = '\t' then ['\\', 't']
  else if c.toNat < 0x20 then
    ['\\', 'u', '0', '0', Nat.digitChar (c.toNat / 16), Nat.digitChar (c.toNat % 16)]
  else [c]

/-- A string in quotes. -/
def stringChars (s : String) : List Char :=
  '"' :: s.toList.flatMap escapeChar ++ ['"']

/-! ## Trees -/

mutual

/-- A tree without white space. -/
def compactChars : Json → List Char
  | null | unreadable _ => ['n', 'u', 'l', 'l']
  | bool true => ['t', 'r', 'u', 'e']
  | bool false => ['f', 'a', 'l', 's', 'e']
  | number n => numberChars n
  | string s => stringChars s
  | list items => '[' :: compactItems items ++ [']']
  | object ms => '\x7b' :: compactMembers ms ++ ['\x7d']
termination_by structural j => j

/-- Items with commas between them. -/
def compactItems : List Json → List Char
  | [] => []
  | j :: js => compactChars j ++ (if js.isEmpty then [] else ',' :: compactItems js)
termination_by structural js => js

/-- Members with commas between them. -/
def compactMembers : List (String × Json) → List Char
  | [] => []
  | (k, j) :: ms =>
    stringChars k ++ ':' :: compactChars j ++ (if ms.isEmpty then [] else ',' :: compactMembers ms)
termination_by structural ms => ms

end

/-- A new line, indented by two spaces a level. -/
def indent (level : Nat) : List Char :=
  '\n' :: List.replicate (2 * level) ' '

mutual

/-- A tree inside so many others, with one member or item a line. -/
def prettyChars (level : Nat) : Json → List Char
  | list [] => ['[', ']']
  | object [] => ['\x7b', '\x7d']
  | list (j :: js) => '[' :: prettyItems (level + 1) (j :: js) ++ indent level ++ [']']
  | object (m :: ms) => '\x7b' :: prettyMembers (level + 1) (m :: ms) ++ indent level ++ ['\x7d']
  | j => compactChars j
termination_by structural j => j

/-- Items, each on a line of its own. -/
def prettyItems (level : Nat) : List Json → List Char
  | [] => []
  | j :: js =>
    indent level ++ prettyChars level j ++
      (if js.isEmpty then [] else ',' :: prettyItems level js)
termination_by structural js => js

/-- Members, each on a line of its own. -/
def prettyMembers (level : Nat) : List (String × Json) → List Char
  | [] => []
  | (k, j) :: ms =>
    indent level ++ stringChars k ++ ':' :: ' ' :: prettyChars level j ++
      (if ms.isEmpty then [] else ',' :: prettyMembers level ms)
termination_by structural ms => ms

end

/-- The text of a tree without white space. -/
def compact (j : Json) : String := .ofList (compactChars j)

/-- The text of a tree with one member or item a line. -/
def pretty (j : Json) : String := .ofList (prettyChars 0 j)

end Switchboard.Json
