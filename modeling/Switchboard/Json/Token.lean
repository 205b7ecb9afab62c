import Switchboard.Json.Basic

/-!
# Tokens of JSON text

`tokens?` cuts a text into brackets, separators, words and strings, one character at a time. Words
are literals: `null`, `true`, `false` and numbers. A number too large for a double and a string with
half a surrogate pair are tokens without a value.
-/

namespace Switchboard.Json

open Decimal (Literal Number)

/-! ## Literals -/

/-- The value of a digit of base ten. -/
def digit? (c : Char) : Option Nat :=
  if '0' ≤ c ∧ c ≤ '9' then some (c.toNat - '0'.toNat) else none

/-- The value of a digit of base sixteen. -/
def hexDigit? (c : Char) : Option Nat :=
  if '0' ≤ c ∧ c ≤ '9' then some (c.toNat - '0'.toNat)
  else if 'a' ≤ c ∧ c ≤ 'f' then some (c.toNat - 'a'.toNat + 10)
  else if 'A' ≤ c ∧ c ≤ 'F' then some (c.toNat - 'A'.toNat + 10)
  else none

/-- Whether a character is a digit of base ten. -/
def isDigit (c : Char) : Bool := (digit? c).isSome

/-- The digits at the front of a text, and what follows them. -/
def takeDigits (cs : List Char) : List Nat × List Char :=
  ((cs.takeWhile isDigit).filterMap digit?, cs.dropWhile isDigit)

/-- The digits at the front of a text, of which there is at least one. -/
def takeSomeDigits? (cs : List Char) : Option (List Nat × List Char) :=
  match takeDigits cs with
  | ([], _) => none
  | p => some p

/-- The power of ten after the letter of an exponent. -/
def exponent? (cs : List Char) : Option Int :=
  let (negative, cs) := match cs with
    | '-' :: cs => (true, cs)
    | '+' :: cs => (false, cs)
    | cs => (false, cs)
  match takeSomeDigits? cs with
  | some (ds, []) =>
    let n : Nat := ds.foldl (fun n d => n * 10 + d) 0
    some (if negative then -Int.ofNat n else Int.ofNat n)
  | _ => none

/-- The literal that a word writes: a sign, digits that start with zero only if that is the only
one, digits after a point, and a power of ten. -/
def literal? (word : List Char) : Option Literal := do
  let (negative, cs) := match word with
    | '-' :: cs => (true, cs)
    | cs => (false, cs)
  let (whole, cs) ← takeSomeDigits? cs
  guard (whole.head? ≠ some 0 ∨ whole.length = 1)
  let (fraction, cs) ← match cs with
    | '.' :: cs => takeSomeDigits? cs
    | cs => some ([], cs)
  match cs with
  | [] => return ⟨negative, whole, fraction, none⟩
  | c :: cs =>
    guard (c = 'e' ∨ c = 'E')
    return ⟨negative, whole, fraction, some (← exponent? cs)⟩

/-! ## Strings -/

/-- A part of a string: a character, or the UTF-16 unit of an escape. -/
inductive Part where
  | char (c : Char)
  | unit (n : Nat)

/-- The characters of a string: two units in a row that are halves of a pair are one character, and
no half may stand alone. -/
def chars? : List Part → Option (List Char)
  | [] => some []
  | .char c :: ps => (chars? ps).map (c :: ·)
  | .unit n :: ps =>
    if n < 0xD800 ∨ 0xE000 ≤ n then (chars? ps).map (Char.ofNat n :: ·)
    else match ps with
      | .unit m :: qs =>
        if n < 0xDC00 ∧ 0xDC00 ≤ m ∧ m < 0xE000 then
          (chars? qs).map (Char.ofNat (0x10000 + (n - 0xD800) * 0x400 + (m - 0xDC00)) :: ·)
        else none
      | _ => none

/-- The character that a letter after a backslash stands for. -/
def escaped? : Char → Option Char
  | '"' => some '"'
  | '\\' => some '\\'
  | '/' => some '/'
  | 'b' => some '\x08'
  | 'f' => some '\x0c'
  | 'n' => some '\n'
  | 'r' => some '\r'
  | 't' => some '\t'
  | _ => none

/-! ## Tokens -/

/-- A token; words and strings carry what they stand for, if anything. -/
inductive Token where
  | openList
  | closeList
  | openObject
  | closeObject
  | colon
  | comma
  | scalar (value : Json)
  | text (value : Option String)

/-- The token of a word. -/
def wordToken? (word : List Char) : Option Token :=
  if word = ['n', 'u', 'l', 'l'] then some (.scalar .null)
  else if word = ['t', 'r', 'u', 'e'] then some (.scalar (.bool true))
  else if word = ['f', 'a', 'l', 's', 'e'] then some (.scalar (.bool false))
  else (literal? word).map fun l => .scalar ((l.number?.map Json.number).getD (.unreadable true))

/-- Where a reader stands: between tokens, in a word, in a string, after a backslash, or among the
digits of an escape. What was read is kept last first. -/
inductive Place where
  | between
  | word (cs : List Char)
  | text (ps : List Part)
  | escape (ps : List Part)
  | hex (ps : List Part) (left value : Nat)

/-- What a character between tokens does. -/
def start? (c : Char) (done : List Token) : Option (Place × List Token) :=
  match c with
  | ' ' | '\t' | '\n' | '\r' => some (.between, done)
  | '[' => some (.between, .openList :: done)
  | ']' => some (.between, .closeList :: done)
  | '\x7b' => some (.between, .openObject :: done)
  | '\x7d' => some (.between, .closeObject :: done)
  | ':' => some (.between, .colon :: done)
  | ',' => some (.between, .comma :: done)
  | '"' => some (.text [], done)
  | c => some (.word [c], done)

/-- Whether a character goes on with a word. -/
def continuesWord (c : Char) : Bool :=
  c.isAlphanum || c == '+' || c == '-' || c == '.'

/-- What a character does to a reader and to the tokens behind it. -/
def advance? : Place × List Token → Char → Option (Place × List Token)
  | (.between, done), c => start? c done
  | (.word w, done), c =>
    if continuesWord c then some (.word (c :: w), done)
    else do start? c ((← wordToken? w.reverse) :: done)
  | (.text ps, done), c =>
    if c = '"' then some (.between, .text ((chars? ps.reverse).map .ofList) :: done)
    else if c = '\\' then some (.escape ps, done)
    else if c.toNat < 0x20 then none
    else some (.text (.char c :: ps), done)
  | (.escape ps, done), c =>
    if c = 'u' then some (.hex ps 4 0, done)
    else (escaped? c).map fun e => (.text (.char e :: ps), done)
  | (.hex ps left value, done), c => do
    let value := value * 16 + (← hexDigit? c)
    if left ≤ 1 then some (.text (.unit value :: ps), done)
    else some (.hex ps (left - 1) value, done)

/-- The tokens of a text. -/
def tokens? (cs : List Char) : Option (List Token) := do
  match ← cs.foldlM advance? (.between, []) with
  | (.between, done) => return done.reverse
  | (.word w, done) => return ((← wordToken? w.reverse) :: done).reverse
  | _ => none

end Switchboard.Json
