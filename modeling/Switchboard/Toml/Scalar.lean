import Switchboard.Json.Token

/-!
# TOML scalars

Strings, numbers, truth values and dates of TOML 1.1, read off the front of a text. A number or a
date is a word; what it stands for matters here only as far as it is one, so a date is read as an
object with a member that no table has. An infinite float and one that is no number are unreadable
but harmless; a word with the form of a number that is out of range is not harmless.
-/

namespace Switchboard.Toml

open Json (digit? hexDigit? isDigit)

/-- Takes a text off the front of another. -/
def expect? (front : List Char) (cs : List Char) : Option (List Char) :=
  if front.isPrefixOf cs then some (cs.drop front.length) else none

/-- The text behind spaces and tabs. -/
def skipSpace (cs : List Char) : List Char :=
  cs.dropWhile fun c => c = ' ' || c = '\t'

/-- Takes the end of a line off the front of a text. -/
def newline? : List Char → Option (List Char)
  | '\n' :: cs => some cs
  | '\r' :: '\n' :: cs => some cs
  | _ => none

/-- Control characters other than the tab stand nowhere. -/
def isPlain (c : Char) : Bool :=
  c = '\t' || (0x20 ≤ c.toNat && c.toNat ≠ 0x7F)

/-! ## Strings -/

/-- The number that so many digits of base sixteen write, off the front of a text. -/
def hex? : Nat → Nat → List Char → Option (Nat × List Char)
  | 0, n, cs => some (n, cs)
  | _ + 1, _, [] => none
  | k + 1, n, c :: cs => do hex? k (n * 16 + (← hexDigit? c)) cs

/-- The character of a code point, if there is one. -/
def scalar? (n : Nat) : Option Char :=
  if n < 0xD800 ∨ (0xE000 ≤ n ∧ n < 0x110000) then some (.ofNat n) else none

/-- The character that an escape stands for, off the text behind a backslash. -/
def escape? : List Char → Option (Char × List Char)
  | 'b' :: cs => some ('\x08', cs)
  | 't' :: cs => some ('\t', cs)
  | 'n' :: cs => some ('\n', cs)
  | 'f' :: cs => some ('\x0c', cs)
  | 'r' :: cs => some ('\r', cs)
  | 'e' :: cs => some ('\x1b', cs)
  | '"' :: cs => some ('"', cs)
  | '\\' :: cs => some ('\\', cs)
  | 'x' :: cs => do
    let (n, cs) ← hex? 2 0 cs
    return (← scalar? n, cs)
  | 'u' :: cs => do
    let (n, cs) ← hex? 4 0 cs
    return (← scalar? n, cs)
  | 'U' :: cs => do
    let (n, cs) ← hex? 8 0 cs
    return (← scalar? n, cs)
  | _ => none

/-- A number plus the offset of the quote that closes a string. -/
def closingOffset (n : Nat) : List Char → Nat
  | [] | '"' :: _ => n
  | '\\' :: _ :: cs => closingOffset (n + 2) cs
  | _ :: cs => closingOffset (n + 1) cs

/-- The rest of a string on one line; what was read is kept last first. -/
def basicString? (read : List Char) : Nat → List Char → Option (String × List Char)
  | 0, _ => none
  | _ + 1, [] => none
  | fuel + 1, c :: cs =>
    if c = '"' then some (.ofList read.reverse, cs)
    else if c = '\\' then do
      let (e, cs) ← escape? cs
      basicString? (e :: read) fuel cs
    else if isPlain c then basicString? (c :: read) fuel cs
    else none

/-- The rest of a string without escapes on one line. -/
def literalString? (read : List Char) : List Char → Option (String × List Char)
  | [] => none
  | c :: cs =>
    if c = '\'' then some (.ofList read.reverse, cs)
    else if isPlain c then literalString? (c :: read) cs
    else none

/-- The text behind spaces, tabs and ends of lines. -/
def skipBlank : List Char → List Char
  | '\r' :: '\n' :: cs => skipBlank cs
  | c :: cs => if c = ' ' || c = '\t' || c = '\n' then skipBlank cs else c :: cs
  | [] => []

/-- The text behind a line that ends in a backslash: further blank lines and the indentation of the
next line do not count. -/
def continuation? (cs : List Char) : Option (List Char) :=
  (newline? (skipSpace cs)).map skipBlank

/-- The quotes that end a string over several lines, and how many of them belong to the string: up
to two in front of the last three. -/
def closing? (quote : Char) (cs : List Char) : Option (Nat × List Char) :=
  let n := (cs.takeWhile (· = quote)).length
  if n < 3 then none
  else
    let inside := min (n - 3) 2
    some (inside, cs.drop (inside + 3))

/-- The rest of a string over several lines. The ends of its lines stay as they are written. -/
def longString? (quote : Char) (escapes : Bool) (read : List Char) :
    Nat → List Char → Option (String × List Char)
  | 0, _ => none
  | _ + 1, [] => none
  | fuel + 1, c :: cs =>
    match closing? quote (c :: cs) with
    | some (inside, rest) =>
      some (.ofList (read.reverse ++ List.replicate inside quote), rest)
    | none =>
      if escapes && c = '\\' then
        match continuation? cs with
        | some rest => longString? quote escapes read fuel rest
        | none => do
          let (e, rest) ← escape? cs
          longString? quote escapes (e :: read) fuel rest
      else if isPlain c || (newline? (c :: cs)).isSome then
        longString? quote escapes (c :: read) fuel cs
      else none

/-- A new line directly behind the quotes that open a string over several lines does not count. -/
def afterOpening (cs : List Char) : List Char :=
  (newline? cs).getD cs

/-- A string on one line, off the front of a text. -/
def shortString? : List Char → Option (String × List Char)
  | '"' :: cs => basicString? [] (closingOffset 1 cs) cs
  | '\'' :: cs => literalString? [] cs
  | _ => none

/-- A string, off the front of a text. -/
def string? : List Char → Option (String × List Char)
  | '"' :: '"' :: '"' :: cs => longString? '"' true [] (cs.length + 1) (afterOpening cs)
  | '\'' :: '\'' :: '\'' :: cs => longString? '\'' false [] (cs.length + 1) (afterOpening cs)
  | cs => shortString? cs

/-! ## Numbers -/

/-- Whether every underscore stands between two digits, given whether there is a digit in front. -/
def isSpacedBehind (valid : Char → Bool) (digit : Bool) : List Char → Bool
  | [] => true
  | '_' :: cs => digit && cs.head?.any valid && isSpacedBehind valid false cs
  | c :: cs => isSpacedBehind valid (valid c) cs

/-- Whether every underscore stands between two digits. -/
def isSpaced (valid : Char → Bool) (cs : List Char) : Bool :=
  isSpacedBehind valid false cs

/-- Takes a sign off the front of a word. -/
def takeSign : List Char → Bool × List Char
  | '-' :: cs => (true, cs)
  | '+' :: cs => (false, cs)
  | cs => (false, cs)

/-- The digits of a base. -/
def isDigitOf (base : Nat) (c : Char) : Bool := (hexDigit? c).any (· < base)

/-- The integer that digits write in a base, underscores left out. It has 128 bits, signed or
unsigned. -/
def integer (negative : Bool) (base : Nat) (cs : List Char) : Json :=
  let ds := cs.filter (· ≠ '_')
  let n := ds.foldl (fun n c => n * base + (hexDigit? c).getD 0) 0
  if !ds.isEmpty && ds.all (isDigitOf base) &&
      n ≤ (if negative then Nat.pow 2 127 else Nat.pow 2 128 - 1) then
    .number (.int (if negative then -Int.ofNat n else Int.ofNat n))
  else .unreadable false

/-- An integer of a base other than ten, of the digits behind the letter of the base. -/
def basedInteger? (base : Nat) (cs : List Char) : Option Json :=
  if cs.all (fun c => isDigitOf base c || c = '_') && isSpaced (isDigitOf base) cs then
    some (integer false base cs)
  else none

/-- An integer of base ten, which starts with zero only if that is all. Behind the first underscore
it need not be made of digits, as long as what stands next to underscores are hexadecimal ones; but
then it stands for no number. -/
def wholeNumber? (word : List Char) : Option Json :=
  let (negative, cs) := takeSign word
  let rest := cs.dropWhile isDigit
  let isForm := rest.isEmpty && !cs.isEmpty ||
    rest.head? = some '_' && !rest.any fun c => c = '.' || c = 'e' || c = 'E' || c = ' '
  if isForm && (cs.head? ≠ some '0' || cs.length = 1) &&
      isSpaced (fun c => (hexDigit? c).isSome) cs then
    some (integer negative 10 cs)
  else none

/-- The integer that a word writes. -/
def integer? : List Char → Option Json
  | '0' :: 'x' :: cs => basedInteger? 16 cs
  | '0' :: 'o' :: cs => basedInteger? 8 cs
  | '0' :: 'b' :: cs => basedInteger? 2 cs
  | word => wholeNumber? word

/-- Takes digits off the front of a text, underscores among them left out. -/
def takeDigits (cs : List Char) : List Nat × List Char :=
  let isPart := fun c => isDigit c || c = '_'
  ((cs.takeWhile isPart).filterMap digit?, cs.dropWhile isPart)

/-- The fraction of a float, off the front of a text: none, or a point and at least one digit. -/
def fraction? : List Char → Option (List Nat × List Char)
  | '.' :: cs =>
    let (ds, cs) := takeDigits cs
    if ds.isEmpty then none else some (ds, cs)
  | cs => some ([], cs)

/-- The power of ten of a float, to the end of a text. -/
def power? : List Char → Option Int
  | [] => some 0
  | c :: cs =>
    let (down, cs) := takeSign cs
    let (ds, cs) := takeDigits cs
    let n := Int.ofNat (Decimal.Literal.ofDigits ds)
    if (c = 'e' || c = 'E') && !ds.isEmpty && cs.isEmpty then some (if down then -n else n)
    else none

/-- The float that a word writes: digits with a fraction, an exponent, or both, or a name. -/
def float? (word : List Char) : Option Json :=
  let (negative, cs) := takeSign word
  if cs = ['i', 'n', 'f'] || cs = ['n', 'a', 'n'] then some (.unreadable true)
  else do
    guard (cs.any fun c => c = '.' || c = 'e' || c = 'E')
    guard (isSpaced isDigit cs)
    let (whole, rest) := takeDigits cs
    guard (whole.length = 1 ∨ whole ≠ [] ∧ cs.head? ≠ some '0')
    let (fraction, rest) ← fraction? rest
    let power ← power? rest
    match Decimal.Literal.nearest? ⟨negative, whole, fraction, some power⟩ with
    | some x => return .number (.double x)
    | none => return .unreadable false

/-! ## Dates and times -/

/-- The number that so many digits of base ten write, off the front of a text. -/
def fixed? : Nat → Nat → List Char → Option (Nat × List Char)
  | 0, n, cs => some (n, cs)
  | _ + 1, _, [] => none
  | k + 1, n, c :: cs => do fixed? k (n * 10 + (← digit? c)) cs

/-- The number of days of a month. -/
def daysOfMonth (year month : Nat) : Nat :=
  if month = 2 then
    if year % 4 = 0 ∧ (year % 100 ≠ 0 ∨ year % 400 = 0) then 29 else 28
  else if month = 4 ∨ month = 6 ∨ month = 9 ∨ month = 11 then 30
  else 31

/-- Takes a date off the front of a text. -/
def date? (cs : List Char) : Option (List Char) := do
  let (year, cs) ← fixed? 4 0 cs
  let (month, cs) ← fixed? 2 0 (← expect? ['-'] cs)
  let (day, cs) ← fixed? 2 0 (← expect? ['-'] cs)
  guard (1 ≤ month ∧ month ≤ 12 ∧ 1 ≤ day ∧ day ≤ daysOfMonth year month)
  return cs

/-- Takes a time of day off the front of a text; the seconds may be missing. -/
def time? (cs : List Char) : Option (List Char) := do
  let (hour, cs) ← fixed? 2 0 cs
  let (minute, cs) ← fixed? 2 0 (← expect? [':'] cs)
  guard (hour ≤ 23 ∧ minute ≤ 59)
  match cs with
  | ':' :: cs =>
    let (second, cs) ← fixed? 2 0 cs
    guard (second ≤ 60)
    match cs with
    | '.' :: cs =>
      guard (cs.takeWhile isDigit ≠ [])
      return cs.dropWhile isDigit
    | cs => return cs
  | cs => return cs

/-- Takes an offset from universal time off the front of a text. -/
def offset? : List Char → Option (List Char)
  | 'Z' :: cs | 'z' :: cs => some cs
  | c :: cs => do
    guard (c = '+' ∨ c = '-')
    let (hour, cs) ← fixed? 2 0 cs
    let (minute, cs) ← fixed? 2 0 (← expect? [':'] cs)
    guard (hour ≤ 23 ∧ minute ≤ 59)
    return cs
  | [] => none

/-- Whether a word is a date, a time of day, or both, the last perhaps with an offset. -/
def isDateTime (word : List Char) : Bool :=
  if time? word = some [] then true
  else match date? word with
    | none => false
    | some [] => true
    | some (c :: cs) =>
      (c = 'T' || c = 't' || c = ' ') &&
        match time? cs with
        | none => false
        | some [] => true
        | some rest => offset? rest = some []

/-- The tree of a date. -/
def dateTime (word : List Char) : Json :=
  .object [("date-time", .string (.ofList word))]

/-! ## Words -/

/-- The characters of numbers, truth values and dates: all but blank space, punctuation and the sign
of a comment. -/
def isWordChar (c : Char) : Bool :=
  ['=', ',', '[', ']', '\x7b', '\x7d', ' ', '\t', '#', '\r', '\n'].all (· ≠ c)

/-- Whether a character opens a string. -/
def isQuote (c : Char) : Bool := c = '"' || c = '\''

/-- A word, off the front of a text. It goes on behind spaces and tabs if there is more of it, such
as the time behind a date; a string is no part of it. -/
def word : List Char → List Char × List Char
  | [] => ([], [])
  | c :: cs =>
    if isWordChar c then
      let (more, rest) := word cs
      (c :: more, rest)
    else if (c = ' ' || c = '\t') && !cs.head?.any isQuote then
      match word cs with
      | ([], _) => ([], c :: cs)
      | (more, rest) => (c :: more, rest)
    else ([], c :: cs)

/-- What a word stands for. -/
def wordValue? (w : List Char) : Option Json :=
  if w = ['t', 'r', 'u', 'e'] then some (.bool true)
  else if w = ['f', 'a', 'l', 's', 'e'] then some (.bool false)
  else if isDateTime w then some (dateTime w)
  else (integer? w).or (float? w)

end Switchboard.Toml
