import Switchboard.Json.Printer
import Switchboard.Text.Blank
import Switchboard.Text.Split

/-!
# Templates

A template is text with placeholders, each a dollar sign and a key in braces. The key is a path of
names with points between them, looked up in a record and the records inside it. A text is inserted
as it is, any other value as JSON.

Dollar signs in front of a brace escape one another: of a run of them, every two stand for one, and
only one that is left over makes the brace the start of a placeholder. The braces behind dollar
signs are looked for one after the other. From each the run is counted backwards, what stands in
front of the run is copied, and the evaluation goes on behind the brace, or behind the placeholder
it starts. The first placeholder without a value or without an end is the error.

* `append_of_cutOpening?`: what is found around the first brace behind a dollar sign.
-/

namespace Switchboard

/-- Why a template has no text. -/
inductive TemplateError where
  /-- A placeholder is not closed; its dollar sign stands at a byte of the template. -/
  | unterminated (offset : Nat)
  /-- A placeholder names no value. -/
  | unknownVariable (key : String)
  /-- Some other evaluator refused the template. -/
  | refused (message : String)
deriving DecidableEq, Repr

namespace TemplateError

/-- What is reported. -/
def message : TemplateError → String
  | unterminated offset => s!"unterminated placeholder at byte {offset}"
  | unknownVariable key => s!"unknown template variable '{key}'"
  | refused message => message

end TemplateError

/-- An evaluator gives the text of a template for a record of values, or refuses. -/
abbrev Evaluator : Type := String → Record → Except TemplateError String

namespace Template

/-! ## Values -/

/-- The value at the end of a path of names inside a value. -/
def descend? (v : Value) : List (List Char) → Option Value
  | [] => some v
  | name :: names => do descend? (← (← v.record?).find? (.ofList name)) names

/-- The value that a key names. -/
def lookup? (context : Record) (key : List Char) : Option Value :=
  descend? (.ofRecord context) (Text.split '.' key)

/-- The text that a value is inserted as. -/
def insertion (v : Value) : List Char :=
  match v.text? with
  | some s => s.toList
  | none => Json.compactChars v.json

/-! ## Evaluation -/

/-- The length of a text in bytes. -/
def byteLength : List Char → Nat
  | [] => 0
  | c :: cs => c.utf8Size + byteLength cs

/-- So many dollar signs. -/
def dollars (n : Nat) : List Char := List.replicate n '$'

/-- The text in front of the first dollar sign with an opening brace behind it, and the text behind
the brace. -/
def cutOpening? : List Char → Option (List Char × List Char)
  | [] => none
  | c :: cs =>
    if c = '$' ∧ cs.head? = some '\x7b' then some ([], cs.tail)
    else (cutOpening? cs).map fun p => (c :: p.1, p.2)

theorem append_of_cutOpening? {cs front behind : List Char}
    (h : cutOpening? cs = some (front, behind)) : cs = front ++ '$' :: '\x7b' :: behind := by
  induction cs generalizing front with
  | nil => cases h
  | cons c cs ih =>
    rw [cutOpening?] at h
    split at h
    · next hc =>
      cases h
      obtain ⟨rfl, hb⟩ := hc
      cases cs with
      | nil => cases hb
      | cons d cs =>
        cases hb
        rfl
    · obtain ⟨⟨x, y⟩, hxy, he⟩ := Option.map_eq_some_iff.1 h
      cases he
      rw [List.cons_append, ← ih hxy]

theorem length_lt_of_cutOpening? {cs front behind : List Char}
    (h : cutOpening? cs = some (front, behind)) : behind.length < cs.length := by
  rw [append_of_cutOpening? h, List.length_append, List.length_cons, List.length_cons]
  omega

/-- How many dollar signs a text ends in. -/
def finalRun (cs : List Char) : Nat := (cs.reverse.takeWhile (· = '$')).length

/-- Replaces the placeholders in what is left of a template of so many bytes, behind the text that
was put out for the front of it. -/
def substitute (context : Record) (bytes : Nat) (out rest : List Char) :
    Except TemplateError (List Char) :=
  match h : cutOpening? rest with
  | none => .ok (out ++ rest)
  | some (front, behind) =>
    have hlt := length_lt_of_cutOpening? h
    let run := finalRun (front ++ ['$'])
    let out := out ++ (front ++ ['$']).take (front.length + 1 - run) ++ dollars (run / 2)
    if run % 2 = 0 then substitute context bytes (out ++ ['\x7b']) behind
    else
      match hk : Text.cut? '\x7d' behind with
      | none => .error (.unterminated (bytes - byteLength rest + byteLength front))
      | some (key, after) =>
        have : after.length < rest.length := Nat.lt_trans (Text.length_lt_of_cut? hk) hlt
        match lookup? context (Text.trimChars key) with
        | some v => substitute context bytes (out ++ insertion v) after
        | none => .error (.unknownVariable (.ofList (Text.trimChars key)))
termination_by rest.length

/-- The text of a template. -/
def evaluate : Evaluator := fun template context =>
  (substitute context template.utf8ByteSize [] template.toList).map .ofList

end Template

end Switchboard
