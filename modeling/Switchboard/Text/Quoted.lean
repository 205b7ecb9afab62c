import Switchboard.Text.Extending
import Switchboard.Text.Unassigned

/-!
# Quoted text

A text in quotes, as reports show it: a quote and a backslash are escaped by a backslash, and so are
the characters that cannot be shown by themselves, some by a letter and the others by their code
point in braces.

* `quote_plain`: a text without such characters is shown as it is.
-/

namespace Switchboard.Text

/-- The characters without a printed form: controls, format characters, separators other than the
space, and those for private use. -/
def hidden : Ranges := [
  (0x0, 0x1F), (0x7F, 0xA0), (0xAD, 0xAD), (0x600, 0x605), (0x61C, 0x61C), (0x6DD, 0x6DD),
  (0x70F, 0x70F), (0x890, 0x891), (0x8E2, 0x8E2), (0x1680, 0x1680), (0x180E, 0x180E),
  (0x2000, 0x200F), (0x2028, 0x202F), (0x205F, 0x2064), (0x2066, 0x206F), (0x3000, 0x3000),
  (0xE000, 0xF8FF), (0xFEFF, 0xFEFF), (0xFFF9, 0xFFFB), (0x110BD, 0x110BD), (0x110CD, 0x110CD),
  (0x13430, 0x1343F), (0x1BCA0, 0x1BCA3), (0x1D173, 0x1D17A), (0xE0001, 0xE0001),
  (0xE0020, 0xE007F), (0xF0000, 0xFFFFD), (0x100000, 0x10FFFD)]

/-- The letters that fill a place in a syllable and leave it blank. -/
def fillers : Ranges := [(0x115F, 0x1160), (0x3164, 0x3164), (0xFFA0, 0xFFA0)]

/-- Whether a character cannot be shown by itself. The printed characters of ASCII all can. -/
def isUnprintable (c : Char) : Bool :=
  c.toNat < 0x20 || 0x7F ≤ c.toNat &&
    (hidden.contains c || fillers.contains c || extending.contains c || unassigned.contains c)

/-- The characters that stand for one character between quotes. -/
def quoteChar (c : Char) : List Char :=
  if c = '"' then ['\\', '"']
  else if c = '\\' then ['\\', '\\']
  else if c = '\n' then ['\\', 'n']
  else if c = '\r' then ['\\', 'r']
  else if c = '\t' then ['\\', 't']
  else if c = '\x00' then ['\\', '0']
  else if isUnprintable c then '\\' :: 'u' :: '\x7b' :: Nat.toDigits 16 c.toNat ++ ['\x7d']
  else [c]

/-- A text in quotes. -/
def quote (s : String) : String :=
  .ofList ('"' :: s.toList.flatMap quoteChar ++ ['"'])

theorem quoteChar_plain {c : Char} (hq : c ≠ '"') (hb : c ≠ '\\') (hp : isUnprintable c = false) :
    quoteChar c = [c] := by
  have hn : c ≠ '\n' := by rintro rfl; exact absurd hp (by decide)
  have hr : c ≠ '\r' := by rintro rfl; exact absurd hp (by decide)
  have ht : c ≠ '\t' := by rintro rfl; exact absurd hp (by decide)
  have h0 : c ≠ '\x00' := by rintro rfl; exact absurd hp (by decide)
  simp [quoteChar, hq, hb, hn, hr, ht, h0, hp]

theorem flatMap_quoteChar_plain {cs : List Char}
    (h : ∀ c ∈ cs, c ≠ '"' ∧ c ≠ '\\' ∧ isUnprintable c = false) : cs.flatMap quoteChar = cs := by
  induction cs with
  | nil => rfl
  | cons c cs ih =>
    obtain ⟨⟨hq, hb, hp⟩, hs⟩ := List.forall_mem_cons.1 h
    simp [quoteChar_plain hq hb hp, ih hs]

theorem quote_plain {s : String}
    (h : ∀ c ∈ s.toList, c ≠ '"' ∧ c ≠ '\\' ∧ isUnprintable c = false) :
    quote s = .ofList ('"' :: s.toList ++ ['"']) := by
  rw [quote, flatMap_quoteChar_plain h]

end Switchboard.Text
