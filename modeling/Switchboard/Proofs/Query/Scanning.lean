import Switchboard.Proofs.Attempts
import Switchboard.Query.Template

/-!
# Templates character by character

A template can be read from left to right into pieces, one character at a time, with no way back:
what is pending is a run of dollar signs, or a key. The pieces are rendered in order, and the first
one without a text is the error. What the pieces are is said here where a whole run of dollar signs
stands at the front, or a whole key. All offsets are counted in bytes.

* `scan_append`: the pieces of a text are those of its front, and then those of the rest read from
  where the front ends.
* `scan_dollars`: a run is read by counting it.
* `scan_even_brace`, `scan_odd_brace`: an even run leaves the brace behind it literal, and an odd
  one opens a placeholder.
* `scan_key`, `scan_key_of_not_mem`: a key ends at the next closing brace, or not at all.
* `renderAll_scan_run`: a run that does not end at a brace is copied.
* `scan_placeholder`, `renderAll_scan_placeholder`: a whole placeholder becomes half of the run and
  the value of the key.
-/

namespace Switchboard.Template

/-! ## Pieces -/

/-- A piece of a template. -/
inductive Piece where
  | literal (text : List Char)
  | variable (key : List Char)
  | unterminated (offset : Nat)
deriving DecidableEq, Repr

/-- What is being read: text behind a run of dollar signs, or a key, kept last character first,
whose placeholder starts at a byte. -/
inductive Mode where
  | text (dollars : Nat)
  | key (start : Nat) (read : List Char)
deriving DecidableEq, Repr

/-- What a character at a byte of the template completes, and what is read after it. -/
def step (offset : Nat) : Mode → Char → List Piece × Mode
  | .text run, c =>
    if c = '$' then ([], .text (run + 1))
    else if c = '\x7b' then
      if run % 2 = 0 then ([.literal (dollars (run / 2) ++ [c])], .text 0)
      else ([.literal (dollars (run / 2))], .key (offset - 1) [])
    else ([.literal (dollars run ++ [c])], .text 0)
  | .key start read, c =>
    if c = '\x7d' then ([.variable read.reverse], .text 0) else ([], .key start (c :: read))

/-- What the end of the template completes. -/
def finish : Mode → List Piece
  | .text run => [.literal (dollars run)]
  | .key start _ => [.unterminated start]

/-- The pieces of a text that starts at a byte of the template. -/
def scan (offset : Nat) (mode : Mode) : List Char → List Piece
  | [] => finish mode
  | c :: cs =>
    (step offset mode c).1 ++ scan (offset + c.utf8Size) (step offset mode c).2 cs

/-- The text of a piece. -/
def Piece.render (context : Record) : Piece → Except TemplateError (List Char)
  | .literal cs => .ok cs
  | .variable key =>
    let key := Text.trimChars key
    match lookup? context key with
    | some v => .ok (insertion v)
    | none => .error (.unknownVariable (.ofList key))
  | .unterminated offset => .error (.unterminated offset)

/-- The text of pieces in a row. -/
def renderAll (context : Record) : List Piece → Except TemplateError (List Char)
  | [] => .ok []
  | p :: ps =>
    match p.render context with
    | .error e => .error e
    | .ok cs => (renderAll context ps).map (cs ++ ·)

/-! ## Fronts -/

/-- What is read after a text. -/
def modeAfter (offset : Nat) (mode : Mode) : List Char → Mode
  | [] => mode
  | c :: cs => modeAfter (offset + c.utf8Size) (step offset mode c).2 cs

/-- The pieces that a text completes. -/
def completed (offset : Nat) (mode : Mode) : List Char → List Piece
  | [] => []
  | c :: cs =>
    (step offset mode c).1 ++ completed (offset + c.utf8Size) (step offset mode c).2 cs

theorem scan_append (offset : Nat) (mode : Mode) (cs ds : List Char) :
    scan offset mode (cs ++ ds) =
      completed offset mode cs ++ scan (offset + byteLength cs) (modeAfter offset mode cs) ds := by
  induction cs generalizing offset mode with
  | nil => simp [completed, modeAfter, byteLength]
  | cons c cs ih => simp [scan, completed, modeAfter, byteLength, ih, Nat.add_assoc]

theorem renderAll_append (context : Record) (ps qs : List Piece) :
    renderAll context (ps ++ qs) =
      match renderAll context ps with
      | .error e => .error e
      | .ok cs => (renderAll context qs).map (cs ++ ·) := by
  induction ps with
  | nil => cases h : renderAll context qs <;> simp [renderAll, Except.map, h]
  | cons p ps ih =>
    simp only [List.cons_append, renderAll, ih]
    cases p.render context with
    | error e => rfl
    | ok cs =>
      cases renderAll context ps with
      | error e => rfl
      | ok ds => cases renderAll context qs <;> simp [Except.map]

/-! ## Bytes -/

@[simp] theorem byteLength_append (cs ds : List Char) :
    byteLength (cs ++ ds) = byteLength cs + byteLength ds := by
  induction cs with
  | nil => rw [List.nil_append, byteLength, Nat.zero_add]
  | cons c cs ih => rw [List.cons_append, byteLength, byteLength, ih, Nat.add_assoc]

@[simp] theorem utf8ByteSize_ofList (cs : List Char) :
    (String.ofList cs).utf8ByteSize = byteLength cs := by
  induction cs with
  | nil => rfl
  | cons c cs ih =>
    have hc : String.ofList ([c] ++ cs) = String.singleton c ++ String.ofList cs :=
      String.ofList_append
    rw [show c :: cs = [c] ++ cs from rfl, hc, String.utf8ByteSize_append,
      String.utf8ByteSize_singleton, ih]
    rfl

@[simp] theorem byteLength_dollars (n : Nat) : byteLength (dollars n) = n := by
  induction n with
  | zero => rfl
  | succ n ih =>
    have hd : dollars (n + 1) = '$' :: dollars n := rfl
    rw [hd, byteLength, ih, Nat.add_comm]
    rfl

/-! ## Rendering -/

@[simp] theorem render_literal_cons (context : Record) (cs : List Char) (ps : List Piece) :
    renderAll context (.literal cs :: ps) = (renderAll context ps).map (cs ++ ·) := rfl

@[simp] theorem except_map_nil_append (x : Except TemplateError (List Char)) :
    x.map ([] ++ ·) = x := by
  cases x <;> rfl

/-! ## Runs -/

theorem exists_dollars_append (cs : List Char) :
    ∃ n rest, cs = dollars n ++ rest ∧ rest.head? ≠ some '$' := by
  induction cs with
  | nil => exact ⟨0, [], rfl, by simp⟩
  | cons c cs ih =>
    by_cases hc : c = '$'
    · obtain ⟨n, rest, rfl, hr⟩ := ih
      exact ⟨n + 1, rest, by rw [hc]; rfl, hr⟩
    · exact ⟨0, c :: cs, rfl, fun h => hc (Option.some.inj h)⟩

@[simp] theorem scan_dollars (offset run n : Nat) (cs : List Char) :
    scan offset (.text run) (dollars n ++ cs) = scan (offset + n) (.text (run + n)) cs := by
  induction n generalizing offset run with
  | zero => rfl
  | succ n ih =>
    have hd : dollars (n + 1) ++ cs = '$' :: (dollars n ++ cs) := rfl
    have hs : step offset (.text run) '$' = ([], .text (run + 1)) := rfl
    have hb : ('$').utf8Size = 1 := rfl
    rw [hd, scan, hs, hb, ih, List.nil_append, Nat.add_right_comm offset, Nat.add_right_comm run]
    rfl

theorem scan_even_brace (offset n : Nat) (rest : List Char) :
    scan offset (.text (2 * n)) ('\x7b' :: rest) =
      .literal (dollars n ++ ['\x7b']) :: scan (offset + 1) (.text 0) rest := by
  have hs : step offset (.text (2 * n)) '\x7b' =
      ([.literal (dollars n ++ ['\x7b'])], .text 0) := by
    rw [step, if_neg (by decide), if_pos rfl, if_pos (by omega),
      Nat.mul_div_cancel_left n (by decide)]
  rw [scan, hs]
  rfl

theorem scan_odd_brace (offset n : Nat) (rest : List Char) :
    scan offset (.text (2 * n + 1)) ('\x7b' :: rest) =
      .literal (dollars n) :: scan (offset + 1) (.key (offset - 1) []) rest := by
  have hs : step offset (.text (2 * n + 1)) '\x7b' =
      ([.literal (dollars n)], .key (offset - 1) []) := by
    rw [step, if_neg (by decide), if_pos rfl, if_neg (by omega),
      show (2 * n + 1) / 2 = n by omega]
  rw [scan, hs]
  rfl

theorem scan_other {c : Char} (hd : c ≠ '$') (hb : c ≠ '\x7b') (offset n : Nat)
    (rest : List Char) :
    scan offset (.text n) (c :: rest) =
      .literal (dollars n ++ [c]) :: scan (offset + c.utf8Size) (.text 0) rest := by
  have hs : step offset (.text n) c = ([.literal (dollars n ++ [c])], .text 0) := by
    rw [step, if_neg hd, if_neg hb]
  rw [scan, hs]
  rfl

/-- Where a run does not end at a brace, all of it is copied. -/
theorem renderAll_scan_run (context : Record) (offset n : Nat) {rest : List Char}
    (hd : rest.head? ≠ some '$') (hb : rest.head? ≠ some '\x7b') :
    renderAll context (scan offset (.text n) rest) =
      (renderAll context (scan offset (.text 0) rest)).map (dollars n ++ ·) := by
  cases rest with
  | nil => simp [scan, finish, renderAll, Except.map, dollars]
  | cons c cs =>
    have hc : c ≠ '$' := fun h => hd (congrArg some h)
    have hc' : c ≠ '\x7b' := fun h => hb (congrArg some h)
    simp only [scan_other hc hc', render_literal_cons, except_map_map, List.append_assoc]
    rfl

/-! ## Keys -/

theorem scan_key {key : List Char} (h : '\x7d' ∉ key) (offset start : Nat)
    (read rest : List Char) :
    scan offset (.key start read) (key ++ '\x7d' :: rest) =
      .variable (read.reverse ++ key) :: scan (offset + byteLength key + 1) (.text 0) rest := by
  induction key generalizing offset read with
  | nil => simp [scan, step, byteLength]; rfl
  | cons c key ih =>
    obtain ⟨hc, hk⟩ := not_or.1 (fun hm => h (List.mem_cons.2 hm))
    have hs : step offset (.key start read) c = ([], .key start (c :: read)) := by
      rw [step, if_neg (Ne.symm hc)]
    rw [List.cons_append, scan, hs, ih hk, byteLength, List.reverse_cons, List.append_assoc,
      List.singleton_append, List.nil_append, Nat.add_assoc offset]

theorem scan_key_of_not_mem {rest : List Char} (h : '\x7d' ∉ rest) (offset start : Nat)
    (read : List Char) : scan offset (.key start read) rest = [.unterminated start] := by
  induction rest generalizing offset read with
  | nil => rfl
  | cons c rest ih =>
    obtain ⟨hc, hr⟩ := not_or.1 (fun hm => h (List.mem_cons.2 hm))
    have hs : step offset (.key start read) c = ([], .key start (c :: read)) := by
      rw [step, if_neg (Ne.symm hc)]
    rw [scan, hs, ih hr, List.nil_append]

/-! ## Placeholders -/

section

variable {run signs n : Nat} {key : List Char}

/-- In front of a placeholder stand half of the dollar signs that are not its own. Some of them may
have been read before. -/
theorem scan_placeholder (hr : run + signs = 2 * n + 1) (hk : '\x7d' ∉ key) (offset : Nat)
    (rest : List Char) :
    scan offset (.text run) (dollars signs ++ '\x7b' :: (key ++ '\x7d' :: rest)) =
      .literal (dollars n) :: .variable key ::
        scan (offset + signs + 1 + byteLength key + 1) (.text 0) rest := by
  rw [scan_dollars, hr, scan_odd_brace, scan_key hk, List.reverse_nil, List.nil_append]

theorem renderAll_scan_placeholder (hr : run + signs = 2 * n + 1) (hk : '\x7d' ∉ key)
    {context : Record} {v : Value} (hv : lookup? context (Text.trimChars key) = some v)
    (offset : Nat) (rest : List Char) :
    renderAll context
        (scan offset (.text run) (dollars signs ++ '\x7b' :: (key ++ '\x7d' :: rest))) =
      (renderAll context (scan (offset + signs + 1 + byteLength key + 1) (.text 0) rest)).map
        (dollars n ++ insertion v ++ ·) := by
  rw [scan_placeholder hr hk, render_literal_cons]
  simp only [renderAll, Piece.render, hv, except_map_map, List.append_assoc]

end

end Switchboard.Template
