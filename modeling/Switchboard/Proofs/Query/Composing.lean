import Switchboard.Proofs.Query.Reading

/-!
# Templates in a row

Two templates may be written one behind the other and evaluated at once, as long as no run of dollar
signs goes on over the seam between them. What was inserted for the first is not read again, be it
dollar signs or braces, and a problem of the second is at as many bytes more as the first one has.
By the rules, both follow rule by rule.

* `Reads.behind`: what is left of a template reads alike wherever it stands, but for the place of a
  problem.
* `Joins`: the seams that no run goes over.
* `Reads.append`: texts in a row read as the text of the first and what the second reads as.
* `exists_run_of_getLast?`: a run at the end of a text goes on with what is behind it.
* `evaluate_append_eq`, `evaluate_append_ne`: the text of a row, and where it is another.
* `evaluate_append`: templates in a row, and why the seam matters.
-/

namespace Switchboard

/-- The problem of a template in front of which so many bytes more are put. -/
def TemplateError.behind (bytes : Nat) : TemplateError → TemplateError
  | unterminated offset => unterminated (offset + bytes)
  | unknownVariable key => unknownVariable key
  | refused message => refused message

namespace Template

variable {context : Record} {before rest : List Char} {out : Except TemplateError (List Char)}

/-! ## The place of a template -/

/-- Behind more text, what is left of a template reads as before; a problem in it is as much further
on. -/
theorem Reads.behind (h : Reads context before rest out) (front : List Char) :
    Reads context (front ++ before) rest (out.mapError (·.behind (byteLength front))) := by
  induction h with
  | done => exact .done
  | copy hc _ ih =>
    rw [except_mapError_map]
    exact .copy hc (by rwa [List.append_assoc])
  | run hn hd hb _ ih =>
    rw [except_mapError_map]
    exact .run hn hd hb (by rwa [List.append_assoc])
  | escaped hn _ ih =>
    rw [except_mapError_map]
    exact .escaped hn (by simpa only [List.append_assoc] using ih)
  | value hk hv ht _ ih =>
    rw [except_mapError_map]
    exact .value hk hv ht (by simpa only [List.append_assoc] using ih)
  | unknown hk hv => exact .unknown hk hv
  | @unterminated before rest n hr =>
    have ho : (String.ofList (front ++ before ++ dollars (2 * n))).utf8ByteSize =
        (String.ofList (before ++ dollars (2 * n))).utf8ByteSize + byteLength front := by
      simp only [utf8ByteSize_ofList, byteLength_append]
      omega
    have hu : Reads context (front ++ before) (dollars (2 * n + 1) ++ '\x7b' :: rest) _ :=
      .unterminated hr
    rwa [ho] at hu

/-! ## Texts in a row -/

/-- No run of dollar signs goes over the seam between two texts: the first does not end in one, or
the second neither goes on with it nor has the brace that it would end at. -/
def Joins (a b : List Char) : Prop :=
  a.getLast? ≠ some '$' ∨ b.head? ≠ some '$' ∧ b.head? ≠ some '\x7b'

theorem Joins.of_append (front : List Char) {a b : List Char} (h : Joins (front ++ a) b) :
    Joins a b := by
  cases a with
  | nil => exact .inl nofun
  | cons c cs =>
    have hl : (front ++ c :: cs).getLast? = (c :: cs).getLast? := by
      rw [List.getLast?_append, List.getLast?_cons, Option.some_or]
    rwa [Joins, hl] at h

theorem Joins.of_cons {c : Char} {a b : List Char} (h : Joins (c :: a) b) : Joins a b :=
  of_append [c] h

theorem getLast?_dollars {n : Nat} (h : 0 < n) : (dollars n).getLast? = some '$' := by
  rw [dollars, List.getLast?_replicate, if_neg (Nat.ne_of_gt h)]

/-- Behind a run of dollar signs at the seam, nothing goes on with it. -/
theorem Joins.head?_append {n : Nat} (hn : 0 < n) {rest b : List Char}
    (h : Joins (dollars n ++ rest) b) {c : Char} (hc : c = '$' ∨ c = '\x7b')
    (hr : rest.head? ≠ some c) : (rest ++ b).head? ≠ some c := by
  cases rest with
  | cons d rest => exact hr
  | nil =>
    rcases h with h | ⟨hd, hb⟩
    · exact absurd (by rw [List.append_nil, getLast?_dollars hn]) h
    · rcases hc with rfl | rfl
      · exact hd
      · exact hb

/-- What a rule puts in front of a text, it puts in front of any longer one. -/
theorem exists_of_map_eq_ok {put : List Char → List Char} (hp : ∀ y z, put (y ++ z) = put y ++ z)
    {x : List Char} (h : out.map put = .ok x) :
    ∃ y, out = .ok y ∧ ∀ behind : Except TemplateError (List Char),
      behind.map (x ++ ·) = (behind.map (y ++ ·)).map put := by
  cases out with
  | error e => cases h
  | ok y =>
    cases h
    refine ⟨y, rfl, fun behind => ?_⟩
    cases behind with
    | error e => rfl
    | ok z => exact congrArg Except.ok (hp y z).symm

/-- Texts in a row read as the text of the first and what the second reads as behind it. What was
inserted for the first stands in its text only, so that no rule looks at it again. -/
theorem Reads.append {a b x : List Char} (ha : Reads context before a (.ok x)) (hj : Joins a b)
    (hb : Reads context (before ++ a) b out) :
    Reads context before (a ++ b) (out.map (x ++ ·)) := by
  generalize hx : Except.ok x = text at ha
  induction ha generalizing x with
  | done =>
    cases hx
    have hid : out.map ([] ++ ·) = out := by cases out <;> rfl
    rw [List.append_nil] at hb
    rwa [hid, List.nil_append]
  | copy hc _ ih =>
    obtain ⟨y, rfl, hy⟩ := exists_of_map_eq_ok (by simp) hx.symm
    rw [hy]
    exact .copy hc (ih hj.of_cons (by rwa [List.append_assoc]) rfl)
  | run hn hd hbrace _ ih =>
    obtain ⟨y, rfl, hy⟩ := exists_of_map_eq_ok (by simp) hx.symm
    rw [hy, List.append_assoc]
    exact .run hn (hj.head?_append hn (.inl rfl) hd) (hj.head?_append hn (.inr rfl) hbrace)
      (ih (hj.of_append _) (by rwa [List.append_assoc]) rfl)
  | escaped hn _ ih =>
    obtain ⟨y, rfl, hy⟩ := exists_of_map_eq_ok (by simp) hx.symm
    rw [hy, List.append_assoc, List.cons_append]
    exact .escaped hn (ih (hj.of_append _).of_cons (by simpa [List.append_assoc] using hb) rfl)
  | value hk hv ht _ ih =>
    obtain ⟨y, rfl, hy⟩ := exists_of_map_eq_ok (by simp) hx.symm
    rw [hy, List.append_assoc, List.cons_append]
    exact .value hk hv ht (ih (hj.of_append _).of_cons (by simpa [List.append_assoc] using hb) rfl)
  | unknown => cases hx
  | unterminated => cases hx

/-! ## Runs at a seam -/

/-- A run of dollar signs at the end of a text that renders is pending, and goes on with what is
behind it. -/
theorem exists_run_of_getLast? {a x : List Char}
    (h : renderAll context (scan 0 (.text 0) a) = .ok x) (hd : a.getLast? = some '$') :
    ∃ text n, 0 < n ∧ x = text ++ dollars n ∧ ∀ rest, ∃ offset,
      renderAll context (scan 0 (.text 0) (a ++ rest)) =
        (renderAll context (scan offset (.text n) rest)).map (text ++ ·) := by
  obtain ⟨front, rfl⟩ := List.getLast?_eq_some_iff.1 hd
  rw [scan_append, renderAll_append] at h
  cases hr : renderAll context (completed 0 (.text 0) front) with
  | error e => rw [hr] at h; cases h
  | ok text =>
    rw [hr] at h
    cases hm : modeAfter 0 (.text 0) front with
    | key start read =>
      rw [hm, scan_key_of_not_mem (by decide)] at h
      cases h
    | text n =>
      rw [hm] at h
      have hx : text ++ (dollars (n + 1) ++ []) = x := Except.ok.inj h
      rw [List.append_nil] at hx
      refine ⟨text, n + 1, Nat.succ_pos n, hx.symm, fun rest => ⟨0 + byteLength front + 1, ?_⟩⟩
      rw [List.append_assoc, scan_append, renderAll_append, hr, hm]
      exact congrArg (fun ps => (renderAll context ps).map (text ++ ·))
        (scan_dollars (0 + byteLength front) n 1 rest)

/-- An even run and a brace render as half of the run and the brace. -/
theorem renderAll_scan_even_brace (offset n : Nat) :
    renderAll context (scan offset (.text (2 * n)) ['\x7b']) = .ok (dollars n ++ ['\x7b']) := by
  rw [scan_even_brace, render_literal_cons]
  exact congrArg Except.ok (List.append_nil _)

/-- An even run and a brace behind another run do not render as they do on their own: it is half of
the whole run that counts, if not a placeholder opens there. -/
theorem renderAll_scan_append_ne {a x : List Char}
    (h : renderAll context (scan 0 (.text 0) a) = .ok x) (hd : a.getLast? = some '$') (n : Nat) :
    renderAll context (scan 0 (.text 0) (a ++ (dollars (2 * n) ++ ['\x7b']))) ≠
      .ok (x ++ (dollars n ++ ['\x7b'])) := by
  obtain ⟨text, k, hk, rfl, hrest⟩ := exists_run_of_getLast? h hd
  obtain ⟨offset, hr⟩ := hrest (dollars (2 * n) ++ ['\x7b'])
  rw [hr, scan_dollars]
  obtain ⟨m, hm | hm⟩ : ∃ m, k + 2 * n = 2 * m ∨ k + 2 * n = 2 * m + 1 :=
    ⟨(k + 2 * n) / 2, by omega⟩
  · rw [hm, renderAll_scan_even_brace]
    intro he
    have hl := congrArg List.length (Except.ok.inj he)
    simp only [dollars, List.length_append, List.length_replicate, List.length_singleton] at hl
    omega
  · rw [hm, scan_odd_brace]
    intro he
    cases he

/-! ## Whole templates -/

theorem evaluate_eq_ok_iff_renderAll {template text : String} :
    evaluate template context = .ok text ↔
      renderAll context (scan 0 (.text 0) template.toList) = .ok text.toList := by
  rw [evaluate_eq]
  cases renderAll context (scan 0 (.text 0) template.toList) with
  | error e => simp only [Except.map, reduceCtorEq]
  | ok cs =>
    simp only [Except.map, Except.ok.injEq]
    exact ⟨fun h => h ▸ String.toList_ofList.symm, fun h => h ▸ String.ofList_toList⟩

theorem evaluate_of_reads {template : String} (h : Reads context [] template.toList out) :
    evaluate template context = out.map .ofList := by
  rw [evaluate_eq]
  exact congrArg (Except.map String.ofList) (reads_iff.1 h)

/-- The rules know of two problems only. -/
theorem Reads.ne_refused (h : Reads context before rest out) (message : String) :
    out ≠ .error (.refused message) := by
  induction h with
  | done | unknown | unterminated => exact nofun
  | @copy _ _ _ out _ _ ih | @run _ _ _ out _ _ _ _ ih | @escaped _ _ _ out _ _ ih
  | @value _ _ _ _ _ _ out _ _ _ _ ih =>
    cases out with
    | ok cs => exact nofun
    | error e =>
      intro he
      cases he
      exact ih rfl

theorem evaluate_ne_refused (template message : String) :
    evaluate template context ≠ .error (.refused message) := by
  obtain ⟨out, h⟩ := exists_reads context [] template.toList
  rw [evaluate_of_reads h]
  cases out with
  | ok cs => exact nofun
  | error e =>
    intro he
    cases he
    exact h.ne_refused message rfl

/-- What two templates in a row evaluate to, where no run goes over the seam: the text of the first
and what the second evaluates to, with a problem where it is then. -/
theorem evaluate_append_eq {a b x : String} (ha : evaluate a context = .ok x)
    (hj : Joins a.toList b.toList) :
    evaluate (a ++ b) context =
      ((evaluate b context).mapError (·.behind a.utf8ByteSize)).map (x ++ ·) := by
  have front : Reads context [] a.toList (.ok x.toList) :=
    reads_iff.2 (evaluate_eq_ok_iff_renderAll.1 ha)
  obtain ⟨out, hb⟩ := exists_reads context [] b.toList
  have rest := hb.behind a.toList
  rw [List.append_nil, ← utf8ByteSize_ofList, String.ofList_toList] at rest
  have whole := front.append hj rest
  rw [← String.toList_append] at whole
  rw [evaluate_of_reads whole, evaluate_of_reads hb]
  cases out with
  | error e => rfl
  | ok cs =>
    have ho : String.ofList (x.toList ++ cs) = x ++ String.ofList cs := by
      rw [String.ofList_append, String.ofList_toList]
    exact congrArg Except.ok ho

/-- An even run and a brace are not appended to a template that ends in a dollar sign. -/
theorem evaluate_append_ne {a x : String} (ha : evaluate a context = .ok x)
    (hd : a.toList.getLast? = some '$') (n : Nat) :
    evaluate (a ++ .ofList (dollars (2 * n) ++ ['\x7b'])) context ≠
      .ok (x ++ .ofList (dollars n ++ ['\x7b'])) := by
  rw [ne_eq, evaluate_eq_ok_iff_renderAll, String.toList_append, String.toList_append,
    String.toList_ofList, String.toList_ofList]
  exact renderAll_scan_append_ne (evaluate_eq_ok_iff_renderAll.1 ha) hd n

theorem evaluate_even_brace (n : Nat) :
    evaluate (.ofList (dollars (2 * n) ++ ['\x7b'])) context =
      .ok (.ofList (dollars n ++ ['\x7b'])) := by
  rw [evaluate_eq_ok_iff_renderAll, String.toList_ofList, String.toList_ofList, scan_dollars,
    Nat.zero_add, renderAll_scan_even_brace]

/-- Where the front of a template evaluates to a text, all of it evaluates to that text and what the
rest evaluates to, if the front does not end in a dollar sign or the rest starts neither with one
nor with an opening brace; a problem of the rest is the problem of the whole, and is at as many
bytes more as the front has. The front may have inserted any text. If it does end in a dollar sign,
there are rests of either kind whose text is not appended. -/
theorem evaluate_append {a x : String} {context : Record} (ha : evaluate a context = .ok x) :
    (∀ b : String, a.toList.getLast? ≠ some '$' ∨
        b.toList.head? ≠ some '$' ∧ b.toList.head? ≠ some '\x7b' →
      (∀ y, evaluate b context = .ok y → evaluate (a ++ b) context = .ok (x ++ y)) ∧
      (∀ key, evaluate b context = .error (.unknownVariable key) →
        evaluate (a ++ b) context = .error (.unknownVariable key)) ∧
      (∀ n, evaluate b context = .error (.unterminated n) →
        evaluate (a ++ b) context = .error (.unterminated (n + a.utf8ByteSize))) ∧
      ∀ message, evaluate b context ≠ .error (.refused message)) ∧
    (a.toList.getLast? = some '$' → ∀ c, c = '$' ∨ c = '\x7b' →
      ∃ b y, b.toList.head? = some c ∧ evaluate b context = .ok y ∧
        evaluate (a ++ b) context ≠ .ok (x ++ y)) := by
  refine ⟨fun b hj => ?_, fun hd c hc => ?_⟩
  · have h := evaluate_append_eq ha hj
    refine ⟨fun y hb => ?_, fun key hb => ?_, fun n hb => ?_, evaluate_ne_refused b⟩
    · rw [h, hb]
      rfl
    · rw [h, hb]
      rfl
    · rw [h, hb]
      rfl
  · rcases hc with rfl | rfl
    · exact ⟨_, _, by decide, evaluate_even_brace 1, evaluate_append_ne ha hd 1⟩
    · exact ⟨_, _, by decide, evaluate_even_brace 0, evaluate_append_ne ha hd 0⟩

/-- A record whose value named `x` looks like the start of a placeholder. -/
def tricky : Record := Record.empty.insert "x" (.ofString "$$\x7by\x7d $")

theorem evaluate_append_tricky :
    evaluate "é $\x7bx\x7d$\x7b x \x7d" tricky = .ok "é $$\x7by\x7d $$$\x7by\x7d $" ∧
    evaluate "é $\x7bx\x7d\x7b $\x7by\x7d" tricky = .error (.unknownVariable "y") ∧
    evaluate "é $\x7bx\x7d$\x7bx" tricky = .error (.unterminated 7) ∧
    evaluate "é $\x7bx\x7d$ $" tricky = .ok "é $$\x7by\x7d $$ $" ∧
    ∃ b y, b.toList.head? = some '$' ∧ evaluate b tricky = .ok y ∧
        evaluate ("5 $" ++ b) tricky ≠ .ok ("5 $" ++ y) := by
  have front : evaluate "é $\x7bx\x7d" tricky = .ok "é $$\x7by\x7d $" := by rw [evaluate_eq]; rfl
  have seam : "é $\x7bx\x7d".toList.getLast? ≠ some '$' := by decide
  have row := fun b => (evaluate_append front).1 b (.inl seam)
  refine ⟨?_, ?_, ?_, ?_, ?_⟩
  · exact (row "$\x7b x \x7d").1 "$$\x7by\x7d $" (by rw [evaluate_eq]; rfl)
  · exact (row "\x7b $\x7by\x7d").2.1 "y" (by rw [evaluate_eq]; rfl)
  · exact (row "$\x7bx").2.2.1 0 (by rw [evaluate_eq]; rfl)
  · exact (row "$ $").1 "$ $" (by rw [evaluate_eq]; rfl)
  · exact (evaluate_append (x := "5 $") (by rw [evaluate_eq]; rfl)).2 (by decide) '$' (.inl rfl)

end Template

end Switchboard
