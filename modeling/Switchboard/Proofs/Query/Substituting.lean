import Switchboard.Proofs.Query.Scanning

/-!
# Placeholders replaced one after the other

The evaluator looks for the next brace behind a dollar sign and counts the run in front of it
backwards, over text that it has passed already. Reading character by character never goes back: it
knows the length of a run when it meets the brace. Both give the same text and the same error, since
the text up to a run has no such brace and does not end in a dollar sign.

* `cutOpening?_eq_some`: the text up to the first brace behind a run, and the run.
* `renderAll_scan_copied`: text without such a brace is copied.
* `substitute_eq`: what is left of a template, replaced and read character by character.
* `evaluate_eq`: so it is for whole templates.
-/

namespace Switchboard.Template

/-! ## The run at the end of a text -/

theorem finalRun_append_dollars {text : List Char} (h : text.getLast? ≠ some '$') (n : Nat) :
    finalRun (text ++ dollars n) = n := by
  have hn : ∀ c ∈ dollars n, decide (c = '$') = true := fun c hc =>
    decide_eq_true (List.eq_of_mem_replicate hc)
  have ht : text.reverse.takeWhile (· = '$') = [] := by
    rw [← List.head?_reverse] at h
    cases hr : text.reverse with
    | nil => rfl
    | cons c cs =>
      rw [hr] at h
      exact List.takeWhile_cons_of_neg fun hc => h (congrArg some (of_decide_eq_true hc))
  rw [finalRun, List.reverse_append, dollars, List.reverse_replicate, ← dollars,
    List.takeWhile_append_of_pos hn, ht, List.append_nil, dollars, List.length_replicate]

theorem exists_append_dollars (cs : List Char) :
    ∃ text n, cs = text ++ dollars n ∧ text.getLast? ≠ some '$' := by
  obtain ⟨n, rest, he, hr⟩ := exists_dollars_append cs.reverse
  refine ⟨rest.reverse, n, ?_, by rwa [List.getLast?_reverse]⟩
  rw [← List.reverse_reverse cs, he, List.reverse_append, dollars, List.reverse_replicate]

/-! ## The first brace behind a dollar sign -/

theorem cutOpening?_cons_eq_none_iff {c : Char} {cs : List Char} :
    cutOpening? (c :: cs) = none ↔
      ¬ (c = '$' ∧ cs.head? = some '\x7b') ∧ cutOpening? cs = none := by
  rw [cutOpening?]
  split
  · next h => simp [h]
  · next h => simp [h]

theorem cutOpening?_of_append {cs ds : List Char} (h : cutOpening? (cs ++ ds) = none) :
    cutOpening? cs = none := by
  induction cs with
  | nil => rfl
  | cons c cs ih =>
    rw [List.cons_append] at h
    obtain ⟨hc, hcs⟩ := cutOpening?_cons_eq_none_iff.1 h
    refine cutOpening?_cons_eq_none_iff.2 ⟨?_, ih hcs⟩
    rintro ⟨hd, hb⟩
    refine hc ⟨hd, ?_⟩
    rw [List.head?_append, hb, Option.some_or]

/-- In front of the brace that is found, and up to its dollar sign, there is no other. -/
theorem cutOpening?_front {cs front behind : List Char}
    (h : cutOpening? cs = some (front, behind)) : cutOpening? (front ++ ['$']) = none := by
  induction cs generalizing front with
  | nil => cases h
  | cons c cs ih =>
    rw [cutOpening?] at h
    split at h
    · cases h
      rfl
    · next hc =>
      obtain ⟨⟨x, y⟩, hxy, he⟩ := Option.map_eq_some_iff.1 h
      cases he
      refine cutOpening?_cons_eq_none_iff.2 ⟨?_, ih hxy⟩
      rintro ⟨hd, hb⟩
      refine hc ⟨hd, ?_⟩
      rw [append_of_cutOpening? hxy]
      cases x <;> exact hb

/-- Up to the first brace behind a dollar sign stand a text without such a brace, which does not end
in a dollar sign, and a run. -/
theorem cutOpening?_eq_some {cs front behind : List Char}
    (h : cutOpening? cs = some (front, behind)) :
    ∃ text n, front ++ ['$'] = text ++ dollars n ∧ text.getLast? ≠ some '$' ∧
      cutOpening? text = none := by
  obtain ⟨text, n, he, ht⟩ := exists_append_dollars (front ++ ['$'])
  have hf := cutOpening?_front h
  rw [he] at hf
  exact ⟨text, n, he, ht, cutOpening?_of_append hf⟩

/-! ## Text that is copied -/

theorem getLast?_ne_of_cons {c d : Char} {cs : List Char} (h : (c :: cs).getLast? ≠ some d) :
    cs.getLast? ≠ some d := by
  cases cs with
  | nil => exact nofun
  | cons b cs => rwa [List.getLast?_cons_cons] at h

/-- Text without a brace behind a dollar sign is copied, with the run that is pending in front. The
run does not end at a brace either. -/
theorem renderAll_scan_copied {context : Record} {text : List Char} (ho : cutOpening? text = none)
    (hl : text.getLast? ≠ some '$') (offset n : Nat)
    (hn : 0 < n → text ≠ [] ∧ text.head? ≠ some '\x7b') (rest : List Char) :
    renderAll context (scan offset (.text n) (text ++ rest)) =
      (renderAll context (scan (offset + byteLength text) (.text 0) rest)).map
        (dollars n ++ text ++ ·) := by
  induction text generalizing offset n with
  | nil =>
    obtain rfl : n = 0 := Nat.eq_zero_of_not_pos fun h => (hn h).1 rfl
    exact (except_map_nil_append _).symm
  | cons c cs ih =>
    obtain ⟨hc, hcs⟩ := cutOpening?_cons_eq_none_iff.1 ho
    have hlast := getLast?_ne_of_cons hl
    rw [byteLength, ← Nat.add_assoc]
    by_cases hd : c = '$'
    · subst hd
      have hne : cs ≠ [] := by
        rintro rfl
        exact hl rfl
      have hrest := ih hcs hlast (offset + 1) (n + 1) fun _ => ⟨hne, fun hb => hc ⟨rfl, hb⟩⟩
      have hs := scan_dollars offset n 1 (cs ++ rest)
      have hsucc : dollars (n + 1) = dollars n ++ ['$'] := List.replicate_succ'
      rw [List.cons_append, show '$' :: (cs ++ rest) = dollars 1 ++ (cs ++ rest) from rfl, hs,
        hrest, hsucc]
      simp only [List.append_assoc, List.singleton_append]
      rfl
    · have hrest := fun offset => ih hcs hlast offset 0 fun h => absurd h (Nat.lt_irrefl 0)
      by_cases hb : c = '\x7b'
      · subst hb
        obtain rfl : n = 0 := Nat.eq_zero_of_not_pos fun h => (hn h).2 rfl
        rw [List.cons_append, show (0 : Nat) = 2 * 0 from rfl, scan_even_brace, render_literal_cons,
          hrest, except_map_map]
        rfl
      · rw [List.cons_append, scan_other hd hb, render_literal_cons, hrest, except_map_map]
        simp only [List.append_assoc, List.singleton_append]
        rfl

theorem renderAll_scan_text {context : Record} {text : List Char} (ho : cutOpening? text = none)
    (hl : text.getLast? ≠ some '$') (offset : Nat) (rest : List Char) :
    renderAll context (scan offset (.text 0) (text ++ rest)) =
      (renderAll context (scan (offset + byteLength text) (.text 0) rest)).map (text ++ ·) :=
  renderAll_scan_copied ho hl offset 0 (fun h => absurd h (Nat.lt_irrefl 0)) rest

/-! ## Whole templates -/

theorem take_append_dollars {front text : List Char} {n : Nat}
    (he : front ++ ['$'] = text ++ dollars n) (ht : text.getLast? ≠ some '$') :
    finalRun (front ++ ['$']) = n ∧ (front ++ ['$']).take (front.length + 1 - n) = text := by
  have hl := congrArg List.length he
  rw [List.length_append, List.length_append, dollars, List.length_replicate] at hl
  have hlen : front.length + 1 - n = text.length := by
    rw [List.length_singleton] at hl
    omega
  rw [he, finalRun_append_dollars ht, hlen]
  exact ⟨rfl, List.take_left⟩

theorem byteLength_of_cutOpening? {cs front behind : List Char}
    (h : cutOpening? cs = some (front, behind)) :
    byteLength cs = byteLength front + 1 + 1 + byteLength behind := by
  rw [append_of_cutOpening? h, byteLength_append, Nat.add_assoc, Nat.add_assoc]
  rfl

theorem byteLength_of_cut? {cs key after : List Char}
    (h : Text.cut? '\x7d' cs = some (key, after)) :
    byteLength cs = byteLength key + 1 + byteLength after := by
  rw [(Text.cut?_eq_some_iff.1 h).1, byteLength_append, Nat.add_assoc]
  rfl

/-- Up to the first brace behind a dollar sign everything but the run is copied, and the run is read
when the brace is met. -/
theorem renderAll_scan_opening {rest front behind : List Char}
    (ho : cutOpening? rest = some (front, behind)) (context : Record) (offset : Nat) :
    renderAll context (scan offset (.text 0) rest) =
      (renderAll context (scan (offset + byteLength front + 1)
        (.text (finalRun (front ++ ['$']))) ('\x7b' :: behind))).map
          ((front ++ ['$']).take (front.length + 1 - finalRun (front ++ ['$'])) ++ ·) := by
  obtain ⟨text, n, he, ht, hf⟩ := cutOpening?_eq_some ho
  obtain ⟨hrun, htake⟩ := take_append_dollars he ht
  have hrest : rest = text ++ (dollars n ++ '\x7b' :: behind) := by
    rw [append_of_cutOpening? ho, ← List.append_assoc, ← he, List.append_assoc]
    rfl
  have hbytes : byteLength front + 1 = byteLength text + n := by
    rw [← byteLength_dollars n, ← byteLength_append, ← he, byteLength_append]
    rfl
  rw [hrun, htake, hrest, renderAll_scan_text hf ht, scan_dollars, Nat.zero_add,
    Nat.add_assoc offset, ← hbytes, ← Nat.add_assoc offset]

/-- Replacing placeholders one after the other gives what the pieces of the rest render as, behind
what was put out before. -/
theorem substitute_eq (context : Record) (bytes offset : Nat) (out rest : List Char)
    (h : bytes = offset + byteLength rest) :
    substitute context bytes out rest =
      (renderAll context (scan offset (.text 0) rest)).map (out ++ ·) := by
  fun_induction substitute context bytes out rest generalizing offset with
  | case1 out rest ho =>
    -- no brace is left, and only the run at the end is pending
    obtain ⟨text, n, rfl, ht⟩ := exists_append_dollars rest
    rw [renderAll_scan_text (cutOpening?_of_append ho) ht, ← List.append_nil (dollars n),
      scan_dollars, Nat.zero_add, List.append_nil]
    simp [scan, finish, renderAll, Except.map, dollars]
  | case2 out rest front behind ho _ run put heven ih =>
    have hbytes := byteLength_of_cutOpening? ho
    have hrun : 2 * (run / 2) = finalRun (front ++ ['$']) := by omega
    have hbrace := scan_even_brace (offset + byteLength front + 1) (run / 2) behind
    rw [hrun] at hbrace
    rw [ih (offset + byteLength front + 1 + 1) (by omega), renderAll_scan_opening ho, hbrace,
      render_literal_cons]
    simp only [except_map_map, put, List.append_assoc, run]
  | case3 out rest front behind ho _ run hodd hk =>
    have hoffset : bytes - byteLength rest = offset := by omega
    have hrun : finalRun (front ++ ['$']) = 2 * (run / 2) + 1 := by omega
    rw [renderAll_scan_opening ho, hrun, scan_odd_brace, render_literal_cons,
      scan_key_of_not_mem (Text.cut?_eq_none_iff.1 hk), hoffset]
    rfl
  | case4 out rest front behind ho _ run put hodd key after hk _ v hv ih =>
    have hbytes := byteLength_of_cutOpening? ho
    have hkey := byteLength_of_cut? hk
    have hrun : finalRun (front ++ ['$']) + 0 = 2 * (run / 2) + 1 := by omega
    obtain ⟨rfl, hmem⟩ := Text.cut?_eq_some_iff.1 hk
    have hplaceholder :=
      renderAll_scan_placeholder hrun hmem hv (offset + byteLength front + 1) after
    rw [dollars, List.replicate_zero, List.nil_append] at hplaceholder
    rw [ih (offset + byteLength front + 1 + 0 + 1 + byteLength key + 1) (by omega),
      renderAll_scan_opening ho, hplaceholder]
    simp only [except_map_map, put, List.append_assoc, run]
  | case5 out rest front behind ho _ run hodd key after hk _ hv =>
    have hrun : finalRun (front ++ ['$']) + 0 = 2 * (run / 2) + 1 := by omega
    obtain ⟨rfl, hmem⟩ := Text.cut?_eq_some_iff.1 hk
    have hplaceholder := scan_placeholder hrun hmem (offset + byteLength front + 1) after
    rw [dollars, List.replicate_zero, List.nil_append] at hplaceholder
    rw [renderAll_scan_opening ho, hplaceholder, render_literal_cons]
    simp only [renderAll, Piece.render, hv, Except.map]

theorem evaluate_eq (template : String) (context : Record) :
    evaluate template context =
      (renderAll context (scan 0 (.text 0) template.toList)).map .ofList := by
  have hbytes : template.utf8ByteSize = 0 + byteLength template.toList := by
    rw [Nat.zero_add, ← utf8ByteSize_ofList, String.ofList_toList]
  rw [evaluate, substitute_eq context _ 0 [] _ hbytes, except_map_nil_append]

end Switchboard.Template
