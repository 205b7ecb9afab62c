import Mathlib.Data.List.DropRight
import Switchboard.Proofs.Registry.History
import Switchboard.Registry.Published

/-!
# What a place holds over a run of calls

The registry of a place is looked at, extended and replaced, one call after the other, and some of
the extensions fail. The calls together with what they returned tell which registry the place holds:
a replacement starts anew, an extension that succeeded adds its batch, and nothing else counts. What
a call returned is never changed by a later one.

* `Published.perform`, `Published.after`, `Published.record`: one call, and a run of calls.
* `Published.extend_cases`: what an extension returns and leaves.
* `Published.current_after`: the current registry, by the record of the calls.
* `Published.current_of_perform`, `Published.perform_error`: what a call returns is current after
  it, and an error changes nothing.
* `Published.getElem?_record`: what a call returned depends on nothing that came later.
* `Published.record_tells`: all of it, over every run of calls.
-/

namespace Switchboard

variable {σ : Type}

namespace Published

/-- A call at a place. -/
inductive Call (σ : Type) where
  /-- Looks at the current registry. -/
  | load
  /-- Extends the current registry by a batch. -/
  | extend (batch : List (Handler σ))
  /-- Puts a registry in the place of the current one. -/
  | replace (registry : Registry σ Id)

/-- The registry that takes the place of the current one, if the call brings any. -/
def Call.replacement? : Call σ → Option (Registry σ Id)
  | .replace registry => some registry
  | _ => none

/-- What a call returns. -/
abbrev Answer (σ : Type) : Type := Except DerivationError (Registry σ Id)

/-- What a call returns, and the place that it leaves. -/
def perform (p : Published σ Id) : Call σ → Answer σ × Published σ Id
  | .load => (.ok p.current, p)
  | .extend batch => p.extend batch
  | .replace registry => (.ok registry, p.replace registry)

/-- The place that calls leave, one after the other. -/
def after (p : Published σ Id) (calls : List (Call σ)) : Published σ Id :=
  calls.foldl (fun p call => (p.perform call).2) p

/-- The calls, one after the other, and what each of them returned. -/
def record (p : Published σ Id) : List (Call σ) → List (Call σ × Answer σ)
  | [] => []
  | call :: calls => (call, (p.perform call).1) :: (p.perform call).2.record calls

/-- The registry that the last replacement brought, or the one that was there at the start. -/
def base (p : Published σ Id) (calls : List (Call σ)) : Registry σ Id :=
  (calls.filterMap Call.replacement?).getLast?.getD p.current

/-- The batch that a call put on top of a registry, if it did. -/
def added? : Call σ × Answer σ → Option (List (Handler σ))
  | (.extend batch, .ok _) => some batch
  | _ => none

/-- The batches, since the last replacement, that an extension put in with success. -/
def added (p : Published σ Id) (calls : List (Call σ)) : List (List (Handler σ)) :=
  ((p.record calls).rtakeWhile (·.1.replacement?.isNone)).filterMap added?

/-! ## One call -/

/-- An extension either succeeds, and the place holds what it returned, or leaves the place alone.
-/
theorem extend_cases (p : Published σ Id) (batch : List (Handler σ)) :
    (∃ r, (p.current.extend batch).run = .ok r ∧ p.extend batch = (.ok r, ⟨r⟩)) ∨
      ∃ e, (p.current.extend batch).run = .error e ∧ p.extend batch = (.error e, p) := by
  cases h : (p.current.extend batch).run with
  | ok r =>
    refine .inl ⟨r, rfl, ?_⟩
    obtain ⟨hr, hc⟩ := current_extend h
    exact Prod.ext hr (congrArg Published.mk hc)
  | error e => exact .inr ⟨e, rfl, extend_error h⟩

/-- What a call returns is current after it. -/
theorem current_of_perform {p : Published σ Id} {call : Call σ} {r : Registry σ Id}
    (h : (p.perform call).1 = .ok r) : (p.perform call).2.current = r := by
  cases call with
  | load => exact Except.ok.inj h
  | replace registry => exact Except.ok.inj h
  | extend batch =>
    rcases p.extend_cases batch with ⟨s, -, hs⟩ | ⟨e, -, he⟩
    · rw [perform, hs] at h ⊢
      exact Except.ok.inj h
    · rw [perform, he] at h
      cases h

/-- A call that ends in an error changes nothing. -/
theorem perform_error {p : Published σ Id} {call : Call σ} {e : DerivationError}
    (h : (p.perform call).1 = .error e) : (p.perform call).2 = p := by
  cases call with
  | load => rfl
  | replace registry => cases h
  | extend batch =>
    rcases p.extend_cases batch with ⟨s, -, hs⟩ | ⟨d, -, hd⟩
    · rw [perform, hs] at h
      cases h
    · rw [perform, hd]

/-! ## Runs of calls -/

@[simp] theorem after_append (p : Published σ Id) (calls more : List (Call σ)) :
    p.after (calls ++ more) = (p.after calls).after more :=
  List.foldl_append

@[simp] theorem after_concat (p : Published σ Id) (calls : List (Call σ)) (call : Call σ) :
    p.after (calls ++ [call]) = ((p.after calls).perform call).2 :=
  p.after_append calls [call]

@[simp] theorem record_append (p : Published σ Id) (calls more : List (Call σ)) :
    p.record (calls ++ more) = p.record calls ++ (p.after calls).record more := by
  induction calls generalizing p with
  | nil => rfl
  | cons call calls ih => exact congrArg (_ :: ·) (ih _)

@[simp] theorem length_record (p : Published σ Id) (calls : List (Call σ)) :
    (p.record calls).length = calls.length := by
  induction calls generalizing p with
  | nil => rfl
  | cons call calls ih => exact congrArg (· + 1) (ih _)

/-- What is recorded of a call depends on what came before it, and on nothing that came after. -/
@[simp] theorem getElem?_record (p : Published σ Id) (before : List (Call σ)) (call : Call σ)
    (later : List (Call σ)) :
    (p.record (before ++ call :: later))[before.length]? =
      some (call, ((p.after before).perform call).1) := by
  rw [record_append, ← length_record p before, List.getElem?_append_right le_rfl, Nat.sub_self]
  rfl

@[simp] theorem base_concat (p : Published σ Id) (calls : List (Call σ)) (call : Call σ) :
    p.base (calls ++ [call]) = call.replacement?.getD (p.base calls) := by
  cases h : call.replacement? <;> simp [base, List.filterMap_append, h]

@[simp] theorem added_concat (p : Published σ Id) (calls : List (Call σ)) (call : Call σ) :
    p.added (calls ++ [call]) =
      if call.replacement?.isNone then
        p.added calls ++ (added? (call, ((p.after calls).perform call).1)).toList
      else [] := by
  rw [added, record_append, record, record, List.rtakeWhile_concat]
  split
  · rw [List.filterMap_append]
    rfl
  · rfl

/-- The current registry is the one of the last replacement, extended by the batches that were put
in since. -/
theorem current_after (p : Published σ Id) (calls : List (Call σ)) :
    ((p.added calls).foldlM Registry.extend (p.base calls)).run = .ok (p.after calls).current := by
  induction calls using List.reverseRecOn with
  | nil => rfl
  | append_singleton calls call ih =>
    rw [after_concat, base_concat, added_concat]
    cases call with
    | load => simpa [Call.replacement?, added?, perform] using ih
    | replace registry => rfl
    | extend batch =>
      rcases (p.after calls).extend_cases batch with ⟨r, hr, hx⟩ | ⟨e, -, hx⟩
      · simp only [perform, hx, Call.replacement?, added?, Option.isNone_none, if_true,
          Option.toList_some, Option.getD_none, List.foldlM_append]
        exact run_bind_eq_ok_iff.2 ⟨_, ih, run_bind_eq_ok_iff.2 ⟨r, hr, rfl⟩⟩
      · simpa [perform, hx, Call.replacement?, added?] using ih

/-- However calls go, the current registry is the one of the last replacement, or else the first
one, extended by exactly the batches since then whose extension succeeded. What a call returned
stands to the end, whatever comes later: the registry that was current right after the call, or an
error, which left the place as it was. -/
theorem record_tells (p : Published σ Id) (calls : List (Call σ)) :
    ((p.added calls).foldlM Registry.extend (p.base calls)).run = .ok (p.after calls).current ∧
    ∀ before call later, calls = before ++ call :: later →
      ∃ answer, (p.record calls)[before.length]? = some (call, answer) ∧
        (p.after before).perform call = (answer, p.after (before ++ [call])) ∧
        (∀ r, answer = .ok r → (p.after (before ++ [call])).current = r) ∧
        ∀ e, answer = .error e → p.after (before ++ [call]) = p.after before := by
  refine ⟨p.current_after calls, ?_⟩
  rintro before call later rfl
  refine ⟨_, p.getElem?_record before call later, ?_, fun r hr => ?_, fun e he => ?_⟩
  · rw [after_concat]
  · rw [after_concat]
    exact current_of_perform hr
  · rw [after_concat]
    exact perform_error he

/-- A handler of something else than data. -/
def audit : Handler Unit := ⟨"audit", none, fun _ => return .empty⟩

/-- Returns refer to a data source that is nowhere. -/
def returns : Handler Unit :=
  .ofDataSource ⟨"returns", [⟨"place", some "nowhere.id", none⟩], []⟩ none

/-- A place that holds no handlers yet. -/
def counter : Published Unit Id := ⟨.empty .standard⟩

/-- A shop opens; an extension fails behind a handler that is in order; the place is cleared, and
one more extension fails, and one succeeds. -/
def season : List (Call Unit) :=
  [.extend [.ofDataSource (.new "stock") none], .extend [audit, returns], .load,
    .replace (.empty .standard), .extend [returns], .extend [audit]]

theorem season_record_tells :
    ([[audit]].foldlM Registry.extend counter.current).run =
        .ok (counter.after season).current ∧
      counter.after (season.take 2) = counter.after (season.take 1) ∧
      ∃ r, (counter.record season)[2]? = some (.load, .ok r) ∧
        (counter.after (season.take 3)).current = r := by
  obtain ⟨current, calls⟩ := counter.record_tells season
  obtain ⟨_, failed, -, -, unchanged⟩ := calls (season.take 1) (.extend [audit, returns]) _ rfl
  obtain ⟨_, looked, -, holds, -⟩ := calls (season.take 2) .load _ rfl
  refine ⟨current, ?_, ?_⟩
  · cases failed
    exact unchanged _ rfl
  · have seen : (counter.record season)[2]? =
        some (.load, .ok (counter.after (season.take 2)).current) := rfl
    cases looked.symm.trans seen
    exact ⟨_, seen, holds _ rfl⟩

end Published

end Switchboard
