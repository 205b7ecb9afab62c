import Switchboard.CommandLine.Echo
import Switchboard.Proofs.Catalog.Outcomes
import Switchboard.Proofs.CommandLine.Reports

/-!
# What commands write

A command that fails has written nothing. Most commands look up all that they need before they write
the first line. The others ask for relations between two lines, but only for those of data sources
that the registry lists, or of one whose foreign keys it has told; and a registry of a catalog knows
either both kinds of relations of an id or none.

* `printed_bind`: a report of two parts, by what the first one comes to.
* `IsSilent`, `Writes`, `IsAllOrNothing`: reports that write nothing, that write certain lines, and
  that write nothing if they fail.
* `writes_forIn`: a loop of which every round writes certain lines.
* `writes_check`, `writes_relations`: what is reported of a registry whose relations are known.
* `isAllOrNothing_command`: every command on such a registry.
* `run_allOrNothing`: every command line; and what `check` counts is what `relations` lists.
-/

namespace Switchboard.CommandLine

variable {σ α β : Type}

/-! ## Reports by what they write -/

/-- A report of two parts ends where the first one fails, or goes on with its result. -/
theorem printed_bind (x : Report σ α) (k : α → Report σ β) (out : String) (s : σ) :
    (∃ e text, x.printed out s = (.error e, text) ∧ (x >>= k).printed out s = (.error e, text)) ∨
      ∃ a text t, x.printed out s = (.ok a, text) ∧
        (x >>= k).printed out s = (k a).printed text t := by
  unfold Report.printed
  rw [ExceptT.run_bind, StateT.run_bind, StateT.run_bind]
  rcases (x.run.run out).run s with ⟨⟨result, text⟩, t⟩
  cases result with
  | error e => exact .inl ⟨e, text, rfl, rfl⟩
  | ok a => exact .inr ⟨a, text, t, rfl, rfl⟩

/-- A report writes nothing. -/
def IsSilent (x : Report σ α) : Prop := ∀ out s, (x.printed out s).2 = out

/-- Lines, each with its end. -/
def textOfLines (lines : List String) : String := String.join (lines.map (· ++ "\n"))

/-- A report succeeds in every state, with the same result, and writes certain lines. -/
def Writes (x : Report σ α) (lines : List String) (a : α) : Prop :=
  ∀ out s, x.printed out s = (.ok a, out ++ textOfLines lines)

/-- A report that fails has written nothing. -/
def IsAllOrNothing (x : Report σ α) : Prop :=
  ∀ out s e text, x.printed out s = (.error e, text) → text = out

/-! ## Silent reports -/

theorem isSilent_pure (a : α) : IsSilent (pure a : Report σ α) := fun _ _ => rfl

theorem isSilent_throw (e : Error) : IsSilent (throw e : Report σ α) := fun _ _ => rfl

theorem isSilent_orFail {ε : Type} (f : ε → Error) (x : Except ε α) :
    IsSilent (orFail f x : Report σ α) := by
  cases x with
  | error e => exact isSilent_throw (f e)
  | ok a => exact isSilent_pure a

@[simp]
theorem printed_attempt {ε : Type} (f : ε → Error) (x : Attempt σ ε α) (out : String) (s : σ) :
    (attempt f x).printed out s = ((x.run.run s).1.mapError f, out) := by
  have hwork : (attempt f x).printed out s =
      (orFail f (x.run.run s).1 : Report σ α).printed out (x.run.run s).2 := rfl
  rw [hwork]
  cases (x.run.run s).1 <;> rfl

theorem isSilent_attempt {ε : Type} (f : ε → Error) (x : Attempt σ ε α) :
    IsSilent (attempt f x) := fun out s => by rw [printed_attempt]

theorem IsSilent.bind {x : Report σ α} {k : α → Report σ β} (hx : IsSilent x)
    (hk : ∀ a, IsSilent (k a)) : IsSilent (x >>= k) := by
  intro out s
  have hout := hx out s
  rcases printed_bind x k out s with ⟨e, text, he, h⟩ | ⟨a, text, t, ha, h⟩
  · rw [h, ← hout, he]
  · rw [h, hk a text t, ← hout, ha]

theorem isSilent_mapM {f : α → Report σ β} (h : ∀ x, IsSilent (f x)) (xs : List α) :
    IsSilent (xs.mapM f) := by
  induction xs with
  | nil => exact isSilent_pure []
  | cons x xs ih =>
    rw [List.mapM_cons]
    exact (h x).bind fun y => ih.bind fun ys => isSilent_pure (y :: ys)

/-! ## Reports that write lines -/

theorem writes_pure (a : α) : Writes (pure a : Report σ α) [] a := fun out _ => by
  rw [textOfLines, List.map_nil, String.join_nil, String.append_empty]
  rfl

theorem writes_writeLine (line : String) : Writes (writeLine line : Report σ Unit) [line] () := by
  intro out s
  rw [textOfLines, List.map_singleton, String.join_cons, String.join_nil, String.append_empty,
    ← String.append_assoc]
  rfl

theorem Writes.bind {x : Report σ α} {k : α → Report σ β} {lines lines' : List String} {a : α}
    {b : β} (hx : Writes x lines a) (hk : Writes (k a) lines' b) :
    Writes (x >>= k) (lines ++ lines') b := by
  intro out s
  rcases printed_bind x k out s with ⟨e, text, he, -⟩ | ⟨a', text, t, ha, h⟩
  · rw [hx out s] at he
    cases he
  · rw [hx out s] at ha
    cases ha
    rw [h, hk, textOfLines, textOfLines, textOfLines, List.map_append, String.join_append,
      String.append_assoc]

/-- A loop of which every round writes certain lines writes them one after the other. -/
theorem writes_forIn {xs : List α} {f : α → PUnit → Report σ (ForInStep PUnit)}
    {lines : α → List String} (h : ∀ x ∈ xs, Writes (f x ⟨⟩) (lines x) (.yield ⟨⟩)) :
    Writes (forIn xs PUnit.unit f) (xs.flatMap lines) ⟨⟩ := by
  induction xs with
  | nil => exact writes_pure _
  | cons x xs ih =>
    rw [List.forIn_cons, List.flatMap_cons]
    exact (h x List.mem_cons_self).bind (ih fun y hy => h y (List.mem_cons_of_mem x hy))

theorem writes_lines (xs : List α) (line : α → String) :
    Writes (σ := σ) (forIn xs PUnit.unit fun x _ => do
      writeLine (line x)
      pure (ForInStep.yield PUnit.unit)) (xs.map line) ⟨⟩ := by
  rw [List.map_eq_flatMap]
  exact writes_forIn fun x _ => (writes_writeLine (line x)).bind (writes_pure _)

/-! ## All or nothing -/

theorem IsSilent.isAllOrNothing {x : Report σ α} (h : IsSilent x) : IsAllOrNothing x :=
  fun out s e text he => by rw [← h out s, he]

theorem Writes.isAllOrNothing {x : Report σ α} {lines : List String} {a : α}
    (h : Writes x lines a) : IsAllOrNothing x := fun out s e text he => by
  rw [h out s] at he
  cases he

/-- What comes behind a silent part need only be looked at for the results that it has. -/
theorem IsSilent.bind_isAllOrNothing {x : Report σ α} {k : α → Report σ β} (hx : IsSilent x)
    (hk : ∀ out s a text, x.printed out s = (.ok a, text) → IsAllOrNothing (k a)) :
    IsAllOrNothing (x >>= k) := by
  intro out s e text he
  have hout := hx out s
  rcases printed_bind x k out s with ⟨e', text', hx', h⟩ | ⟨a, text', t, ha, h⟩
  · rw [h] at he
    cases he
    rw [← hout, hx']
  · rw [h] at he
    rw [hk out s a text' ha text' t e text he, ← hout, ha]

/-! ## Commands -/

/-- The first line of what `check` writes. -/
def headLine (r : Registry σ Id) : String :=
  s!"ok: {r.size} handlers, {r.dataSources.length} data sources"

/-- The line of a data source in what `check` writes, with numbers of foreign keys and imports. -/
def checkLine (d : DataSource) (keys imports : Nat) : String :=
  s!"  {d.id}: {d.fields.length} fields, {keys} foreign keys, " ++
    s!"{imports} imports, {d.bindings.length} bindings"

section

variable {r : Registry σ Id}

theorem writes_check {keys : DataSource → List ForeignKey} {imports : DataSource → List ImportFrom}
    (hk : ∀ d ∈ r.dataSources, r.foreignKeysOf d.id = .ok (keys d))
    (hi : ∀ d ∈ r.dataSources, r.importsOf d.id = .ok (imports d)) :
    Writes (check r) (headLine r ::
      r.dataSources.map fun d => checkLine d (keys d).length (imports d).length) () := by
  rw [List.map_eq_flatMap, ← List.append_nil (List.flatMap _ _)]
  refine (writes_writeLine (headLine r)).bind ((writes_forIn fun d hd => ?_).bind (writes_pure _))
  rw [hk d hd, hi d hd]
  exact (writes_pure _).bind ((writes_pure _).bind ((writes_writeLine _).bind (writes_pure _)))

theorem writes_relations {id : String} {keys : List ForeignKey} {imports : List ImportFrom}
    (hk : r.foreignKeysOf id = .ok keys) (hi : r.importsOf id = .ok imports) :
    Writes (relations r id) (keys.map keyLine ++ imports.map importLine) () := by
  unfold relations
  rw [hk, hi, ← List.append_nil (List.map importLine imports)]
  exact (writes_pure keys).bind ((writes_lines keys keyLine).bind
    ((writes_pure imports).bind ((writes_lines imports importLine).bind (writes_pure _))))

/-- Relations are known of all data sources that are listed. -/
theorem exists_relations_of_listed (current : r.IsCurrent) :
    ∃ (keys : DataSource → List ForeignKey) (imports : DataSource → List ImportFrom),
      (∀ d ∈ r.dataSources, r.foreignKeysOf d.id = .ok (keys d)) ∧
      ∀ d ∈ r.dataSources, r.importsOf d.id = .ok (imports d) := by
  have known : ∀ d ∈ r.dataSources, ∃ keys imports,
      r.foreignKeysOf d.id = .ok keys ∧ r.importsOf d.id = .ok imports := by
    intro d hd
    obtain ⟨id, hid⟩ := Registry.mem_dataSources_iff.1 hd
    exact current.exists_relations (current.wellPlaced id d hid ▸ hid)
  choose! keys imports hboth using known
  exact ⟨keys, imports, fun d hd => (hboth d hd).1, fun d hd => (hboth d hd).2⟩

theorem isAllOrNothing_check (current : r.IsCurrent) : IsAllOrNothing (check r) := by
  obtain ⟨keys, imports, hk, hi⟩ := exists_relations_of_listed current
  exact (writes_check hk hi).isAllOrNothing

/-- Either both kinds of relations are told of an id, or the first question for one ends it. -/
theorem isAllOrNothing_relations (current : r.IsCurrent) (id : String) :
    IsAllOrNothing (relations r id) := by
  cases hd : r.dataSource? id with
  | none =>
    unfold relations
    rw [(current.isUnknown hd).foreignKeysOf]
    exact (isSilent_throw _).isAllOrNothing
  | some d =>
    obtain ⟨keys, imports, hk, hi⟩ := current.exists_relations hd
    exact (writes_relations hk hi).isAllOrNothing

theorem isAllOrNothing_templating (id : String) (operation : Operation)
    (operationId : Option String) : IsAllOrNothing (templating r id operation operationId) := by
  refine (isSilent_orFail _ _).bind_isAllOrNothing fun _ _ h _ _ => ?_
  cases h.dataSource with
  | none => exact (isSilent_throw _).isAllOrNothing
  | some d =>
    dsimp only
    cases d.bindingFor? { Request.new id operation with operationId } with
    | none => exact ((writes_writeLine _).bind (writes_writeLine _)).isAllOrNothing
    | some b =>
      exact ((writes_writeLine _).bind ((writes_lines (clauseLines b) fun line => line).bind
        (writes_writeLine _))).isAllOrNothing

theorem isAllOrNothing_invoke (handler : String) (text : Option String) :
    IsAllOrNothing (invoke r handler text) :=
  (isSilent_orFail _ _).bind_isAllOrNothing fun _ _ _ _ _ =>
    (isSilent_orFail _ _).bind_isAllOrNothing fun _ _ _ _ _ =>
      (isSilent_attempt _ _).bind_isAllOrNothing fun _ _ _ _ _ =>
        (writes_writeLine _).isAllOrNothing

/-- On a registry that knows the relations of what it lists, no command that fails has written
anything. -/
theorem isAllOrNothing_command (current : r.IsCurrent) (command : Command) :
    IsAllOrNothing (command.run r) := by
  cases command with
  | check => exact isAllOrNothing_check current
  | relations id => exact isAllOrNothing_relations current id
  | templating id operation operationId => exact isAllOrNothing_templating id operation operationId
  | invoke handler text => exact isAllOrNothing_invoke handler text

end

/-! ## Command lines -/

theorem isSilent_loadCatalogs (files : Files) (paths : List String) :
    IsSilent (loadCatalogs files paths : Report σ Catalog) := by
  unfold loadCatalogs
  split
  · exact isSilent_throw _
  · exact (isSilent_mapM (fun path => isSilent_orFail _ _) paths).bind fun _ => isSilent_pure _

variable (types : List (TypeTable σ)) (files : Files) (args : Arguments)

theorem isSilent_loadRegistry : IsSilent (loadRegistry types files args) :=
  (isSilent_loadCatalogs files args.catalogs).bind fun _ => isSilent_attempt _ _

/-- The registry of a command line is that of a catalog. -/
theorem isCurrent_of_loadRegistry {out text : String} {s : σ} {r : Registry σ Id}
    (h : (loadRegistry types files args).printed out s = (.ok r, text)) : r.IsCurrent := by
  rcases printed_bind (loadCatalogs files args.catalogs) _ out s with
    ⟨e, text', -, he⟩ | ⟨c, text', t, -, hc⟩
  · cases he.symm.trans h
  · have hbuilt := hc.symm.trans h
    rw [printed_attempt] at hbuilt
    generalize (if args.skipServerObjects then c.withoutServerObjects else c) = c' at hbuilt
    rcases hc' : (c'.toRegistry ⟨.ofRegistrations types, none⟩).run.run t with ⟨result, t'⟩
    rw [hc'] at hbuilt
    cases result with
    | error e => cases hbuilt
    | ok r' =>
      cases hbuilt
      exact Catalog.isCurrent_of_toRegistry hc'

/-- What a command writes on the registry of its command line. -/
theorem printed_run_of_writes {out text : String} {s : σ} {r : Registry σ Id} {lines : List String}
    (h : (loadRegistry types files args).printed out s = (.ok r, text))
    (hw : Writes (args.command.run r) lines ()) :
    (run types files args).printed out s = (.ok (), out ++ textOfLines lines) := by
  have hsilent := isSilent_loadRegistry types files args out s
  rcases printed_bind (loadRegistry types files args) (fun r => args.command.run r) out s with
    ⟨e, text', he, -⟩ | ⟨r', text', t, ha, hrun⟩
  · cases h.symm.trans he
  · cases h.symm.trans ha
    rw [h] at hsilent
    rw [run, hrun, hw, ← hsilent]

/-- A command line that fails has written nothing, whatever its catalogs, flags and command are. And
where the registry can be built, `check` succeeds, and of every data source counts as many foreign
keys and imports as `relations` lists. -/
theorem run_allOrNothing (out : String) (s : σ) :
    (∀ e text, (run types files args).printed out s = (.error e, text) → text = out) ∧
    ∀ r text, (loadRegistry types files args).printed out s = (.ok r, text) →
      ∃ (keys : DataSource → List ForeignKey) (imports : DataSource → List ImportFrom),
        (run types files { args with command := .check }).printed out s =
          (.ok (), out ++ textOfLines (headLine r ::
            r.dataSources.map fun d => checkLine d (keys d).length (imports d).length)) ∧
        ∀ d ∈ r.dataSources,
          (run types files { args with command := .relations d.id }).printed out s =
            (.ok (), out ++ textOfLines ((keys d).map keyLine ++ (imports d).map importLine)) := by
  constructor
  · exact (isSilent_loadRegistry types files args).bind_isAllOrNothing
      (fun out s r text h => isAllOrNothing_command (isCurrent_of_loadRegistry types files args h)
        args.command) out s
  · intro r text h
    obtain ⟨keys, imports, hk, hi⟩ :=
      exists_relations_of_listed (isCurrent_of_loadRegistry types files args h)
    refine ⟨keys, imports, ?_, fun d hd => ?_⟩
    · exact printed_run_of_writes types files { args with command := .check } h (writes_check hk hi)
    · exact printed_run_of_writes types files { args with command := .relations d.id } h
        (writes_relations (hk d hd) (hi d hd))

/-- Stays, which refer to beds, in a file of their own. -/
def ward : Files := fun path =>
  if path = "beds.toml" then
    .ok "[[data_source]]\nid = \"beds\"\n[[data_source.field]]\nname = \"id\"\n"
  else if path = "stays.toml" then
    .ok ("[[data_source]]\nid = \"stays\"\n" ++
      "[[data_source.field]]\nname = \"bed\"\nforeign_key = \"beds.id\"\n")
  else .error "No such file or directory (os error 2)"

/-- Stays alone make no registry, and nothing is written. With beds they do, and as many relations
of stays are counted as are listed. -/
theorem ward_run_allOrNothing :
    (run [echoTable] ward ⟨["stays.toml"], false, false, .check⟩).printed "" () =
      (.error (.config (.registry (.unresolvedTarget "stays" "bed" "beds"))), "") ∧
    ∃ (r : Registry Unit Id) (keys : DataSource → List ForeignKey)
      (imports : DataSource → List ImportFrom), ∃ d ∈ r.dataSources, d.id = "stays" ∧
      (run [echoTable] ward ⟨["stays.toml", "beds.toml"], false, false, .check⟩).printed "" () =
        (.ok (), "" ++ textOfLines (headLine r ::
          r.dataSources.map fun d => checkLine d (keys d).length (imports d).length)) ∧
      (run [echoTable] ward ⟨["stays.toml", "beds.toml"], false, false, .relations d.id⟩).printed ""
        () = (.ok (), "" ++ textOfLines ((keys d).map keyLine ++ (imports d).map importLine)) := by
  constructor
  · have hfails :
        ((run [echoTable] ward ⟨["stays.toml"], false, false, .check⟩).printed "" ()).1 =
          .error (.config (.registry (.unresolvedTarget "stays" "bed" "beds"))) := by decide +kernel
    obtain ⟨hnothing, -⟩ := run_allOrNothing [echoTable] ward
      ⟨["stays.toml"], false, false, .check⟩ "" ()
    generalize (run [echoTable] ward ⟨["stays.toml"], false, false, .check⟩).printed "" () = p
      at hfails hnothing ⊢
    obtain ⟨result, text⟩ := p
    obtain rfl := hfails
    rw [hnothing _ text rfl]
  · have hloads : (((loadRegistry [echoTable] ward
        ⟨["stays.toml", "beds.toml"], false, false, .check⟩).printed "" ()).1.toOption.bind
          (·.dataSource? "stays")).map (·.id) = some "stays" := by decide +kernel
    obtain ⟨-, hwrites⟩ := run_allOrNothing [echoTable] ward
      ⟨["stays.toml", "beds.toml"], false, false, .check⟩ "" ()
    generalize (loadRegistry [echoTable] ward
      ⟨["stays.toml", "beds.toml"], false, false, .check⟩).printed "" () = p at hloads hwrites
    obtain ⟨result, text⟩ := p
    cases result with
    | error e => cases hloads
    | ok r =>
      obtain ⟨d, hd, hid⟩ := Option.map_eq_some_iff.1 hloads
      have hlisted := Registry.mem_dataSources_iff.2 ⟨_, hd⟩
      obtain ⟨keys, imports, hcheck, hrelations⟩ := hwrites r text rfl
      exact ⟨r, keys, imports, d, hlisted, hid, hcheck, hrelations d hlisted⟩

end Switchboard.CommandLine
