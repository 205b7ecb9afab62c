import Switchboard.Proofs.Catalog.Overlay
import Switchboard.Registry.Basic

/-!
# Sections of many layers

What a section holds once layers are merged is known by the entries of all layers, one after the
other: it has every id once, where the id occurs first, with the entry in which it occurs last. No
other list of entries is like that, so how the entries are spread over layers, and which layers are
merged before others, is of no account.

* `distinct_append_congr`: ids in order of their first occurrence, in two parts.
* `IsLayered`: what a section holds, told without merging anything.
* `isLayered_layered`, `IsLayered.unique`: that is what merging gives, and nothing else is.
* `layered_congr`: entries that leave the same.
* `Catalog.ofLayers_characterized`: the same for catalogs, and what follows for the order of
  merging.
-/

namespace Switchboard

/-! ## Ids in order of their first occurrence -/

@[simp] theorem distinct_singleton (k : String) : distinct [k] = [k] := rfl

theorem pairwise_idxOf_distinct (ks : List String) :
    (distinct ks).Pairwise fun a b => ks.idxOf a < ks.idxOf b := by
  induction ks with
  | nil => exact .nil
  | cons k ks ih =>
    have hidx : ∀ {a}, a ∈ (distinct ks).filter (· ≠ k) →
        (k :: ks).idxOf a = ks.idxOf a + 1 := fun {a} ha => by
      have hne : a ≠ k := by simpa using (List.mem_filter.1 ha).2
      rw [List.idxOf_cons, beq_false_of_ne (Ne.symm hne), cond_false]
    refine List.pairwise_cons.2 ⟨fun a ha => ?_, ?_⟩
    · rw [hidx ha, List.idxOf_cons_self]
      exact Nat.succ_pos _
    · refine List.Pairwise.imp_of_mem (fun ha hb hlt => ?_) (ih.filter _)
      rw [hidx ha, hidx hb]
      exact Nat.succ_lt_succ hlt

/-- What occurs in front keeps its place, and only what is new goes behind it. -/
theorem distinct_append (as bs : List String) :
    distinct (as ++ bs) = distinct as ++ (distinct bs).filter (· ∉ as) := by
  induction as with
  | nil =>
    have hall : ((distinct bs).filter fun k => k ∉ ([] : List String)) = distinct bs :=
      List.filter_eq_self.2 fun _ _ => by simp
    rw [hall]
    rfl
  | cons a as ih =>
    rw [List.cons_append, distinct, ih, distinct, List.filter_append, List.filter_filter,
      List.cons_append]
    simp [List.mem_cons, not_or]

theorem distinct_append_congr {as as' bs bs' : List String} (ha : distinct as = distinct as')
    (hb : distinct bs = distinct bs') : distinct (as ++ bs) = distinct (as' ++ bs') := by
  have hmem : ∀ k, k ∈ as ↔ k ∈ as' := fun k => by rw [← mem_distinct, ha, mem_distinct]
  simp only [distinct_append, ha, hb, hmem]

@[simp] theorem distinct_append_self (as : List String) : distinct (as ++ as) = distinct as := by
  rw [distinct_append, List.filter_eq_nil_iff.2, List.append_nil]
  intro k hk
  simpa using mem_distinct.1 hk

@[simp] theorem distinct_distinct (ks : List String) : distinct (distinct ks) = distinct ks :=
  distinct_of_nodup (distinct_nodup ks)

variable {α : Type} {id : α → String}

/-! ## What a section holds -/

/-- A section holds what is left of entries that come one after the other: each of their ids once,
in the order in which the ids occur first, and with each id the entry in which it occurs last. -/
structure IsLayered (id : α → String) (all es : List α) : Prop where
  ids : ∀ k, k ∈ es.map id ↔ k ∈ all.map id
  once : (es.map id).Nodup
  order : (es.map id).Pairwise fun a b => (all.map id).idxOf a < (all.map id).idxOf b
  last : ∀ e ∈ es, lastBy id (id e) all = some e

theorem isLayered_iff {all es : List α} :
    IsLayered id all es ↔
      es.map id = distinct (all.map id) ∧ ∀ e ∈ es, lastBy id (id e) all = some e := by
  constructor
  · rintro ⟨ids, once, order, last⟩
    have hperm : (es.map id).Perm (distinct (all.map id)) :=
      (List.perm_ext_iff_of_nodup once (distinct_nodup _)).2 fun k =>
        (ids k).trans mem_distinct.symm
    exact ⟨hperm.eq_of_pairwise (fun _ _ _ _ hab hba => absurd hab (Nat.lt_asymm hba)) order
      (pairwise_idxOf_distinct _), last⟩
  · rintro ⟨hids, last⟩
    constructor
    · exact fun k => by rw [hids, mem_distinct]
    · exact hids ▸ distinct_nodup _
    · exact hids ▸ pairwise_idxOf_distinct _
    · exact last

theorem IsLayered.unique {all es es' : List α} (h : IsLayered id all es)
    (h' : IsLayered id all es') : es = es' := by
  have hlast : ∀ {xs}, IsLayered id all xs →
      xs.map some = (distinct (all.map id)).map fun k => lastBy id k all := fun {xs} hx => by
    obtain ⟨hids, last⟩ := isLayered_iff.1 hx
    rw [← hids, List.map_map]
    exact List.map_congr_left fun e he => (last e he).symm
  exact List.map_inj_right (fun _ _ he => Option.some.inj he) |>.1 ((hlast h).trans (hlast h').symm)

/-! ## What merging leaves -/

/-- What is left of entries, each put on top of those before it. -/
def layered (id : α → String) (all : List α) : List α :=
  all.foldl (fun es e => overlay id e es) []

theorem map_id_overlay_eq_distinct {es : List α} (h : (es.map id).Nodup) (e : α) :
    (overlay id e es).map id = distinct (es.map id ++ [id e]) := by
  rw [map_id_overlay, distinct_append, distinct_of_nodup h]
  split
  · next he =>
    rw [distinct_singleton, List.filter_cons_of_neg (by simpa using he), List.filter_nil,
      List.append_nil]
  · next he =>
    rw [distinct_singleton, List.filter_cons_of_pos (by simpa using he), List.filter_nil]

theorem map_id_foldl_overlay {base : List α} (h : (base.map id).Nodup) (top : List α) :
    (top.foldl (fun es e => overlay id e es) base).map id =
      distinct (base.map id ++ top.map id) := by
  induction top generalizing base with
  | nil => rw [List.map_nil, List.append_nil, distinct_of_nodup h, List.foldl_nil]
  | cons e top ih =>
    rw [List.foldl_cons, ih (nodup_overlay h e), map_id_overlay_eq_distinct h, List.map_cons,
      List.append_cons _ (id e) (top.map id)]
    exact distinct_append_congr (distinct_distinct _) rfl

@[simp]
theorem map_id_layered (all : List α) : (layered id all).map id = distinct (all.map id) := by
  have hn : (([] : List α).map id).Nodup := List.nodup_nil
  exact map_id_foldl_overlay hn all

@[simp] theorem lastBy_layered (all : List α) (k : String) :
    lastBy id k (layered id all) = lastBy id k all :=
  lastBy_foldl_overlay all k

theorem isLayered_layered (all : List α) : IsLayered id all (layered id all) := by
  refine isLayered_iff.2 ⟨map_id_layered all, fun e he => ?_⟩
  have hn : ((layered id all).map id).Nodup := map_id_layered all ▸ distinct_nodup _
  rw [← lastBy_layered]
  exact (lastBy_eq_some_iff_mem hn).2 ⟨he, rfl⟩

/-- Entries leave the same when their ids come up in the same order and end with the same
entries. -/
theorem layered_congr {all all' : List α} (hids : distinct (all.map id) = distinct (all'.map id))
    (hlast : ∀ k, lastBy id k all = lastBy id k all') : layered id all = layered id all' := by
  have h : IsLayered id all' (layered id all) := by
    have hl : IsLayered id all (layered id all) := isLayered_layered all
    rw [isLayered_iff] at hl ⊢
    simpa only [← hids, ← hlast] using hl
  exact h.unique (isLayered_layered all')

/-- Entries that are layered before others are put around them leave what they leave among them. -/
theorem layered_around_layered (before es after : List α) :
    layered id (before ++ (layered id es ++ after)) = layered id (before ++ (es ++ after)) := by
  refine layered_congr ?_ fun k => ?_
  · simp only [List.map_append, map_id_layered]
    exact distinct_append_congr rfl (distinct_append_congr (distinct_distinct _) rfl)
  · simp only [lastBy_append, lastBy_layered]

theorem layered_around_twice (before es after : List α) :
    layered id (before ++ (es ++ (es ++ after))) = layered id (before ++ (es ++ after)) := by
  refine layered_congr ?_ fun k => ?_
  · simp only [List.map_append]
    refine distinct_append_congr rfl ?_
    rw [← List.append_assoc]
    exact distinct_append_congr (distinct_append_self _) rfl
  · simp only [lastBy_append, Option.or_assoc, Option.or_self]

/-! ## Catalogs -/

namespace Catalog

/-- A catalog holds in each section what is left of the entries that layers have in it. -/
structure IsMerged (layers : List Catalog) (c : Catalog) : Prop where
  dataSources : IsLayered (·.id) (layers.flatMap (·.dataSources)) c.dataSources
  handlers : IsLayered (·.id) (layers.flatMap (·.handlers)) c.handlers

/-- The entries of all layers, those of each layer behind those of the layers before it. -/
def concat (layers : List Catalog) : Catalog where
  dataSources := layers.flatMap (·.dataSources)
  handlers := layers.flatMap (·.handlers)

theorem ofLayers_eq (layers : List Catalog) :
    ofLayers layers = ⟨layered (·.id) (layers.flatMap (·.dataSources)),
      layered (·.id) (layers.flatMap (·.handlers))⟩ :=
  (mk.injEq ..).mpr ⟨dataSources_ofLayers layers, handlers_ofLayers layers⟩

@[simp]
theorem ofLayers_concat (layers : List Catalog) : ofLayers [concat layers] = ofLayers layers := by
  simp only [ofLayers_eq, concat, List.flatMap_cons, List.flatMap_nil, List.append_nil]

theorem ofLayers_around_twice (before : List Catalog) (c : Catalog) (after : List Catalog) :
    ofLayers (before ++ c :: c :: after) = ofLayers (before ++ c :: after) := by
  simp only [ofLayers_eq, List.flatMap_append, List.flatMap_cons, layered_around_twice]

theorem ofLayers_around_ofLayers (before group after : List Catalog) :
    ofLayers (before ++ ofLayers group :: after) = ofLayers (before ++ (group ++ after)) := by
  simp only [ofLayers_eq, List.flatMap_append, List.flatMap_cons, layered_around_layered]

theorem ofLayers_append_map_ofLayers (before : List Catalog) (groups : List (List Catalog)) :
    ofLayers (before ++ groups.map ofLayers) = ofLayers (before ++ groups.flatten) := by
  induction groups generalizing before with
  | nil => rfl
  | cons group groups ih =>
    rw [List.map_cons, ofLayers_around_ofLayers, ← List.append_assoc, ih, List.flatten_cons,
      List.append_assoc]

/-- Merged layers are the one catalog that holds every id of a section once, where it occurs first,
with the entry in which it occurs last. So only the entries of all layers one after the other count;
a layer that is merged twice in a row counts once; and layers may be merged in groups first, at any
place among others and so in groups of groups too. -/
theorem ofLayers_characterized :
    (∀ layers c, c = ofLayers layers ↔ IsMerged layers c) ∧
    (∀ layers, ofLayers [concat layers] = ofLayers layers) ∧
    (∀ before c after, ofLayers (before ++ c :: c :: after) = ofLayers (before ++ c :: after)) ∧
    (∀ before group after,
      ofLayers (before ++ ofLayers group :: after) = ofLayers (before ++ (group ++ after))) ∧
    ∀ groups : List (List Catalog), ofLayers (groups.map ofLayers) = ofLayers groups.flatten := by
  refine ⟨fun layers c => ?_, ofLayers_concat, ofLayers_around_twice, ofLayers_around_ofLayers,
    ofLayers_append_map_ofLayers []⟩
  rw [ofLayers_eq]
  constructor
  · rintro rfl
    exact ⟨isLayered_layered _, isLayered_layered _⟩
  · rintro ⟨hsources, hhandlers⟩
    exact (mk.injEq ..).mpr ⟨hsources.unique (isLayered_layered _),
      hhandlers.unique (isLayered_layered _)⟩

end Catalog

end Switchboard
