import Switchboard.Catalog.Basic
import Switchboard.Proofs.Latest

/-!
# Sections under layers

A section of a catalog is a list of entries with ids. An entry on top takes the place of one that is
there, so that of the entries of an id that come one after the other the last one is found. However
often an id occurs in the layers, in a section of the merged catalog it occurs once.

* `find?_overlay`, `nodup_overlay`: a section with one entry on top.
* `find?_foldl_overlay`, `nodup_foldl_overlay`: a section with many.
* `Catalog.dataSources_ofLayers`, `Catalog.handlers_ofLayers`: a section of merged layers is made of
  the entries that the layers have in it, one after the other.
* `Catalog.lastBy_dataSources_ofLayers`, `Catalog.lastBy_handlers_ofLayers`: the entry of an id is
  the last one that any layer has.
-/

namespace Switchboard

variable {α : Type} {id : α → String}

/-! ## One entry on top -/

@[simp] theorem find?_overlay (e : α) (xs : List α) (k : String) :
    (overlay id e xs).find? (id · = k) = if id e = k then some e else xs.find? (id · = k) := by
  induction xs with
  | nil => simp [overlay, List.find?_singleton]
  | cons x xs ih =>
    unfold overlay
    by_cases hx : id x = id e
    · by_cases hk : id e = k <;> simp [hx, hk]
    · by_cases hk : id e = k
      · have hxk : id x ≠ k := fun h => hx (h.trans hk.symm)
        simp [hk, hxk, ih]
      · simp [hx, hk, ih, List.find?_cons]

/-- The ids stay as they are, or a new one goes to the end. -/
@[simp] theorem map_id_overlay (e : α) (xs : List α) :
    (overlay id e xs).map id =
      if id e ∈ xs.map id then xs.map id else xs.map id ++ [id e] := by
  induction xs with
  | nil => simp [overlay]
  | cons x xs ih =>
    unfold overlay
    by_cases hx : id x = id e
    · simp [hx]
    · have hx' : ¬ id e = id x := fun h => hx h.symm
      by_cases hm : id e ∈ xs.map id <;> simp_all

theorem nodup_overlay {xs : List α} (h : (xs.map id).Nodup) (e : α) :
    ((overlay id e xs).map id).Nodup := by
  rw [map_id_overlay]
  split
  · exact h
  · next hm =>
    refine List.nodup_append.2 ⟨h, List.pairwise_singleton _ _, fun a ha b hb hab => ?_⟩
    rw [hab, List.mem_singleton.1 hb] at ha
    exact hm ha

/-! ## Many entries on top -/

theorem find?_foldl_overlay (base top : List α) (k : String) :
    (top.foldl (fun es e => overlay id e es) base).find? (id · = k) =
      (lastBy id k top).or (base.find? (id · = k)) := by
  induction top generalizing base with
  | nil => rfl
  | cons e top ih =>
    rw [List.foldl_cons, ih, find?_overlay, lastBy_cons, Option.or_assoc]
    split <;> rfl

theorem nodup_foldl_overlay {base : List α} (h : (base.map id).Nodup) (top : List α) :
    ((top.foldl (fun es e => overlay id e es) base).map id).Nodup := by
  induction top generalizing base with
  | nil => exact h
  | cons e top ih => exact ih (nodup_overlay h e)

@[simp] theorem lastBy_foldl_overlay (top : List α) (k : String) :
    lastBy id k (top.foldl (fun es e => overlay id e es) []) = lastBy id k top := by
  have hn : (([] : List α).map id).Nodup := List.nodup_nil
  rw [lastBy_eq_find? (nodup_foldl_overlay hn top), find?_foldl_overlay, List.find?_nil,
    Option.or_none]

/-! ## Sections of merged layers -/

namespace Catalog

theorem dataSources_ofLayers (layers : List Catalog) :
    (ofLayers layers).dataSources =
      (layers.flatMap (·.dataSources)).foldl (fun es e => overlay (·.id) e es) [] := by
  rw [List.foldl_flatMap]
  exact (List.foldl_hom dataSources fun _ _ => rfl).symm

theorem handlers_ofLayers (layers : List Catalog) :
    (ofLayers layers).handlers =
      (layers.flatMap (·.handlers)).foldl (fun es e => overlay (·.id) e es) [] := by
  rw [List.foldl_flatMap]
  exact (List.foldl_hom handlers fun _ _ => rfl).symm

@[simp] theorem lastBy_dataSources_ofLayers (layers : List Catalog) (k : String) :
    lastBy (·.id) k (ofLayers layers).dataSources =
      lastBy (·.id) k (layers.flatMap (·.dataSources)) := by
  rw [dataSources_ofLayers, lastBy_foldl_overlay]

@[simp] theorem lastBy_handlers_ofLayers (layers : List Catalog) (k : String) :
    lastBy (·.id) k (ofLayers layers).handlers =
      lastBy (·.id) k (layers.flatMap (·.handlers)) := by
  rw [handlers_ofLayers, lastBy_foldl_overlay]

end Catalog

end Switchboard
