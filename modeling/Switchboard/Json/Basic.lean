import Switchboard.Decimal.Literal

/-!
# JSON trees

A tree keeps the members of an object as they are written, in order and with repeated names. Text
can be well formed and still stand for no value: a number beyond the doubles, a string with half a
surrogate pair, a nesting past the limit. Such a part is `unreadable`. A harmless one matters only
where something reads it, any other also where a reader passes over it.

`insert` puts a member into a list sorted by name, in the place of one of the same name, and `find?`
looks one up.

* `find?_insert`: what an insertion changes.
* `insert_sorted`: insertion keeps the order.
-/

namespace Switchboard

open Decimal (Number)

/-- A JSON tree. -/
inductive Json where
  | null
  | bool (value : Bool)
  | number (value : Number)
  | string (value : String)
  | list (items : List Json)
  | object (members : List (String × Json))
  | unreadable (harmless : Bool)

namespace Json

instance : Inhabited Json := ⟨null⟩

/-! ## Equality -/

mutual

/-- Decides whether two trees are the same. -/
def decideEq : (a b : Json) → Decidable (a = b)
  | null, null => isTrue rfl
  | bool a, bool b => decidable_of_iff (a = b) (by simp)
  | number a, number b => decidable_of_iff (a = b) (by simp)
  | string a, string b => decidable_of_iff (a = b) (by simp)
  | list as, list bs => @decidable_of_iff _ (as = bs) (by simp) (decideEqItems as bs)
  | object as, object bs => @decidable_of_iff _ (as = bs) (by simp) (decideEqMembers as bs)
  | unreadable a, unreadable b => decidable_of_iff (a = b) (by simp)
  | null, bool _ | null, number _ | null, string _ | null, list _ | null, object _
  | null, unreadable _ | bool _, null | bool _, number _ | bool _, string _ | bool _, list _
  | bool _, object _ | bool _, unreadable _ | number _, null | number _, bool _
  | number _, string _ | number _, list _ | number _, object _ | number _, unreadable _
  | string _, null | string _, bool _ | string _, number _ | string _, list _
  | string _, object _ | string _, unreadable _ | list _, null | list _, bool _
  | list _, number _ | list _, string _ | list _, object _ | list _, unreadable _
  | object _, null | object _, bool _ | object _, number _ | object _, string _
  | object _, list _ | object _, unreadable _ | unreadable _, null | unreadable _, bool _
  | unreadable _, number _ | unreadable _, string _ | unreadable _, list _
  | unreadable _, object _ => isFalse nofun
termination_by structural a => a

/-- Decides whether two lists of items are the same. -/
def decideEqItems : (as bs : List Json) → Decidable (as = bs)
  | [], [] => isTrue rfl
  | a :: as, b :: bs =>
    @decidable_of_iff _ (a = b ∧ as = bs) (by simp)
      (@instDecidableAnd _ _ (decideEq a b) (decideEqItems as bs))
  | [], _ :: _ | _ :: _, [] => isFalse nofun
termination_by structural as => as

/-- Decides whether two lists of members are the same. -/
def decideEqMembers : (as bs : List (String × Json)) → Decidable (as = bs)
  | [], [] => isTrue rfl
  | (k, a) :: as, (l, b) :: bs =>
    @decidable_of_iff _ ((k = l ∧ a = b) ∧ as = bs) (by simp)
      (@instDecidableAnd _ _ (@instDecidableAnd _ _ _ (decideEq a b)) (decideEqMembers as bs))
  | [], _ :: _ | _ :: _, [] => isFalse nofun
termination_by structural as => as

end

instance : DecidableEq Json := decideEq

/-! ## Passing over -/

mutual

/-- Whether a reader may pass over a tree: nothing in it is unreadable, harmless parts apart. -/
def isHarmless : Json → Bool
  | null | bool _ | number _ | string _ => true
  | list items => areHarmless items
  | object members => membersAreHarmless members
  | unreadable harmless => harmless
termination_by structural j => j

/-- Whether a reader may pass over all items of a list. -/
def areHarmless : List Json → Bool
  | [] => true
  | j :: js => isHarmless j && areHarmless js
termination_by structural js => js

/-- Whether a reader may pass over all members of an object. -/
def membersAreHarmless : List (String × Json) → Bool
  | [] => true
  | (_, j) :: ms => isHarmless j && membersAreHarmless ms
termination_by structural ms => ms

end

/-! ## Members in order of name -/

/-- Puts a member into its place by name; one of the same name gives way. -/
def insert (key : String) (value : Json) : List (String × Json) → List (String × Json)
  | [] => [(key, value)]
  | m :: ms =>
    if key < m.1 then (key, value) :: m :: ms
    else if key = m.1 then (key, value) :: ms
    else m :: insert key value ms

/-- The value of the first member of a name. -/
def find? (key : String) : List (String × Json) → Option Json
  | [] => none
  | m :: ms => if m.1 = key then some m.2 else find? key ms

/-- The members are in strictly increasing order of name. -/
def Sorted (ms : List (String × Json)) : Prop :=
  ms.Pairwise fun a b => a.1 < b.1

theorem mem_insert {key : String} {value : Json} {ms : List (String × Json)} {m : String × Json}
    (h : m ∈ insert key value ms) : m = (key, value) ∨ m ∈ ms := by
  induction ms with
  | nil => simpa [insert] using h
  | cons a ms ih =>
    simp only [insert] at h
    split at h
    · simpa using h
    · split at h
      · rcases List.mem_cons.1 h with h | h
        · exact .inl h
        · exact .inr (List.mem_cons_of_mem _ h)
      · rcases List.mem_cons.1 h with h | h
        · exact .inr (h ▸ List.mem_cons_self)
        · exact (ih h).imp_right (List.mem_cons_of_mem _)

theorem insert_sorted {key : String} {value : Json} {ms : List (String × Json)} (h : Sorted ms) :
    Sorted (insert key value ms) := by
  induction ms with
  | nil => simp [insert, Sorted]
  | cons a ms ih =>
    obtain ⟨ha, hs⟩ := List.pairwise_cons.1 h
    simp only [insert]
    split
    · next hlt =>
      refine List.pairwise_cons.2 ⟨fun m hm => ?_, h⟩
      rcases List.mem_cons.1 hm with rfl | hm
      · exact hlt
      · exact String.lt_trans hlt (ha m hm)
    · next hlt =>
      split
      · next heq =>
        exact List.pairwise_cons.2 ⟨fun m hm => heq ▸ ha m hm, hs⟩
      · next hne =>
        refine List.pairwise_cons.2 ⟨fun m hm => ?_, ih hs⟩
        rcases mem_insert hm with rfl | hm
        · exact String.not_le.1 fun hle => hne (String.le_antisymm hle (String.not_lt.1 hlt))
        · exact ha m hm

theorem find?_insert (key : String) (value : Json) (ms : List (String × Json)) (k : String)
    (h : Sorted ms) :
    find? k (insert key value ms) = if key = k then some value else find? k ms := by
  induction ms with
  | nil => simp [insert, find?]
  | cons a ms ih =>
    obtain ⟨ha, hs⟩ := List.pairwise_cons.1 h
    simp only [insert]
    split
    · simp [find?]
    · split
      · next heq => by_cases hk : key = k <;> simp [find?, hk, ← heq]
      · next hne =>
        rw [find?, ih hs, find?]
        by_cases hk : key = k
        · simp [hk, show ¬a.1 = k from fun h => hne (hk.trans h.symm)]
        · simp [hk]

theorem insert_of_lt {key : String} {value : Json} {ms : List (String × Json)}
    (h : ∀ m ∈ ms, key < m.1) : insert key value ms = (key, value) :: ms := by
  cases ms with
  | nil => rfl
  | cons a ms => simp [insert, h a List.mem_cons_self]

end Json

end Switchboard
