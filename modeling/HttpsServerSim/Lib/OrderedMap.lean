import Mathlib.Data.List.Basic

/-!
# Ordered maps that are filled and searched

A map is filled by storing entries one after the other, so that the last value stored
under a key is kept. It is searched by a test on the keys, and the first key in the order
of the map that passes the test decides.
-/

namespace HttpsServerSim

universe u v

namespace OrderedMap

variable {Key : Type u} {Value : Type v} {cmp : Key → Key → Ordering} [Std.TransCmp cmp]

/-- The entries stored into a map one after the other. -/
def storeAll (map : Std.ExtTreeMap Key Value cmp) (entries : List (Key × Value)) :
    Std.ExtTreeMap Key Value cmp :=
  entries.foldl (fun map entry => map.insert entry.1 entry.2) map

theorem storeAll_append (map : Std.ExtTreeMap Key Value cmp) (before after : List (Key × Value)) :
    storeAll map (before ++ after) = storeAll (storeAll map before) after :=
  List.foldl_append

section Storing

variable [Std.LawfulEqCmp cmp]

theorem mem_storeAll_iff (map : Std.ExtTreeMap Key Value cmp) (entries : List (Key × Value))
    (key : Key) : key ∈ storeAll map entries ↔ key ∈ map ∨ ∃ entry ∈ entries, entry.1 = key := by
  induction entries generalizing map with
  | nil => simp [storeAll]
  | cons entry entries ih =>
      change key ∈ storeAll (map.insert entry.1 entry.2) entries ↔ _
      rw [ih, Std.ExtTreeMap.mem_insert, Std.LawfulEqCmp.compare_eq_iff_eq]
      simp only [List.mem_cons, exists_eq_or_imp]
      tauto

/-- What is found under a key was there before, or was stored. -/
theorem getElem?_storeAll {map : Std.ExtTreeMap Key Value cmp} {entries : List (Key × Value)}
    {key : Key} {value : Value} (found : (storeAll map entries)[key]? = some value) :
    (key, value) ∈ entries ∨ map[key]? = some value := by
  induction entries generalizing map with
  | nil => exact Or.inr found
  | cons entry entries ih =>
      rcases ih found with stored | inserted
      · exact Or.inl (List.mem_cons_of_mem entry stored)
      · classical
        rw [Std.ExtTreeMap.getElem?_insert] at inserted
        split_ifs at inserted with same
        · cases inserted
          rw [Std.LawfulEqCmp.compare_eq_iff_eq] at same
          rw [← same]
          exact Or.inl List.mem_cons_self
        · exact Or.inr inserted

/-- What is stored under other keys does not matter. -/
theorem getElem?_storeAll_of_other {map : Std.ExtTreeMap Key Value cmp}
    {entries : List (Key × Value)} {key : Key} (others : ∀ entry ∈ entries, entry.1 ≠ key) :
    (storeAll map entries)[key]? = map[key]? := by
  induction entries generalizing map with
  | nil => rfl
  | cons entry entries ih =>
      rcases List.forall_mem_cons.mp others with ⟨first, later⟩
      change (storeAll (map.insert entry.1 entry.2) entries)[key]? = _
      rw [ih later, Std.ExtTreeMap.getElem?_insert, if_neg]
      rw [Std.LawfulEqCmp.compare_eq_iff_eq]
      exact first

/-- The last value stored under a key is kept. -/
theorem getElem?_storeAll_of_last {map : Std.ExtTreeMap Key Value cmp}
    {before after : List (Key × Value)} {key : Key} {value : Value}
    (others : ∀ entry ∈ after, entry.1 ≠ key) :
    (storeAll map (before ++ (key, value) :: after))[key]? = some value := by
  rw [storeAll_append]
  change (storeAll ((storeAll map before).insert key value) after)[key]? = _
  rw [getElem?_storeAll_of_other others, Std.ExtTreeMap.getElem?_insert_self]

end Storing

/-! ## Searching by a test on the keys -/

/-- The value of the first key that passes the test. -/
def search (passes : Key → Bool) (map : Std.ExtTreeMap Key Value cmp) : Option Value :=
  (map.toList.find? fun entry => passes entry.1).map Prod.snd

variable [Std.LawfulEqCmp cmp] {passes : Key → Bool} {map : Std.ExtTreeMap Key Value cmp}

theorem search_eq_none_iff : search passes map = none ↔ ∀ key ∈ map, passes key = false := by
  rw [search, Option.map_eq_none_iff, List.find?_eq_none]
  constructor
  · intro none key member
    have entry := Std.ExtTreeMap.mem_toList_iff_getElem?_eq_some.mpr
      (Std.ExtTreeMap.getElem?_eq_some_getElem member)
    exact Bool.eq_false_iff.mpr (none _ entry)
  · rintro none ⟨key, value⟩ member
    have found := Std.ExtTreeMap.mem_toList_iff_getElem?_eq_some.mp member
    have present : key ∈ map := by
      rw [Std.ExtTreeMap.mem_iff_isSome_getElem?, found]
      rfl
    exact Bool.eq_false_iff.mp (none key present)

/-- A value that is found is that of a key that passes the test. -/
theorem exists_of_search {value : Value} (found : search passes map = some value) :
    ∃ key, map[key]? = some value ∧ passes key = true := by
  rcases Option.map_eq_some_iff.mp found with ⟨entry, first, rfl⟩
  refine ⟨entry.1, ?_, ?_⟩
  · exact Std.ExtTreeMap.mem_toList_iff_getElem?_eq_some.mp (List.mem_of_find?_eq_some first)
  · have passed := List.find?_some first
    exact passed

/-- The least key that passes the test decides. -/
theorem search_of_least {key : Key} {value : Value} (stored : map[key]? = some value)
    (passesKey : passes key = true)
    (least : ∀ other ∈ map, passes other = true → other ≠ key → cmp key other = .lt) :
    search passes map = some value := by
  have member := Std.ExtTreeMap.mem_toList_iff_getElem?_eq_some.mpr stored
  cases first : map.toList.find? fun entry => passes entry.1 with
  | none => exact absurd passesKey (List.find?_eq_none.mp first _ member)
  | some entry =>
      rcases List.find?_eq_some_iff_append.mp first with ⟨passesEntry, before, after, split, failed⟩
      have ordered : map.toList.Pairwise fun left right => cmp left.1 right.1 = .lt :=
        Std.ExtTreeMap.ordered_keys_toList
      have entryStored : map[entry.1]? = some entry.2 :=
        Std.ExtTreeMap.mem_toList_iff_getElem?_eq_some.mp (List.mem_of_find?_eq_some first)
      rw [search, first]
      by_cases same : entry.1 = key
      · rw [same, stored] at entryStored
        exact entryStored.symm
      · have entryPresent : entry.1 ∈ map := by
          rw [Std.ExtTreeMap.mem_iff_isSome_getElem?, entryStored]
          rfl
        have less := least entry.1 entryPresent passesEntry same
        -- the entry that was found is the first to pass, so the other one comes after it
        rw [split, List.mem_append, List.mem_cons] at member
        rcases member with early | rfl | late
        · have fails := failed _ early
          rw [passesKey] at fails
          cases fails
        · exact absurd rfl same
        · rw [split, List.pairwise_append, List.pairwise_cons] at ordered
          have greater := ordered.2.1.1 _ late
          rw [Std.OrientedCmp.gt_iff_lt.mpr less] at greater
          cases greater

end OrderedMap

end HttpsServerSim
