import HttpsServerSim.Lib.OrderedMap
import Mathlib.Data.List.Basic

/-!
# Overlaying one ordered map on another

Assigning the entries of one map into another, in order, is a right-biased union.
-/

namespace HttpsServerSim

universe u v

namespace MapOverlay

variable {Key : Type u} {Value : Type v} {cmp : Key → Key → Ordering} [Std.TransCmp cmp]
  [Std.LawfulEqCmp cmp]

/-- The entries of `top` assigned into `base` one after the other. -/
def overlay (base top : Std.ExtTreeMap Key Value cmp) : Std.ExtTreeMap Key Value cmp :=
  top.toList.foldl (fun map entry => map.insert entry.1 entry.2) base

theorem getElem?_overlay (base top : Std.ExtTreeMap Key Value cmp) (key : Key) :
    (overlay base top)[key]? = top[key]?.or base[key]? := by
  classical
  have : Std.LawfulBEqCmp cmp := { compare_eq_iff_beq := by simp }
  rw [overlay, ← Std.ExtTreeMap.insertMany_list_eq_foldl]
  cases found : top[key]? with
  | some value =>
      have present : (key, value) ∈ top.toList :=
        Std.ExtTreeMap.mem_toList_iff_getElem?_eq_some.mpr found
      rw [Std.ExtTreeMap.getElem?_insertMany_list_of_mem Std.ReflCmp.compare_self
        Std.ExtTreeMap.distinct_keys_toList present]
      rfl
  | none =>
      have absent : (top.toList.map Prod.fst).contains key = false := by
        simp only [List.contains_eq_mem, List.mem_map, Prod.exists, decide_eq_false_iff_not]
        rintro ⟨other, value, present, rfl⟩
        rw [Std.ExtTreeMap.mem_toList_iff_getElem?_eq_some.mp present] at found
        cases found
      rw [Std.ExtTreeMap.getElem?_insertMany_list_of_contains_eq_false absent]
      rfl

@[simp]
theorem overlay_empty_left (top : Std.ExtTreeMap Key Value cmp) : overlay ∅ top = top := by
  apply Std.ExtTreeMap.ext_getElem?
  intro key
  simp [getElem?_overlay]

@[simp]
theorem overlay_empty_right (base : Std.ExtTreeMap Key Value cmp) : overlay base ∅ = base := by
  apply Std.ExtTreeMap.ext_getElem?
  intro key
  simp [getElem?_overlay]

theorem overlay_assoc (base middle top : Std.ExtTreeMap Key Value cmp) :
    overlay (overlay base middle) top = overlay base (overlay middle top) := by
  apply Std.ExtTreeMap.ext_getElem?
  intro key
  simp [getElem?_overlay, Option.or_assoc]

theorem overlay_insert (base top : Std.ExtTreeMap Key Value cmp) (key : Key) (value : Value) :
    overlay base (top.insert key value) = (overlay base top).insert key value := by
  apply Std.ExtTreeMap.ext_getElem?
  intro other
  simp only [getElem?_overlay, Std.ExtTreeMap.getElem?_insert]
  split_ifs <;> rfl

/-- Entries stored on top are stored over what lies below. -/
theorem overlay_storeAll (base top : Std.ExtTreeMap Key Value cmp) (entries : List (Key × Value)) :
    overlay base (OrderedMap.storeAll top entries) =
      OrderedMap.storeAll (overlay base top) entries := by
  induction entries generalizing top with
  | nil => rfl
  | cons entry entries ih =>
      change overlay base (OrderedMap.storeAll (top.insert entry.1 entry.2) entries) = _
      rw [ih, overlay_insert]
      rfl

/-- What lies below is hidden exactly if all of its keys are present on top. -/
theorem overlay_eq_right_iff (base top : Std.ExtTreeMap Key Value cmp) :
    overlay base top = top ↔ ∀ key ∈ base, key ∈ top := by
  refine ⟨?_, ?_⟩
  · intro hidden key present
    rw [← hidden, Std.ExtTreeMap.mem_iff_isSome_getElem?, getElem?_overlay, Option.isSome_or,
      Std.ExtTreeMap.mem_iff_isSome_getElem?.mp present, Bool.or_true]
  · intro covered
    apply Std.ExtTreeMap.ext_getElem?
    intro key
    rw [getElem?_overlay]
    cases found : top[key]? with
    | some value => rfl
    | none =>
        have absent : key ∉ base := by
          intro present
          have onTop := Std.ExtTreeMap.mem_iff_isSome_getElem?.mp (covered key present)
          simp [found] at onTop
        rw [Std.ExtTreeMap.getElem?_eq_none absent]
        rfl

end MapOverlay

end HttpsServerSim
