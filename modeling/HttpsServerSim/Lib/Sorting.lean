import Mathlib.Data.List.Sort

/-!
# Sorting without stability

A sort takes a comparison and a list. Of its result nothing is known unless the comparison is a
strict weak order on the elements of the list; then it is a permutation of the list in which no
element is less than one before it. Elements that are not in order either way may come out in any
order.

If the comparison puts any two elements in order and none occurs twice, each element of the result
is less than those behind it.
-/

namespace HttpsServerSim

universe u

variable {α : Type u}

/-- The comparison is a strict weak order on the elements of the list. -/
structure StrictWeakOn (less : α → α → Bool) (elements : List α) : Prop where
  irrefl : ∀ a ∈ elements, less a a = false
  trans : ∀ a ∈ elements, ∀ b ∈ elements, ∀ c ∈ elements,
    less a b = true → less b c = true → less a c = true
  notLess_trans : ∀ a ∈ elements, ∀ b ∈ elements, ∀ c ∈ elements,
    less a b = false → less b c = false → less a c = false

/-- The comparison puts any two elements of the list in order. -/
structure StrictTotalOn (less : α → α → Bool) (elements : List α) : Prop where
  irrefl : ∀ a ∈ elements, less a a = false
  trans : ∀ a ∈ elements, ∀ b ∈ elements, ∀ c ∈ elements,
    less a b = true → less b c = true → less a c = true
  total : ∀ a ∈ elements, ∀ b ∈ elements, a ≠ b → less a b = true ∨ less b a = true

/-- A sort that need not be stable. -/
structure UnstableSort (α : Type u) where
  sort : (α → α → Bool) → List α → List α
  perm : ∀ {less elements}, StrictWeakOn less elements → (sort less elements).Perm elements
  sorted : ∀ {less elements}, StrictWeakOn less elements →
    (sort less elements).Pairwise fun a b => less b a = false

variable {less : α → α → Bool} {elements : List α}

theorem StrictTotalOn.weak (total : StrictTotalOn less elements) : StrictWeakOn less elements := by
  refine ⟨total.irrefl, total.trans, ?_⟩
  intro a isA b isB c isC notLess alsoNotLess
  rw [← Bool.not_eq_true] at *
  intro isLess
  by_cases same : a = b
  · subst same
    exact alsoNotLess isLess
  · rcases total.total a isA b isB same with before | after
    · exact notLess before
    · exact alsoNotLess (total.trans b isB a isA c isC after isLess)

/-- A total comparison and no element twice: the result is in order. -/
theorem UnstableSort.ordered (sorting : UnstableSort α) (total : StrictTotalOn less elements)
    (nodup : elements.Nodup) :
    (sorting.sort less elements).Pairwise fun a b => less a b = true := by
  have perm := sorting.perm total.weak
  have distinct := perm.nodup_iff.mpr nodup
  have both := (sorting.sorted total.weak).and distinct
  apply both.imp_of_mem
  rintro a b isA isB ⟨notAfter, different⟩
  rcases total.total a (perm.mem_iff.mp isA) b (perm.mem_iff.mp isB) different with before | after
  · exact before
  · rw [notAfter] at after
    cases after

/-! ## A sort by insertion -/

section Insertion

/-- Of two elements of the list, the second is not less than the first. -/
def NotAfter (less : α → α → Bool) (elements : List α) (a b : {a // a ∈ elements}) : Prop :=
  less b.val a.val = false

instance (less : α → α → Bool) (elements : List α) : DecidableRel (NotAfter less elements) :=
  fun a b => inferInstanceAs (Decidable (less b.val a.val = false))

theorem StrictWeakOn.total (weak : StrictWeakOn less elements) :
    Std.Total (NotAfter less elements) := by
  refine ⟨?_⟩
  intro a b
  unfold NotAfter
  by_contra both
  rw [not_or, Bool.not_eq_false, Bool.not_eq_false] at both
  have impossible := weak.trans b.val b.property a.val a.property b.val b.property both.1 both.2
  rw [weak.irrefl b.val b.property] at impossible
  cases impossible

theorem StrictWeakOn.isTrans (weak : StrictWeakOn less elements) :
    IsTrans {a // a ∈ elements} (NotAfter less elements) := by
  refine ⟨?_⟩
  intro a b c first second
  exact weak.notLess_trans c.val c.property b.val b.property a.val a.property second first

/-- Each element is put into its place among those behind it. -/
def insertionSort (α : Type u) : UnstableSort α where
  sort less elements :=
    (elements.attach.insertionSort (NotAfter less elements)).map Subtype.val
  perm := by
    intro less elements weak
    have perm := List.perm_insertionSort (NotAfter less elements) elements.attach
    have mapped := perm.map Subtype.val
    rwa [List.attach_map_subtype_val] at mapped
  sorted := by
    intro less elements weak
    have := weak.total
    have := weak.isTrans
    apply List.pairwise_map.mpr
    exact List.pairwise_insertionSort (NotAfter less elements) elements.attach

end Insertion

end HttpsServerSim
