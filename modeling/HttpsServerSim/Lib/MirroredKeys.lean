import Mathlib.Data.List.AList

/-!
# Keys of a map in a list

A map with a list of its keys beside it. A key that is stored is pushed on the list unless it is
there, one that is erased is erased from the list where it first stands. The list then has every
key of the map once and nothing else.
-/

namespace HttpsServerSim

universe u v

variable {Key : Type u} {Value : Type v} [DecidableEq Key] {keys : List Key} {key other : Key}

def pushNew (key : Key) (keys : List Key) : List Key :=
  if key ∈ keys then keys else keys ++ [key]

theorem mem_pushNew : other ∈ pushNew key keys ↔ other = key ∨ other ∈ keys := by
  unfold pushNew
  split
  next known =>
    refine ⟨Or.inr, ?_⟩
    rintro (rfl | older)
    · exact known
    · exact older
  next => simp [or_comm]

theorem nodup_pushNew (nodup : keys.Nodup) (key : Key) : (pushNew key keys).Nodup := by
  unfold pushNew
  split
  next => exact nodup
  next fresh =>
    rw [← List.concat_eq_append]
    exact nodup.concat fresh

/-- The list has the keys of the map, each once. -/
structure Mirrors (keys : List Key) (table : AList fun _ : Key => Value) : Prop where
  nodup : keys.Nodup
  same : ∀ key, key ∈ table ↔ key ∈ keys

namespace Mirrors

variable {table : AList fun _ : Key => Value}

theorem insert (mirrors : Mirrors keys table) (key : Key) (value : Value) :
    Mirrors (pushNew key keys) (table.insert key value) := by
  refine ⟨nodup_pushNew mirrors.nodup key, ?_⟩
  simp [mem_pushNew, mirrors.same]

theorem erase (mirrors : Mirrors keys table) (key : Key) :
    Mirrors (keys.erase key) (table.erase key) := by
  refine ⟨mirrors.nodup.erase key, ?_⟩
  simp [mirrors.nodup.mem_erase_iff, mirrors.same]

/-- A key that the map has not is erased from neither. -/
theorem erase_of_absent (mirrors : Mirrors keys table) (absent : key ∉ table) :
    keys.erase key = keys ∧ table.erase key = table := by
  refine ⟨List.erase_of_not_mem (by simpa [mirrors.same] using absent), ?_⟩
  apply AList.ext
  exact List.kerase_of_notMem_keys absent

end Mirrors

omit [DecidableEq Key] in
theorem mirrors_empty : Mirrors [] (∅ : AList fun _ : Key => Value) := by
  refine ⟨List.nodup_nil, ?_⟩
  simp

/-! ## The map as a function -/

theorem lookup_insert_eq (table : AList fun _ : Key => Value) (key : Key) (value : Value) :
    (fun seen => (table.insert key value).lookup seen) =
      Function.update (fun seen => table.lookup seen) key (some value) := by
  funext seen
  by_cases same : seen = key
  · subst same
    simp
  · simp [same]

theorem lookup_erase_eq (table : AList fun _ : Key => Value) (key : Key) :
    (fun seen => (table.erase key).lookup seen) =
      Function.update (fun seen => table.lookup seen) key none := by
  funext seen
  by_cases same : seen = key
  · subst same
    simp
  · simp [same]

end HttpsServerSim
