import HttpsServerSim.DebugChain.DebugChainSteps

/-!
# The order of a debug chain

The names of the handlers in the chain differ, so the comparison puts any two of them in order, and
only one order of the chain is sorted, whichever way it was arranged before. A chain that counts as
sorted is: to take handlers out leaves the others in order, and to add one clears the flag.
-/

namespace HttpsServerSim

namespace DebugChain

/-- What the comparison reads of a handler. -/
def key (memory : HandlerMemory) (handler : Pointer) : Option (ℤ × Option Bytes) :=
  (memory handler).map fun object => (object.priority, object.name)

/-- The order of priority and name. -/
def Precedes (memory : HandlerMemory) (a b : Pointer) : Prop :=
  ∃ priority name otherPriority otherName, key memory a = some (priority, name) ∧
    key memory b = some (otherPriority, otherName) ∧
      (priority < otherPriority ∨ priority = otherPriority ∧
        ∃ first second, name = some first ∧ otherName = some second ∧ strcmp first second = .lt)

/-- These handlers keep their names and priorities. -/
def SameKeys (handlers : List Pointer) (before after : HandlerMemory) : Prop :=
  ∀ handler ∈ handlers, key after handler = key before handler

variable {memory after : HandlerMemory} {handlers : List Pointer} {handler a b c : Pointer}

theorem comesBefore_iff : comesBefore memory a b = true ↔ Precedes memory a b := by
  unfold comesBefore Precedes key
  cases memory a with
  | none => simp
  | some first =>
      cases memory b with
      | none => simp
      | some second =>
          simp only [Option.map_some, Option.some.injEq, Prod.mk.injEq]
          by_cases same : first.priority = second.priority
          · cases firstNamed : first.name with
            | none => simp [same]
            | some firstName =>
                cases secondNamed : second.name with
                | none => simp [same]
                | some secondName => simp [same]
          · simp [same]

theorem named_iff_key :
    Named memory handler ↔ ∃ priority name, key memory handler = some (priority, some name) := by
  simp only [Named, key, Option.map_eq_some_iff, Prod.mk.injEq]
  refine ⟨?_, ?_⟩
  · rintro ⟨object, name, present, named⟩
    exact ⟨object.priority, name, object, present, rfl, named⟩
  · rintro ⟨_, name, object, present, _, named⟩
    exact ⟨object, name, present, named⟩

theorem nameOf_eq_key (memory : HandlerMemory) (handler : Pointer) :
    nameOf memory handler = ((key memory handler).bind Prod.snd).map cString := by
  unfold nameOf key
  cases memory handler <;> rfl

theorem key_update_of_ne {other : Pointer} (different : other ≠ handler)
    (object : Option DebugHandler) :
    key (Function.update memory handler object) other = key memory other := by
  rw [key, key, Function.update_of_ne different]

theorem Precedes.trans (first : Precedes memory a b) (second : Precedes memory b c) :
    Precedes memory a c := by
  rcases first with ⟨p, n, q, m, isA, isB, less⟩
  rcases second with ⟨q', m', r, o, isB', isC, alsoLess⟩
  rw [isB] at isB'
  cases isB'
  refine ⟨p, n, r, o, isA, isC, ?_⟩
  rcases less with less | ⟨same, x, y, named, otherNamed, inOrder⟩
  · rcases alsoLess with alsoLess | ⟨rfl, _⟩
    · exact Or.inl (less.trans alsoLess)
    · exact Or.inl less
  · rcases alsoLess with alsoLess | ⟨alsoSame, y', z, otherNamed', lastNamed, alsoInOrder⟩
    · exact Or.inl (same ▸ alsoLess)
    · rw [otherNamed] at otherNamed'
      cases otherNamed'
      exact Or.inr ⟨same.trans alsoSame, x, z, named, lastNamed, strcmp_trans inOrder alsoInOrder⟩

theorem not_precedes_self : ¬Precedes memory a a := by
  rintro ⟨p, n, q, m, isA, isA', less⟩
  rw [isA] at isA'
  cases isA'
  rcases less with less | ⟨_, x, y, named, alsoNamed, inOrder⟩
  · exact lt_irrefl p less
  · rw [named] at alsoNamed
    cases alsoNamed
    rw [strcmp_self] at inOrder
    cases inOrder

theorem precedes_total (isNamed : Named memory a) (otherNamed : Named memory b)
    (different : nameOf memory a ≠ nameOf memory b) :
    Precedes memory a b ∨ Precedes memory b a := by
  rcases named_iff_key.mp isNamed with ⟨p, name, isA⟩
  rcases named_iff_key.mp otherNamed with ⟨q, other, isB⟩
  rcases lt_trichotomy p q with less | same | greater
  · exact Or.inl ⟨p, _, q, _, isA, isB, Or.inl less⟩
  · rw [nameOf_eq_key, nameOf_eq_key, isA, isB] at different
    have strings : cString name ≠ cString other := by simpa using different
    rcases strcmp_total strings with before | after
    · exact Or.inl ⟨p, _, q, _, isA, isB, Or.inr ⟨same, name, other, rfl, rfl, before⟩⟩
    · exact Or.inr ⟨q, _, p, _, isB, isA, Or.inr ⟨same.symm, other, name, rfl, rfl, after⟩⟩
  · exact Or.inr ⟨q, _, p, _, isB, isA, Or.inl greater⟩

theorem precedes_cotrans (precedes : Precedes memory a c) (isNamed : Named memory b) :
    Precedes memory a b ∨ Precedes memory b c := by
  rcases precedes with ⟨p, n, r, o, isA, isC, less⟩
  rcases named_iff_key.mp isNamed with ⟨q, middle, isB⟩
  rcases lt_trichotomy p q with before | rfl | after
  · exact Or.inl ⟨p, n, q, _, isA, isB, Or.inl before⟩
  · rcases less with less | ⟨same, x, z, named, lastNamed, inOrder⟩
    · exact Or.inr ⟨p, _, r, o, isB, isC, Or.inl less⟩
    · rcases strcmp_cotrans inOrder middle with before | after
      · exact Or.inl ⟨p, n, p, _, isA, isB, Or.inr ⟨rfl, x, middle, named, rfl, before⟩⟩
      · exact Or.inr ⟨p, _, r, o, isB, isC, Or.inr ⟨same, middle, z, rfl, lastNamed, after⟩⟩
  · right
    refine ⟨q, _, r, o, isB, isC, Or.inl ?_⟩
    rcases less with less | ⟨same, _⟩
    · exact after.trans less
    · exact same ▸ after

/-- The comparison is what the sort asks for, whatever the names are. -/
theorem strictWeakOn (readable : handlers.length ≤ 1 ∨ ∀ handler ∈ handlers, Named memory handler) :
    StrictWeakOn (comesBefore memory) handlers := by
  have irrefl : ∀ handler, comesBefore memory handler handler = false := by
    intro handler
    rw [← Bool.not_eq_true, comesBefore_iff]
    exact not_precedes_self
  refine ⟨fun handler _ => irrefl handler, ?_, ?_⟩
  · intro a _ b _ c _ first second
    rw [comesBefore_iff] at first second ⊢
    exact first.trans second
  · intro a isA b isB c isC notFirst notSecond
    rcases readable with short | named
    · rcases handlers with _ | ⟨only, _ | ⟨second, rest⟩⟩
      · cases isA
      · rw [List.mem_singleton.mp isA, List.mem_singleton.mp isC]
        exact irrefl only
      · simp at short
    · rw [← Bool.not_eq_true, comesBefore_iff] at *
      intro precedes
      rcases precedes_cotrans precedes (named b isB) with first | second
      · exact notFirst first
      · exact notSecond second

/-- The comparison puts handlers of different names in order. -/
theorem strictTotalOn (named : AllNamed memory handlers)
    (distinct : (handlers.map (nameOf memory)).Nodup) :
    StrictTotalOn (comesBefore memory) handlers := by
  have weak := strictWeakOn (Or.inr fun handler isIn => (named handler isIn).2)
  refine ⟨weak.irrefl, weak.trans, ?_⟩
  · intro a isA b isB different
    rw [comesBefore_iff, comesBefore_iff]
    apply precedes_total (named a isA).2 (named b isB).2
    intro same
    exact different (List.inj_on_of_nodup_map distinct isA isB same)

/-! ## Handlers that keep their names and priorities -/

theorem Precedes.of_keys (precedes : Precedes memory a b) (isA : key after a = key memory a)
    (isB : key after b = key memory b) : Precedes after a b := by
  unfold Precedes
  rw [isA, isB]
  exact precedes

theorem AllNamed.of_keys (named : AllNamed memory handlers)
    (same : SameKeys handlers memory after) : AllNamed after handlers := by
  intro handler isIn
  rcases named handler isIn with ⟨notNull, isNamed⟩
  refine ⟨notNull, ?_⟩
  rw [named_iff_key, same handler isIn]
  exact named_iff_key.mp isNamed

theorem map_nameOf_of_keys (same : SameKeys handlers memory after) :
    handlers.map (nameOf after) = handlers.map (nameOf memory) := by
  apply List.map_congr_left
  intro handler isIn
  rw [nameOf_eq_key, nameOf_eq_key, same handler isIn]

/-! ## The invariant -/

/-- The names differ, and the flag is right. -/
structure Tidy (memory : HandlerMemory) (chain : DebugChain) : Prop where
  named : AllNamed memory chain.handlers
  distinct : (chain.handlers.map (nameOf memory)).Nodup
  ordered : chain.sorted = true → chain.handlers.Pairwise (Precedes memory)

variable {chain next : DebugChain}

theorem Tidy.nodup (tidy : Tidy memory chain) : chain.handlers.Nodup :=
  tidy.distinct.of_map _

theorem Tidy.of_keys (tidy : Tidy memory chain) (same : SameKeys chain.handlers memory after) :
    Tidy after chain := by
  refine ⟨tidy.named.of_keys same, ?_, ?_⟩
  · rw [map_nameOf_of_keys same]
    exact tidy.distinct
  · intro sorted
    apply (tidy.ordered sorted).imp_of_mem
    intro a b isA isB precedes
    exact precedes.of_keys (same a isA) (same b isB)

theorem Tidy.erase (tidy : Tidy memory chain) (handler : Pointer) :
    Tidy memory { chain with handlers := chain.handlers.erase handler } := by
  refine ⟨?_, ?_, ?_⟩
  · intro other isIn
    exact tidy.named other (List.mem_of_mem_erase isIn)
  · exact tidy.distinct.sublist (List.erase_sublist.map _)
  · intro sorted
    exact (tidy.ordered sorted).sublist List.erase_sublist

theorem Tidy.register (tidy : Tidy memory chain) (notNull : handler ≠ nullptr)
    (isNamed : Named memory handler)
    (fresh : chain.hasHandler memory (.nameOf handler) = some false) :
    Tidy memory ⟨chain.handlers ++ [handler], false⟩ := by
  rcases hasHandler_spec tidy.named isNamed with ⟨found, search, spec⟩
  rw [fresh] at search
  cases search
  refine ⟨?_, ?_, nofun⟩
  · intro other isIn
    rcases List.mem_append.mp isIn with older | new
    · exact tidy.named other older
    · rw [List.mem_singleton.mp new]
      exact ⟨notNull, isNamed⟩
  · rw [List.map_append, List.map_singleton, ← List.concat_eq_append]
    apply tidy.distinct.concat
    intro taken
    rcases List.mem_map.mp taken with ⟨other, isIn, same⟩
    exact Bool.false_ne_true (spec.mpr ⟨other, isIn, same⟩)

theorem sortHandlers_perm {sorting : UnstableSort Pointer}
    (sorted : chain.sortHandlers sorting memory = some next) :
    next.handlers.Perm chain.handlers := by
  unfold DebugChain.sortHandlers at sorted
  split at sorted
  next readable =>
    cases sorted
    exact sorting.perm (strictWeakOn readable)
  next => cases sorted

/-- The chain that a processing goes through: sorted, or as it was. -/
theorem sorted_of_named (named : AllNamed memory chain.handlers)
    (sorting : UnstableSort Pointer) :
    ∃ next, (if chain.sorted then some chain else chain.sortHandlers sorting memory) = some next ∧
      next.handlers.Perm chain.handlers := by
  by_cases already : chain.sorted = true
  · rw [if_pos already]
    exact ⟨chain, rfl, .refl _⟩
  · rw [if_neg already]
    have readable : ∀ handler ∈ chain.handlers, Named memory handler := fun handler isIn =>
      (named handler isIn).2
    have sorted : chain.sortHandlers sorting memory = some _ := if_pos (Or.inr readable)
    exact ⟨_, sorted, sortHandlers_perm sorted⟩

/-- The sort gives the one order that there is. -/
theorem Tidy.sortHandlers (tidy : Tidy memory chain) {sorting : UnstableSort Pointer} :
    ∃ next, chain.sortHandlers sorting memory = some next ∧ Tidy memory next ∧
      next.sorted = true ∧ next.handlers.Perm chain.handlers := by
  have total := strictTotalOn tidy.named tidy.distinct
  have perm := sorting.perm total.weak
  have readable : ∀ handler ∈ chain.handlers, Named memory handler := fun handler isIn =>
    (tidy.named handler isIn).2
  refine ⟨_, if_pos (Or.inr readable), ⟨?_, ?_, ?_⟩, rfl, perm⟩
  · intro handler isIn
    exact tidy.named handler (perm.mem_iff.mp isIn)
  · exact (perm.map _).nodup_iff.mpr tidy.distinct
  · intro _
    exact (sorting.ordered total tidy.nodup).imp comesBefore_iff.mp

end DebugChain

end HttpsServerSim
