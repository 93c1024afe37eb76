import RowMapping.Proofs.Registry.Memory

/-!
# Slots and the map that finds them

A request that has got its slot holds on to that very slot and no longer looks at the map. Slots
therefore have an identity apart from their keys: the map from keys to slots and the results in the
slots are separate, and what is never taken back is said of each.
-/

namespace RowMapping.Registry

/-- Which slot of a store. -/
structure SlotId where
  number : Nat
  deriving DecidableEq, Repr

/-- In a directory with a new key, the other keys have what they had. -/
theorem eq_or_find?_of_enter {directory : Catalog fun _ : Key => SlotId} {key other : Key}
    {entered slot : SlotId} (fresh : directory.find? key = none)
    (found : (directory.enter key entered).find? other = some slot) :
    other = key ∧ slot = entered ∨ directory.find? other = some slot := by
  by_cases same : key = other
  · subst same
    rw [Catalog.find?_enter_self, fresh] at found
    exact .inl ⟨rfl, (Option.some.inj found).symm⟩
  · rw [Catalog.find?_enter_of_ne same] at found
    exact .inr found

/-- The map from keys to slots, and the slots. -/
structure SlotStore where
  /-- The slot of every key that has one. -/
  directory : Catalog fun _ : Key => SlotId
  /-- The result in every slot made so far. -/
  contents : List (Option (Except Error StatementSet))
  slot_lt : ∀ {key slot}, directory.find? key = some slot → slot.number < contents.length
  /-- Keys do not share slots. -/
  slot_injective : ∀ {key other slot}, directory.find? key = some slot →
    directory.find? other = some slot → key = other

namespace SlotStore

def empty : SlotStore where
  directory := .empty
  contents := []
  slot_lt found := nomatch found
  slot_injective found := nomatch found

variable (store : SlotStore)

def slot? (key : Key) : Option SlotId := store.directory.find? key

def result? (slot : SlotId) : Option (Except Error StatementSet) :=
  (store.contents[slot.number]?).join

/-- The result in the slot of a key. -/
def resultOf? (key : Key) : Option (Except Error StatementSet) :=
  (store.slot? key).bind store.result?

/-- A new slot for a key that has none. Its number is larger than that of any other. -/
def enter (key : Key) (fresh : store.slot? key = none) : SlotStore where
  directory := store.directory.enter key ⟨store.contents.length⟩
  contents := store.contents ++ [none]
  slot_lt := by
    intro other slot found
    rw [List.length_append, List.length_singleton]
    obtain ⟨-, rfl⟩ | earlier := eq_or_find?_of_enter fresh found
    · exact Nat.lt_succ_self _
    · exact Nat.lt_succ_of_lt (store.slot_lt earlier)
  slot_injective := by
    intro left right slot leftFound rightFound
    obtain ⟨rfl, isNew⟩ | leftEarlier := eq_or_find?_of_enter fresh leftFound <;>
      obtain ⟨rfl, isNewToo⟩ | rightEarlier := eq_or_find?_of_enter fresh rightFound
    · rfl
    · exact absurd (isNew ▸ store.slot_lt rightEarlier) (Nat.lt_irrefl _)
    · exact absurd (isNewToo ▸ store.slot_lt leftEarlier) (Nat.lt_irrefl _)
    · exact store.slot_injective leftEarlier rightEarlier

/-- The slot of a key, which is a new one if it has none. -/
def reserve (key : Key) : SlotId × SlotStore :=
  match found : store.slot? key with
  | some slot => (slot, store)
  | none => (⟨store.contents.length⟩, store.enter key found)

/-- Put a result into a slot. -/
def put (slot : SlotId) (result : Except Error StatementSet) : SlotStore where
  directory := store.directory
  contents := store.contents.set slot.number (some result)
  slot_lt found := by
    rw [List.length_set]
    exact store.slot_lt found
  slot_injective := store.slot_injective

/-- The result in a slot, which is built for the inquiry if the slot is empty. -/
def fill (slot : SlotId) (inquiry : Inquiry) : Except Error StatementSet × SlotStore :=
  match store.result? slot with
  | some result => (result, store)
  | none => (inquiry.build, store.put slot inquiry.build)

end SlotStore

/-! ## What each operation does to a store -/

namespace SlotStore

variable {store : SlotStore} {key other : Key} {slot : SlotId} {inquiry : Inquiry}

theorem mem_keys_iff : key ∈ store.directory.keys ↔ ∃ slot, store.slot? key = some slot := by
  rw [← Catalog.contains_iff, Catalog.contains, Option.isSome_iff_exists, slot?]

theorem reserve_of_slot?_eq_some (found : store.slot? key = some slot) :
    store.reserve key = (slot, store) := by
  unfold reserve
  split
  · rename_i known
    rw [Option.some.inj (known.symm.trans found)]
  · rename_i missing
    cases missing.symm.trans found

theorem reserve_of_slot?_eq_none (fresh : store.slot? key = none) :
    store.reserve key = (⟨store.contents.length⟩, store.enter key fresh) := by
  unfold reserve
  split
  · rename_i known
    cases known.symm.trans fresh
  · rfl

theorem slot?_reserve_self (store : SlotStore) (key : Key) :
    (store.reserve key).2.slot? key = some (store.reserve key).1 := by
  cases found : store.slot? key with
  | some slot => rw [reserve_of_slot?_eq_some found, found]
  | none =>
      rw [reserve_of_slot?_eq_none found]
      exact (Catalog.find?_enter_self _ _ _).trans (congrArg (some ∘ (Option.getD · _)) found)

theorem slot?_reserve_of_ne (different : key ≠ other) :
    (store.reserve key).2.slot? other = store.slot? other := by
  cases found : store.slot? key with
  | some slot => rw [reserve_of_slot?_eq_some found]
  | none =>
      rw [reserve_of_slot?_eq_none found]
      exact Catalog.find?_enter_of_ne different

theorem result?_eq_none_of_le (unmade : store.contents.length ≤ slot.number) :
    store.result? slot = none := by
  rw [result?, List.getElem?_eq_none unmade, Option.join_none]

theorem result?_reserve (store : SlotStore) (key : Key) (slot : SlotId) :
    (store.reserve key).2.result? slot = store.result? slot := by
  cases found : store.slot? key with
  | some known => rw [reserve_of_slot?_eq_some found]
  | none =>
      rw [reserve_of_slot?_eq_none found]
      change ((store.contents ++ [none])[slot.number]?).join = _
      rcases Nat.lt_or_ge slot.number store.contents.length with made | unmade
      · rw [List.getElem?_append_left made, result?]
      · rw [List.getElem?_append_right unmade, result?_eq_none_of_le unmade]
        cases slot.number - store.contents.length <;> rfl

theorem keys_reserve (store : SlotStore) (key : Key) :
    (store.reserve key).2.directory.keys =
      if key ∈ store.directory.keys then store.directory.keys
      else store.directory.keys ++ [key] := by
  rw [← Catalog.keys_enter store.directory key ⟨store.contents.length⟩]
  cases found : store.slot? key with
  | some slot => rw [reserve_of_slot?_eq_some found, Catalog.enter_of_find?_eq_some found]
  | none => rw [reserve_of_slot?_eq_none found, enter]

theorem fill_of_result?_eq_some {result : Except Error StatementSet}
    (filled : store.result? slot = some result) : store.fill slot inquiry = (result, store) := by
  rw [fill, filled]

theorem fill_of_result?_eq_none (vacant : store.result? slot = none) :
    store.fill slot inquiry = (inquiry.build, store.put slot inquiry.build) := by
  rw [fill, vacant]

theorem result?_put_self (made : slot.number < store.contents.length)
    (result : Except Error StatementSet) : (store.put slot result).result? slot = some result := by
  change ((store.contents.set slot.number (some result))[slot.number]?).join = some result
  rw [List.getElem?_set_self made, Option.join_some]

theorem result?_put_of_ne {held : SlotId} (different : held ≠ slot)
    (result : Except Error StatementSet) :
    (store.put held result).result? slot = store.result? slot := by
  have numbers : held.number ≠ slot.number := fun same => different (congrArg SlotId.mk same)
  exact congrArg Option.join (List.getElem?_set_ne numbers)

theorem directory_fill (store : SlotStore) (slot : SlotId) (inquiry : Inquiry) :
    (store.fill slot inquiry).2.directory = store.directory := by
  cases filled : store.result? slot with
  | some result => rw [fill_of_result?_eq_some filled]
  | none => rw [fill_of_result?_eq_none filled, put]

theorem fill_fst (store : SlotStore) (slot : SlotId) (inquiry : Inquiry) :
    (store.fill slot inquiry).1 = (store.result? slot).getD inquiry.build := by
  cases filled : store.result? slot with
  | some result => rw [fill_of_result?_eq_some filled, Option.getD_some]
  | none => rw [fill_of_result?_eq_none filled, Option.getD_none]

theorem result?_fill_self (made : slot.number < store.contents.length) :
    (store.fill slot inquiry).2.result? slot = some (store.fill slot inquiry).1 := by
  cases filled : store.result? slot with
  | some result => rw [fill_of_result?_eq_some filled, filled]
  | none => rw [fill_of_result?_eq_none filled, result?_put_self made]

theorem result?_fill_of_ne {held : SlotId} (different : held ≠ slot) :
    (store.fill held inquiry).2.result? slot = store.result? slot := by
  cases filled : store.result? held with
  | some result => rw [fill_of_result?_eq_some filled]
  | none => rw [fill_of_result?_eq_none filled, result?_put_of_ne different]

/-! ## The results of keys -/

theorem resultOf?_eq (held : store.slot? key = some slot) :
    store.resultOf? key = store.result? slot := by
  rw [resultOf?, held, Option.bind_some]

theorem resultOf?_reserve (store : SlotStore) (key other : Key) :
    (store.reserve key).2.resultOf? other = store.resultOf? other := by
  by_cases same : key = other
  · subst same
    cases found : store.slot? key with
    | some slot => rw [reserve_of_slot?_eq_some found]
    | none =>
        rw [resultOf?_eq (store.slot?_reserve_self key), result?_reserve,
          reserve_of_slot?_eq_none found, result?_eq_none_of_le (Nat.le_refl _), resultOf?, found,
          Option.bind_none]
  · rw [resultOf?, resultOf?, slot?_reserve_of_ne same]
    exact congrArg (Option.bind _) (funext (store.result?_reserve key))

theorem resultOf?_fill_self (held : store.slot? key = some slot) :
    (store.fill slot inquiry).2.resultOf? key = some (store.fill slot inquiry).1 := by
  have stays : (store.fill slot inquiry).2.slot? key = some slot := by
    rw [slot?, directory_fill, ← slot?, held]
  rw [resultOf?_eq stays, result?_fill_self (store.slot_lt held)]

theorem resultOf?_fill_of_ne (held : store.slot? key = some slot) (different : key ≠ other) :
    (store.fill slot inquiry).2.resultOf? other = store.resultOf? other := by
  rw [resultOf?, resultOf?, slot?, directory_fill, ← slot?]
  refine Option.bind_congr fun otherSlot found => result?_fill_of_ne ?_
  rintro rfl
  exact different (store.slot_injective held found)

/-! ## What is never taken back -/

/-- Keys keep their slots, and slots their results. -/
structure Keeps (before after : SlotStore) : Prop where
  slot_eq : ∀ {key slot}, before.slot? key = some slot → after.slot? key = some slot
  result_eq : ∀ {slot result}, before.result? slot = some result →
    after.result? slot = some result

namespace Keeps

theorem refl (store : SlotStore) : store.Keeps store := ⟨id, id⟩

theorem trans {before middle after : SlotStore} (first : before.Keeps middle)
    (second : middle.Keeps after) : before.Keeps after :=
  ⟨second.slot_eq ∘ first.slot_eq, second.result_eq ∘ first.result_eq⟩

theorem reserve (store : SlotStore) (key : Key) : store.Keeps (store.reserve key).2 where
  slot_eq := by
    intro other slot found
    by_cases same : key = other
    · subst same
      rw [reserve_of_slot?_eq_some found, found]
    · rw [slot?_reserve_of_ne same, found]
  result_eq filled := by rw [result?_reserve, filled]

theorem fill (store : SlotStore) (slot : SlotId) (inquiry : Inquiry) :
    store.Keeps (store.fill slot inquiry).2 where
  slot_eq found := by rw [slot?, directory_fill, ← slot?, found]
  result_eq := by
    intro other result filled
    by_cases same : slot = other
    · subst same
      rw [fill_of_result?_eq_some filled, filled]
    · rw [result?_fill_of_ne same, filled]

end Keeps

/-- The slots hold what some builds, oldest first, have put into them. -/
structure Holds (store : SlotStore) (builds : List Inquiry) : Prop where
  /-- A key has the result of the build for it. -/
  result_eq : ∀ key, store.resultOf? key = (first? builds key).map (·.build)
  /-- There is one build for a key at most. -/
  nodup : (builds.map (·.key)).Nodup

namespace Holds

variable {builds : List Inquiry}

theorem empty : SlotStore.empty.Holds [] where
  result_eq _ := rfl
  nodup := List.nodup_nil

theorem reserve (holds : store.Holds builds) (key : Key) :
    (store.reserve key).2.Holds builds where
  result_eq other := (store.resultOf?_reserve key other).trans (holds.result_eq other)
  nodup := holds.nodup

/-- An inquiry that finds its slot empty is built, and it is the first for its key. -/
theorem fill (holds : store.Holds builds) (held : store.slot? inquiry.key = some slot) :
    (store.fill slot inquiry).2.Holds
      (builds ++ if store.result? slot = none then [inquiry] else []) := by
  have result_eq := holds.result_eq inquiry.key
  rw [resultOf?_eq held] at result_eq
  cases filled : store.result? slot with
  | some result =>
      rw [fill_of_result?_eq_some filled, if_neg (Option.some_ne_none result), List.append_nil]
      exact holds
  | none =>
      have unbuilt : first? builds inquiry.key = none :=
        Option.map_eq_none_iff.mp (result_eq.symm.trans filled)
      rw [if_pos rfl]
      constructor
      · intro key
        rw [first?_append_singleton]
        by_cases same : inquiry.key = key
        · subst same
          rw [resultOf?_fill_self held, fill_fst, filled, unbuilt, if_pos rfl]
          rfl
        · rw [resultOf?_fill_of_ne held same, if_neg same, Option.or_none]
          exact holds.result_eq key
      · rw [List.map_append, List.map_singleton]
        refine nodup_append_singleton holds.nodup fun member => ?_
        obtain ⟨earlier, listed, isKey⟩ := List.mem_map.mp member
        exact first?_eq_none_iff.mp unbuilt earlier listed isKey

end Holds

end SlotStore

end RowMapping.Registry
