/-!
# Catalogs

An insertion-ordered table from keys to values whose type may depend on the key. The first entry
made for a key stands: entering the key again changes nothing. A catalog never holds a key twice,
so its size is the number of distinct keys entered.
-/

namespace RowMapping

/-- A table with one entry per key, in order of first entry. -/
structure Catalog {α : Type} (β : α → Type) where
  /-- The entries, oldest first. -/
  entries : List (Sigma β)
  /-- No key has two entries. -/
  keys_nodup : (entries.map Sigma.fst).Nodup

namespace Catalog

variable {α : Type} {β : α → Type}

def empty : Catalog β := ⟨[], by simp⟩

/-- The keys entered so far, oldest first. -/
def keys (catalog : Catalog β) : List α := catalog.entries.map Sigma.fst

def size (catalog : Catalog β) : Nat := catalog.entries.length

theorem nodup_keys (catalog : Catalog β) : catalog.keys.Nodup := catalog.keys_nodup

theorem size_eq_length_keys (catalog : Catalog β) : catalog.size = catalog.keys.length := by
  simp [size, keys]

variable [DecidableEq α]

/-- The value of the first entry under `key` in a list of entries. -/
def lookup (key : α) : List (Sigma β) → Option (β key)
  | [] => none
  | ⟨other, value⟩ :: rest =>
    if same : other = key then some (same ▸ value) else lookup key rest

theorem lookup_eq_none_iff {key : α} {entries : List (Sigma β)} :
    lookup key entries = none ↔ key ∉ entries.map Sigma.fst := by
  induction entries with
  | nil => simp [lookup]
  | cons entry rest induction =>
      by_cases same : entry.1 = key
      · subst same
        simp [lookup]
      · have other : key ≠ entry.1 := fun equal => same equal.symm
        simp [lookup, same, other, induction]

theorem lookup_append (key : α) (older newer : List (Sigma β)) :
    lookup key (older ++ newer) = (lookup key older).or (lookup key newer) := by
  induction older with
  | nil => simp [lookup]
  | cons entry rest induction =>
      by_cases same : entry.1 = key
      · subst same
        simp [lookup]
      · simp [lookup, same, induction]

/-- The value entered for a key. -/
def find? (catalog : Catalog β) (key : α) : Option (β key) := lookup key catalog.entries

def contains (catalog : Catalog β) (key : α) : Bool := (catalog.find? key).isSome

/-- The place of a key in the order of entry. -/
def position? (catalog : Catalog β) (key : α) : Option Nat := catalog.keys.idxOf? key

/-- Enter a value for a key that has none; a key that has one keeps it. -/
def enter (catalog : Catalog β) (key : α) (value : β key) : Catalog β :=
  if fresh : catalog.find? key = none then
    { entries := catalog.entries ++ [⟨key, value⟩]
      keys_nodup := by
        have absent : key ∉ catalog.entries.map Sigma.fst := lookup_eq_none_iff.mp fresh
        simp only [List.map_append, List.map_cons, List.map_nil]
        refine List.nodup_append.mpr ⟨catalog.keys_nodup, by simp, ?_⟩
        intro entered member other isKey
        simp only [List.mem_singleton] at isKey
        rintro rfl
        exact absent (isKey ▸ member) }
  else catalog

/-- Replace the values entered under a key; a key without an entry gets none. -/
def revise (catalog : Catalog β) (key : α) (value : β key) : Catalog β where
  entries := catalog.entries.map fun entry =>
    if entry.1 = key then ⟨key, value⟩ else entry
  keys_nodup := by
    have keys : (catalog.entries.map fun entry : Sigma β =>
        if entry.1 = key then (⟨key, value⟩ : Sigma β) else entry).map Sigma.fst
          = catalog.entries.map Sigma.fst := by
      rw [List.map_map]
      apply List.map_congr_left
      intro entry _
      by_cases same : entry.1 = key <;> simp [same]
    rw [keys]
    exact catalog.keys_nodup

/-! ## What each operation does to look-up -/

@[simp] theorem find?_empty (key : α) : (empty : Catalog β).find? key = none := rfl

theorem find?_eq_none_iff {catalog : Catalog β} {key : α} :
    catalog.find? key = none ↔ key ∉ catalog.keys :=
  lookup_eq_none_iff

theorem contains_iff {catalog : Catalog β} {key : α} :
    catalog.contains key = true ↔ key ∈ catalog.keys := by
  rw [contains, Option.isSome_iff_ne_none, ne_eq, find?_eq_none_iff, Classical.not_not]

theorem enter_of_find?_eq_some {catalog : Catalog β} {key : α} {value entered : β key}
    (found : catalog.find? key = some entered) : catalog.enter key value = catalog := by
  simp [enter, found]

theorem find?_enter_self (catalog : Catalog β) (key : α) (value : β key) :
    (catalog.enter key value).find? key = some ((catalog.find? key).getD value) := by
  cases found : catalog.find? key with
  | some entered => simp [enter_of_find?_eq_some found, found]
  | none =>
      have missing : lookup key catalog.entries = none := found
      simp [enter, find?, lookup_append, missing, lookup]

theorem find?_enter_of_ne {catalog : Catalog β} {key other : α} {value : β key}
    (different : key ≠ other) :
    (catalog.enter key value).find? other = catalog.find? other := by
  by_cases fresh : catalog.find? key = none
  · have missing : lookup key catalog.entries = none := fresh
    simp [enter, find?, lookup_append, missing, lookup, different]
  · simp [enter, fresh]

theorem keys_enter (catalog : Catalog β) (key : α) (value : β key) :
    (catalog.enter key value).keys =
      if key ∈ catalog.keys then catalog.keys else catalog.keys ++ [key] := by
  by_cases fresh : catalog.find? key = none
  · rw [if_neg (find?_eq_none_iff.mp fresh)]
    simp only [keys, enter, dif_pos fresh, List.map_append, List.map_cons, List.map_nil]
  · have present : key ∈ catalog.keys := Classical.not_not.mp (mt find?_eq_none_iff.mpr fresh)
    rw [if_pos present]
    simp only [enter, dif_neg fresh]

@[simp] theorem keys_revise (catalog : Catalog β) (key : α) (value : β key) :
    (catalog.revise key value).keys = catalog.keys := by
  simp only [keys, revise, List.map_map]
  apply List.map_congr_left
  intro entry _
  by_cases same : entry.1 = key <;> simp [same]

theorem find?_revise_self {catalog : Catalog β} {key : α} {value entered : β key}
    (found : catalog.find? key = some entered) :
    (catalog.revise key value).find? key = some value := by
  simp only [find?, revise] at found ⊢
  generalize catalog.entries = entries at found ⊢
  induction entries with
  | nil => cases found
  | cons entry rest induction =>
      by_cases same : entry.1 = key
      · simp [lookup, same]
      · simp only [lookup, same, dite_false] at found
        simp only [List.map_cons, same, if_false, lookup, dite_false]
        exact induction found

theorem find?_revise_of_ne {catalog : Catalog β} {key other : α} {value : β key}
    (different : key ≠ other) : (catalog.revise key value).find? other = catalog.find? other := by
  simp only [find?, revise]
  induction catalog.entries with
  | nil => rfl
  | cons entry rest induction =>
      by_cases same : entry.1 = key
      · subst same
        simpa [lookup, different] using induction
      · simp only [List.map_cons, same, if_false, lookup, induction]

end Catalog

end RowMapping
