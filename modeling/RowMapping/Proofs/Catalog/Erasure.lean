import RowMapping.Catalog

/-!
# Catalogs made from catalogs

A function of the values, which may leave some out, makes another catalog of a catalog. One such
function keeps every value with its key, so that values of different types become values of one;
whoever wants one back has to check that it has the type in question. In a catalog in which every
value was entered under its own key the check never fails.
-/

namespace RowMapping

variable {α : Type} {β γ : α → Type}

namespace Catalog

theorem ext {left right : Catalog β} (entries_eq : left.entries = right.entries) :
    left = right := by
  cases left
  cases right
  cases entries_eq
  rfl

def entryImage? (image : ∀ key, β key → Option (γ key)) (entry : Sigma β) : Option (Sigma γ) :=
  (image entry.1 entry.2).map (Sigma.mk entry.1)

theorem sublist_map_fst_images (image : ∀ key, β key → Option (γ key)) (entries : List (Sigma β)) :
    ((entries.filterMap (entryImage? image)).map Sigma.fst).Sublist (entries.map Sigma.fst) := by
  induction entries with
  | nil => exact .slnil
  | cons entry entries ih =>
      cases found : image entry.1 entry.2 with
      | none => simpa [entryImage?, found] using ih.cons entry.1
      | some value => simpa [entryImage?, found] using ih.cons_cons entry.1

def filterMap (image : ∀ key, β key → Option (γ key)) (catalog : Catalog β) : Catalog γ where
  entries := catalog.entries.filterMap (entryImage? image)
  keys_nodup := catalog.keys_nodup.sublist (sublist_map_fst_images image catalog.entries)

variable [DecidableEq α]

theorem entries_enter_of_find?_eq_none {catalog : Catalog β} {key : α} {value : β key}
    (missing : catalog.find? key = none) :
    (catalog.enter key value).entries = catalog.entries ++ [⟨key, value⟩] := by
  simp [enter, missing]

section

variable (image : ∀ key, β key → Option (γ key))

theorem lookup_images (key : α) {entries : List (Sigma β)}
    (keys_nodup : (entries.map Sigma.fst).Nodup) :
    lookup key (entries.filterMap (entryImage? image)) =
      (lookup key entries).bind (image key) := by
  induction entries with
  | nil => rfl
  | cons entry entries ih =>
      obtain ⟨key_notin, rest_nodup⟩ := List.nodup_cons.mp keys_nodup
      by_cases same : entry.1 = key
      · subst same
        cases found : image entry.1 entry.2 with
        | none =>
            simp [entryImage?, found, lookup, ih rest_nodup, lookup_eq_none_iff.mpr key_notin]
        | some value => simp [entryImage?, found, lookup]
      · cases found : image entry.1 entry.2 <;>
          simp [entryImage?, found, lookup, same, ih rest_nodup]

theorem find?_filterMap (catalog : Catalog β) (key : α) :
    (catalog.filterMap image).find? key = (catalog.find? key).bind (image key) :=
  lookup_images image key catalog.keys_nodup

theorem filterMap_enter {catalog : Catalog β} {key : α} {value : β key} {valueImage : γ key}
    (kept : ∀ entered, catalog.find? key = some entered → image key entered ≠ none)
    (image_eq : image key value = some valueImage) :
    (catalog.enter key value).filterMap image =
      (catalog.filterMap image).enter key valueImage := by
  cases found : catalog.find? key with
  | some entered =>
      obtain ⟨other, other_eq⟩ := Option.ne_none_iff_exists'.mp (kept entered found)
      have image_found : (catalog.filterMap image).find? key = some other := by
        rw [find?_filterMap, found, Option.bind_some, other_eq]
      rw [enter_of_find?_eq_some found, enter_of_find?_eq_some image_found]
  | none =>
      have image_missing : (catalog.filterMap image).find? key = none := by
        rw [find?_filterMap, found, Option.bind_none]
      apply ext
      rw [entries_enter_of_find?_eq_none image_missing]
      simp [filterMap, entries_enter_of_find?_eq_none found, entryImage?, image_eq]

end

/-! ## Values kept with their keys -/

/-- A value kept with its key, if it has the type that a key asks for. -/
def downcast? (key : α) (kept : Sigma β) : Option (β key) :=
  if same : kept.1 = key then some (same ▸ kept.2) else none

/-- The value kept for a key, if it has the type that the key asks for. -/
def findTyped? (catalog : Catalog fun _ : α => Sigma β) (key : α) : Option (β key) :=
  (catalog.find? key).bind (downcast? key)

variable (forget : ∀ key, β key → γ key)

/-- The catalog that keeps all values with their keys, or what remains of the values. -/
def erase (catalog : Catalog β) : Catalog fun _ : α => Sigma γ :=
  catalog.filterMap fun key value => some ⟨key, forget key value⟩

theorem find?_erase (catalog : Catalog β) (key : α) :
    (catalog.erase forget).find? key =
      (catalog.find? key).map fun value => ⟨key, forget key value⟩ := by
  rw [erase, find?_filterMap]
  cases catalog.find? key <;> rfl

theorem findTyped?_erase (catalog : Catalog β) (key : α) :
    (catalog.erase forget).findTyped? key = (catalog.find? key).map (forget key) := by
  rw [findTyped?, find?_erase]
  cases catalog.find? key <;> simp [downcast?]

theorem erase_enter (catalog : Catalog β) (key : α) (value : β key) :
    (catalog.enter key value).erase forget =
      (catalog.erase forget).enter key ⟨key, forget key value⟩ :=
  filterMap_enter _ (fun _ _ => Option.some_ne_none _) rfl

end Catalog

end RowMapping
