import Mathlib.Data.List.Induction
import Mathlib.Data.List.Nodup

/-!
# Lists without repetition

Of the items that agree, the first one is kept. What is kept follows the order of first occurrence,
and no other list does. Keeping the first item of each key gives the keys that are left when
repeated keys are dropped.
-/

namespace RowMapping

theorem nodup_append_singleton {α : Type} {items : List α} {item : α} (items_nodup : items.Nodup)
    (item_notin : item ∉ items) : (items ++ [item]).Nodup := by
  refine List.nodup_append.mpr ⟨items_nodup, by simp, ?_⟩
  rintro other member last isItem rfl
  exact item_notin (List.mem_singleton.mp isItem ▸ member)

section

variable {α : Type} [BEq α] [LawfulBEq α]

theorem eraseDups_of_nodup {items : List α} (items_nodup : items.Nodup) :
    items.eraseDups = items := by
  induction items with
  | nil => rfl
  | cons item items ih =>
      obtain ⟨item_notin, rest_nodup⟩ := List.nodup_cons.mp items_nodup
      have kept : items.filter (fun other => !other == item) = items := by
        rw [List.filter_eq_self]
        rintro other member
        simpa using ne_of_mem_of_not_mem member item_notin
      rw [List.eraseDups_cons, kept, ih rest_nodup]

theorem eraseDups_append_singleton (items : List α) (item : α) :
    (items ++ [item]).eraseDups =
      if item ∈ items.eraseDups then items.eraseDups else items.eraseDups ++ [item] := by
  rw [List.eraseDups_append, List.removeAll]
  by_cases known : item ∈ items
  · simp [known]
  · simp [known, List.eraseDups_cons]

/-- The items of a list that are kept, each once, in the order in which they first occur. -/
structure FirstOccurrences (items kept : List α) : Prop where
  /-- No item is kept twice. -/
  nodup : kept.Nodup
  /-- Just the items of the list are kept. -/
  mem_iff : ∀ item, item ∈ kept ↔ item ∈ items
  /-- Of two items the one that first occurs earlier is kept earlier. -/
  ordered : kept.Pairwise fun earlier later => items.idxOf earlier < items.idxOf later

namespace FirstOccurrences

variable {items kept : List α} {item : α}

omit [LawfulBEq α] in
theorem nil : FirstOccurrences ([] : List α) [] where
  nodup := List.nodup_nil
  mem_iff _ := Iff.rfl
  ordered := .nil

/-- Whatever follows, an item that is kept has occurred before it. -/
theorem idxOf_append (firsts : FirstOccurrences items kept) (item_mem : item ∈ kept)
    (rest : List α) : (items ++ rest).idxOf item = items.idxOf item :=
  List.idxOf_append_of_mem ((firsts.mem_iff item).mp item_mem)

theorem ordered_append (firsts : FirstOccurrences items kept) (rest : List α) :
    kept.Pairwise fun earlier later =>
      (items ++ rest).idxOf earlier < (items ++ rest).idxOf later := by
  refine firsts.ordered.imp_of_mem fun {earlier later} earlier_mem later_mem before => ?_
  rwa [firsts.idxOf_append earlier_mem, firsts.idxOf_append later_mem]

theorem skip (firsts : FirstOccurrences items kept) (item_mem : item ∈ kept) :
    FirstOccurrences (items ++ [item]) kept where
  nodup := firsts.nodup
  mem_iff other := by
    rw [List.mem_append, List.mem_singleton, firsts.mem_iff]
    constructor
    · exact .inl
    · rintro (occurs | rfl)
      · exact occurs
      · exact (firsts.mem_iff other).mp item_mem
  ordered := firsts.ordered_append [item]

theorem add (firsts : FirstOccurrences items kept) (item_notin : item ∉ kept) :
    FirstOccurrences (items ++ [item]) (kept ++ [item]) where
  nodup := nodup_append_singleton firsts.nodup item_notin
  mem_iff other := by rw [List.mem_append, List.mem_append, firsts.mem_iff]
  ordered := by
    have unseen : item ∉ items := fun occurs => item_notin ((firsts.mem_iff item).mpr occurs)
    rw [List.pairwise_append]
    refine ⟨firsts.ordered_append [item], List.pairwise_singleton _ _, ?_⟩
    intro earlier earlier_mem last isItem
    obtain rfl := List.mem_singleton.mp isItem
    have occurs := (firsts.mem_iff earlier).mp earlier_mem
    rw [firsts.idxOf_append earlier_mem, List.idxOf_append_of_notMem unseen]
    exact Nat.lt_add_right _ (List.idxOf_lt_length_of_mem occurs)

/-- One more item is kept unless it is kept already. -/
theorem snoc (firsts : FirstOccurrences items kept) (item : α) :
    FirstOccurrences (items ++ [item]) (if item ∈ kept then kept else kept ++ [item]) := by
  by_cases known : item ∈ kept
  · rw [if_pos known]
    exact firsts.skip known
  · rw [if_neg known]
    exact firsts.add known

omit [LawfulBEq α] in
/-- The order of first occurrence leaves no choice. -/
theorem unique {others : List α} (firsts : FirstOccurrences items kept)
    (other_firsts : FirstOccurrences items others) : kept = others := by
  have same : kept.Perm others :=
    (List.perm_ext_iff_of_nodup firsts.nodup other_firsts.nodup).mpr fun item =>
      (firsts.mem_iff item).trans (other_firsts.mem_iff item).symm
  refine same.eq_of_pairwise ?_ firsts.ordered other_firsts.ordered
  intro earlier later _ _ before after
  exact absurd after (Nat.lt_asymm before)

end FirstOccurrences

theorem firstOccurrences_eraseDups (items : List α) : FirstOccurrences items items.eraseDups := by
  induction items using List.reverseRecOn with
  | nil => exact .nil
  | append_singleton items item ih =>
      rw [eraseDups_append_singleton]
      exact ih.snoc item

theorem nodup_eraseDups (items : List α) : items.eraseDups.Nodup :=
  (firstOccurrences_eraseDups items).nodup

theorem firstOccurrences_self {items : List α} (items_nodup : items.Nodup) :
    FirstOccurrences items items := by
  have firsts := firstOccurrences_eraseDups items
  rwa [eraseDups_of_nodup items_nodup] at firsts

theorem find?_eraseDups (found : α → Bool) (items : List α) :
    items.eraseDups.find? found = items.find? found := by
  induction items using List.reverseRecOn with
  | nil => rfl
  | append_singleton items item ih =>
      rw [eraseDups_append_singleton, List.find?_append]
      by_cases known : item ∈ items.eraseDups
      · rw [if_pos known, ih]
        cases earlier : items.find? found with
        | some first => rfl
        | none =>
            have missed : ¬found item = true :=
              List.find?_eq_none.mp earlier item (List.mem_eraseDups.mp known)
            rw [List.find?_singleton, if_neg missed]
            rfl
      · rw [if_neg known, List.find?_append, ih]

omit [LawfulBEq α] in
theorem map_eraseDupsBy {β : Type} (key : β → α) : (items : List β) →
    (items.eraseDupsBy fun later earlier => key later == key earlier).map key =
      (items.map key).eraseDups
  | [] => rfl
  | item :: items => by
      rw [List.eraseDupsBy_cons, List.map_cons, map_eraseDupsBy key, List.map_cons,
        List.eraseDups_cons, List.filter_map]
      congr 4
      funext other
      cases same : key other == key item <;> simp [same]
  termination_by items => items.length
  decreasing_by
    have shorter := List.length_filter_le (fun other => (key other == key item) = false) items
    simp only [List.length_cons]
    omega

end

end RowMapping
