import Mathlib.Data.Finset.Card
import RowMapping.ChangeSet
import RowMapping.StatementSet
import RowMapping.Proofs.Distinct

/-!
# Recorded names

A changeset takes names one at a time and answers whether each is new; a statement set runs through
the names of a text and keeps those that it has not kept before. Both come to the names at their
first occurrences, so the names of a statement's parameters are what a changeset would have recorded.
-/

namespace RowMapping

namespace StatementSet

theorem keep_eq (kept : List String) (name : String) :
    keep kept name = if name ∈ kept then kept else kept ++ [name] := by
  simp only [keep, List.contains_iff_mem]

theorem firstOccurrences_foldl_keep {seen kept : List String} (firsts : FirstOccurrences seen kept)
    (names : List String) : FirstOccurrences (seen ++ names) (names.foldl keep kept) := by
  induction names generalizing seen kept with
  | nil => rwa [List.append_nil]
  | cons name names ih =>
      have next := firsts.snoc name
      rw [← keep_eq] at next
      rw [List.append_cons]
      exact ih next

theorem firstOccurrences_distinct (names : List String) : FirstOccurrences names (distinct names) :=
  firstOccurrences_foldl_keep .nil names

theorem distinct_eq_eraseDups (names : List String) : distinct names = names.eraseDups :=
  (firstOccurrences_distinct names).unique (firstOccurrences_eraseDups names)

theorem mem_distinct {name : String} {names : List String} : name ∈ distinct names ↔ name ∈ names :=
  (firstOccurrences_distinct names).mem_iff name

theorem distinct_of_nodup {names : List String} (names_nodup : names.Nodup) :
    distinct names = names :=
  (firstOccurrences_distinct names).unique (firstOccurrences_self names_nodup)

end StatementSet

namespace ChangeSet

variable {shape : Shape}

theorem recordAll_cons (changes : ChangeSet shape) (name : String) (names : List String) :
    changes.recordAll (name :: names) =
      ((changes.record name).1 :: ((changes.record name).2.recordAll names).1,
        ((changes.record name).2.recordAll names).2) :=
  rfl

/-- Recording goes on where it has stopped. -/
theorem recordAll_append (changes : ChangeSet shape) (front back : List String) :
    changes.recordAll (front ++ back) =
      ((changes.recordAll front).1 ++ ((changes.recordAll front).2.recordAll back).1,
        ((changes.recordAll front).2.recordAll back).2) := by
  induction front generalizing changes with
  | nil => rfl
  | cons name front ih =>
      rw [List.cons_append, recordAll_cons, recordAll_cons, ih]
      rfl

theorem length_recordAll (changes : ChangeSet shape) (names : List String) :
    (changes.recordAll names).1.length = names.length := by
  induction names generalizing changes with
  | nil => rfl
  | cons name names ih => rw [recordAll_cons, List.length_cons, List.length_cons, ih]

theorem firstOccurrences_recordAll {changes : ChangeSet shape} {recorded : List String}
    (firsts : FirstOccurrences recorded changes.names) (names : List String) :
    FirstOccurrences (recorded ++ names) (changes.recordAll names).2.names := by
  -- The names of the changeset stay the first occurrences of all that has been recorded.
  induction names generalizing changes recorded with
  | nil => rwa [List.append_nil]
  | cons name names ih =>
      have next := firsts.snoc name
      rw [← names_record] at next
      rw [List.append_cons, recordAll_cons]
      exact ih next

/-- Recording names one after the other keeps the first of each. -/
theorem names_recordAll (changes : ChangeSet shape) (names : List String) :
    (changes.recordAll names).2.names = (changes.names ++ names).eraseDups :=
  (firstOccurrences_recordAll (firstOccurrences_self changes.nodup_names) names).unique
    (firstOccurrences_eraseDups _)

/-- A changeset on which just these names have been recorded, in this order. -/
structure HasRecorded (changes : ChangeSet shape) (recorded : List String) : Prop where
  /-- Its names are the recorded ones, each once, by their first recording. -/
  firsts : FirstOccurrences recorded changes.names
  /-- Its size is the number of its names, which is that of the different names recorded. -/
  size_eq : changes.size = changes.names.length ∧ changes.size = recorded.toFinset.card
  /-- It is empty if it has no names, which is as long as none have been recorded. -/
  isEmpty_iff : (changes.isEmpty = true ↔ changes.names = []) ∧
    (changes.isEmpty = true ↔ recorded = [])
  /-- It contains its names, which are the names recorded. -/
  contains_iff : ∀ name, (changes.contains name = true ↔ name ∈ changes.names) ∧
    (changes.contains name = true ↔ name ∈ recorded)
  /-- To it a name is new if it has not been recorded. -/
  isNew_iff : ∀ name, (changes.record name).1 = true ↔ name ∉ recorded

theorem hasRecorded_of_firstOccurrences {changes : ChangeSet shape} {recorded : List String}
    (firsts : FirstOccurrences recorded changes.names) : changes.HasRecorded recorded where
  firsts := firsts
  size_eq := by
    have same : changes.names.toFinset = recorded.toFinset := by
      ext name
      rw [List.mem_toFinset, List.mem_toFinset, firsts.mem_iff]
    rw [size_eq_length, ← same, List.toFinset_card_of_nodup firsts.nodup]
    exact ⟨rfl, rfl⟩
  isEmpty_iff := by
    rw [isEmpty_iff, List.eq_nil_iff_forall_not_mem, List.eq_nil_iff_forall_not_mem]
    simp only [firsts.mem_iff, true_and]
  contains_iff name := by
    rw [contains_iff, firsts.mem_iff]
    exact ⟨Iff.rfl, Iff.rfl⟩
  isNew_iff name := by rw [record_fst_iff, firsts.mem_iff]

/-- Answers, one a name, that mark the names that are new. -/
structure MarksNew (names : List String) (answers : List Bool) : Prop where
  length_eq : answers.length = names.length
  /-- A name is marked if it is not among those before it. -/
  isNew_iff : ∀ before name after, names = before ++ name :: after →
    (answers[before.length]? = some true ↔ name ∉ before)

theorem firstOccurrences_on (target : Record shape) (names : List String) :
    FirstOccurrences names ((on target).recordAll names).2.names := by
  have start : FirstOccurrences [] (on target).names := .nil
  exact firstOccurrences_recordAll start names

theorem marksNew_recordAll (target : Record shape) (names : List String) :
    MarksNew names ((on target).recordAll names).1 where
  length_eq := length_recordAll _ names
  isNew_iff before name after := by
    rintro rfl
    have reached := hasRecorded_of_firstOccurrences (firstOccurrences_on target before)
    rw [recordAll_append, recordAll_cons, List.getElem?_append_right (length_recordAll _ before).le,
      length_recordAll, Nat.sub_self, List.getElem?_cons_zero, Option.some_inj]
    exact reached.isNew_iff name

/-- Recording names on a record, one after the other, leaves the names in the order of their first
recording, and each answer tells whether the name is new. The names that a statement set keeps are
those that recording them would leave; among these nothing is left to drop. -/
theorem hasRecorded_of_recordAll :
    (∀ (shape : Shape) (target : Record shape) (names : List String),
      MarksNew names ((on target).recordAll names).1 ∧
        ((on target).recordAll names).2.HasRecorded names ∧
        StatementSet.distinct names = ((on target).recordAll names).2.names) ∧
    ∀ names, StatementSet.distinct (StatementSet.distinct names) = StatementSet.distinct names := by
  constructor
  · intro shape target names
    have firsts := firstOccurrences_on target names
    exact ⟨marksNew_recordAll target names, hasRecorded_of_firstOccurrences firsts,
      (StatementSet.firstOccurrences_distinct names).unique firsts⟩
  · intro names
    exact StatementSet.distinct_of_nodup (StatementSet.firstOccurrences_distinct names).nodup

/-- A name that comes again is not new. -/
example (target : Record shape) :
    ((on target).recordAll ["Name", "Alias", "Name"]).1 = [true, true, false] :=
  rfl

end ChangeSet

end RowMapping
