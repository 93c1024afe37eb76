import RowMapping.Proofs.Patch.Writing

/-!
# How patches end

A patch is rejected, interrupted or completed. It is rejected, with nothing written, exactly if a
mapped source property has no counterpart; otherwise it is interrupted exactly if a value that it
carries over does not convert, and what comes before that value stays written. A patch that is
completed has recorded the names of the properties carried over and has changed no cell but those
that these names reach first.
-/

namespace RowMapping.Patch

variable {target source : Shape}

theorem find?_unmatched_eq_none_iff :
    source.places.find? (unmatched target) = none ↔
      ∀ origin : source.Place, unmatched target origin = false := by
  simp [List.find?_eq_none, Shape.places]

namespace Outcome

variable {before : Record target} {record : Record source}
  {result : Except (PatchFailure target) (ChangeSet target)}

theorem error_iff (outcome : Outcome before record result)
    (matched : ∀ origin : source.Place, unmatched target origin = false) :
    (∃ failure, result = .error failure) ↔
      ∃ origin ∈ carried target record, ¬ Converts target record origin := by
  cases outcome with
  | rejected first =>
      rw [find?_unmatched_eq_none_iff.mpr matched] at first
      cases first
  | interrupted _ carried_eq halts =>
      refine iff_of_true ⟨_, rfl⟩ ⟨_, ?_, halts.not_converts⟩
      rw [carried_eq]
      exact List.mem_append_right _ List.mem_cons_self
  | completed _ names_eq copies =>
      refine iff_of_false ?_ ?_
      · rintro ⟨failure, same⟩
        cases same
      · rintro ⟨origin, member, unconverted⟩
        exact unconverted (copies.converts member)

end Outcome

/-- If every mapped source property has a counterpart and every value that is carried over converts,
a patch is completed: it records the names of the properties carried over, as planning announces
them, and leaves the converted values in the cells that these names reach first and nowhere else. -/
theorem completes_of_converts {record : Record source}
    (matched : ∀ origin : source.Place, unmatched target origin = false)
    (converts : ∀ origin ∈ carried target record, Converts target record origin)
    (cache other : AccessorCache) (before : Record target) :
    let names := (carried target record).map fun origin => (source.property origin).name
    names.Nodup ∧ (changes other target record).1 = .ok names ∧
      ∃ changes, (apply cache before record).1 = .ok changes ∧ changes.names = names ∧
        Copies record (carried target record) before changes.target := by
  intro names
  have unmatched_eq := find?_unmatched_eq_none_iff.mpr matched
  refine ⟨nodup_map_name_carried target record, by rw [changes_fst, unmatched_eq], ?_⟩
  have outcome := outcome_apply cache before record
  cases result : (apply cache before record).1 with
  | error failure =>
      rw [result] at outcome
      obtain ⟨origin, member, unconverted⟩ := (outcome.error_iff matched).mp ⟨failure, rfl⟩
      exact absurd (converts origin member) unconverted
  | ok changes =>
      rw [result] at outcome
      cases outcome with
      | completed _ names_eq copies => exact ⟨changes, rfl, names_eq, copies⟩

/-- Two numbers, a count that is declared twice and a note without column. -/
def sample : Shape where
  name := "Sample"
  properties :=
    [{ name := "Mean", type := .float64 }, { name := "Spread", type := .float64 },
     { name := "Count", type := .integer .thirtyTwo },
     { name := "Count", type := .integer .thirtyTwo },
     { name := "Note", type := .text, flags := { notMapped := true } }]

/-- A mean of negative zero, a spread that is no number and a count in its second cell. -/
def measured : Record sample :=
  let mean : Binary64 := ⟨0x8000000000000000⟩
  let spread : Binary64 := ⟨0x7FF8000000000000⟩
  let count : Int32 := 5
  (((Record.blank sample).put (0 : Fin 5) mean).put (1 : Fin 5) spread).put (3 : Fin 5) count

/-- The count is read from the second cell and written into the first. -/
theorem completes_of_converts_measured :
    (∀ origin : sample.Place, unmatched sample origin = false) ∧
      (∀ origin ∈ carried sample measured, Converts sample measured origin) ∧
      ∃ changes, (apply .empty (.blank sample) measured).1 = .ok changes ∧
        changes.names = ["Spread", "Count"] ∧ changes.target.cell (2 : Fin 5) = (5 : Int32) ∧
        Copies measured (carried sample measured) (.blank sample) changes.target := by
  have matched : ∀ origin : sample.Place, unmatched sample origin = false := by decide
  have carried_eq : carried sample measured = [(1 : Fin 5), (3 : Fin 5)] := rfl
  have converts : ∀ origin ∈ carried sample measured, Converts sample measured origin := by
    rw [carried_eq]
    intro origin member place found
    rcases List.mem_pair.mp member with rfl | rfl
    · cases found
      exact ⟨_, rfl⟩
    · cases found
      exact ⟨_, rfl⟩
  obtain ⟨-, -, changes, applied, names_eq, copies⟩ :=
    completes_of_converts matched converts .empty .empty (.blank sample)
  refine ⟨matched, converts, changes, applied, names_eq, ?_, copies⟩
  have written := copies.ofValue_eq (3 : Fin 5) (List.mem_pair.mpr (.inr rfl)) (2 : Fin 5) rfl
  exact (Except.ok.inj written).symm

end RowMapping.Patch
