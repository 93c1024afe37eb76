import RowMapping.Proofs.Patch.Planning

/-!
# What a patch writes

Each property carried over goes to one cell of the target, the one that its name reaches first, and
no two go to the same cell. So a patch that writes some of them leaves the converted values in their
cells and every other cell as it was, in whichever order a reader looks at them. Writing ends with
the last property or stops at the first whose value does not convert.
-/

namespace RowMapping

namespace FieldType

theorem property_of_expect_eq_error {α : Type} {name : String} {value : Value} {result : Option α}
    {report : ConversionError} (failed : expect name value result = .error report) :
    report.property = none := by
  cases result with
  | some converted => cases failed
  | none =>
      cases failed
      rfl

theorem property_of_document_eq_error {value : Value} {report : ConversionError}
    (failed : document value = .error report) : report.property = none := by
  unfold document at failed
  split at failed
  · cases failed
  · split at failed
    · cases failed
    · cases failed
      rfl
  · cases failed
    rfl

theorem property_of_ofValue_eq_error {type : FieldType} {value : Value}
    {report : ConversionError} (failed : type.ofValue value = .error report) :
    report.property = none := by
  induction type with
  | optional inner ih =>
      rw [ofValue] at failed
      unfold optionally at failed
      split at failed
      · cases failed
      · cases inner_failed : inner.ofValue value with
        | ok content =>
            rw [inner_failed] at failed
            cases failed
        | error inner_report =>
            rw [inner_failed] at failed
            cases failed
            exact ih inner_failed
  | json => exact property_of_document_eq_error failed
  | dynamic => cases failed
  | _ => exact property_of_expect_eq_error failed

end FieldType

theorem Accessor.write_of_isWritable {shape : Shape} {place : shape.Place}
    (isWritable : (shape.property place).isWritable = true) (record : Record shape)
    (value : Value) :
    (Accessor.mk place).write record value =
      match (shape.property place).type.ofValue value with
      | .ok content => .ok (some (record.put place content))
      | .error report =>
          .error (.conversion { report with property := some (shape.property place).name }) := by
  have property_eq : (Accessor.mk place).property = shape.property place := rfl
  rw [Accessor.write, property_eq, if_pos isWritable]
  dsimp only
  cases converted : (shape.property place).type.ofValue value with
  | ok content => rfl
  | error report =>
      have unnamed := FieldType.property_of_ofValue_eq_error converted
      simp only [ConversionError.forProperty, unnamed, Option.getD_none]
      rfl

namespace Patch

variable {target source : Shape}

/-- The target property of its name can hold the value of a source property. -/
def Converts (target : Shape) (record : Record source) (origin : source.Place) : Prop :=
  ∀ place, target.first? (source.property origin).name = some place →
    ∃ content, (target.property place).type.ofValue (record.value origin) = .ok content

/-- The second target is the first with the values of some source properties written into it. -/
structure Copies (record : Record source) (origins : List source.Place)
    (before after : Record target) : Prop where
  /-- The target is read as before. -/
  getters_eq : after.getters = before.getters
  /-- The cell that a name reaches first holds the converted value. -/
  ofValue_eq : ∀ origin ∈ origins, ∀ place,
    target.first? (source.property origin).name = some place →
      (target.property place).type.ofValue (record.value origin) = .ok (after.cell place)
  /-- All other cells are as before. -/
  cell_eq : ∀ place,
    (∀ origin ∈ origins, target.first? (source.property origin).name ≠ some place) →
      after.cell place = before.cell place

namespace Copies

variable {record : Record source} {origins : List source.Place} {before after : Record target}

theorem nil (record : Record source) (before : Record target) : Copies record [] before before where
  getters_eq := rfl
  ofValue_eq _ member := absurd member List.not_mem_nil
  cell_eq _ _ := rfl

/-- A further property of another name takes a cell that has not been written yet. -/
theorem snoc (copies : Copies record origins before after) {origin : source.Place}
    {place : target.Place} (found : target.first? (source.property origin).name = some place)
    (name_notin : (source.property origin).name ∉
      origins.map fun origin => (source.property origin).name)
    {content : (target.property place).type.Carrier}
    (converted : (target.property place).type.ofValue (record.value origin) = .ok content) :
    Copies record (origins ++ [origin]) before (after.put place content) where
  getters_eq := (after.getters_put place content).trans copies.getters_eq
  ofValue_eq := by
    intro other member reached reached_eq
    rcases List.mem_append.mp member with earlier | last
    · have different : place ≠ reached := by
        rintro rfl
        have same_name : (source.property other).name = (source.property origin).name :=
          (Shape.name_of_first?_eq_some reached_eq).symm.trans (Shape.name_of_first?_eq_some found)
        exact name_notin (List.mem_map.mpr ⟨other, earlier, same_name⟩)
      rw [Record.cell_put_of_ne _ _ different]
      exact copies.ofValue_eq other earlier reached reached_eq
    · obtain rfl := List.mem_singleton.mp last
      obtain rfl : place = reached := Option.some.inj (found.symm.trans reached_eq)
      rw [Record.cell_put_self]
      exact converted
  cell_eq := by
    intro other unreached
    have different : place ≠ other := by
      rintro rfl
      exact unreached origin (List.mem_append_right _ List.mem_cons_self) found
    rw [Record.cell_put_of_ne _ _ different]
    exact copies.cell_eq other fun earlier member =>
      unreached earlier (List.mem_append_left _ member)

/-- What is written does not depend on what was there. -/
theorem cell_congr (copies : Copies record origins before after) {start finish : Record target}
    (others : Copies record origins start finish) {place : target.Place}
    (unwritten : (∀ origin ∈ origins,
      target.first? (source.property origin).name ≠ some place) →
        before.cell place = start.cell place) :
    after.cell place = finish.cell place := by
  by_cases reached : ∃ origin ∈ origins, target.first? (source.property origin).name = some place
  · obtain ⟨origin, member, found⟩ := reached
    have same := (copies.ofValue_eq origin member place found).symm.trans
      (others.ofValue_eq origin member place found)
    exact Except.ok.inj same
  · have unreached : ∀ origin ∈ origins,
        target.first? (source.property origin).name ≠ some place :=
      fun origin member found => reached ⟨origin, member, found⟩
    rw [copies.cell_eq place unreached, others.cell_eq place unreached, unwritten unreached]

theorem converts (copies : Copies record origins before after) {origin : source.Place}
    (member : origin ∈ origins) : Converts target record origin :=
  fun place found => ⟨_, copies.ofValue_eq origin member place found⟩

end Copies

/-- A patch stops at a source property whose value does not convert, having written others. -/
structure Halts (record : Record source) (written : List source.Place) (origin : source.Place)
    (before : Record target) (failure : PatchFailure target) : Prop where
  copies : Copies record written before failure.record
  /-- The report of the conversion, with the property named. -/
  error_eq : ∃ place report, target.first? (source.property origin).name = some place ∧
    (target.property place).type.ofValue (record.value origin) = .error report ∧
      failure.error = .conversion { report with property := some (source.property origin).name }

theorem Halts.not_converts {record : Record source} {written : List source.Place}
    {origin : source.Place} {before : Record target} {failure : PatchFailure target}
    (halts : Halts record written origin before failure) : ¬ Converts target record origin := by
  intro converts
  obtain ⟨place, report, found, failed, -⟩ := halts.error_eq
  obtain ⟨content, converted⟩ := converts place found
  rw [failed] at converted
  cases converted

/-- Writing goes through the properties that are left, or stops at one of them. -/
theorem write_writes {record : Record source} {written rest : List source.Place}
    {before : Record target} {changes : ChangeSet target}
    (distinct : ((written ++ rest).map fun origin => (source.property origin).name).Nodup)
    (carried : ∀ origin ∈ rest, carries target record origin = true)
    (names_eq : changes.names = written.map fun origin => (source.property origin).name)
    (copies : Copies record written before changes.target) :
    match write changes (writes target record rest) with
    | .ok result =>
        result.names = (written ++ rest).map (fun origin => (source.property origin).name) ∧
          Copies record (written ++ rest) before result.target
    | .error failure =>
        ∃ done origin left, written ++ rest = done ++ origin :: left ∧
          Halts record done origin before failure := by
  induction rest generalizing written changes with
  | nil =>
      rw [List.append_nil]
      exact ⟨names_eq, copies⟩
  | cons origin rest ih =>
      obtain ⟨place, found, isWritable⟩ :=
        exists_first_of_carries (carried origin List.mem_cons_self)
      have name_eq : Accessor.name ⟨place⟩ = (source.property origin).name :=
        Shape.name_of_first?_eq_some found
      have name_notin : (source.property origin).name ∉
          written.map fun origin => (source.property origin).name := by
        rw [List.map_append, List.map_cons] at distinct
        have notin := (List.nodup_cons.mp (List.nodup_middle.mp distinct)).1
        exact fun member => notin (List.mem_append_left _ member)
      rw [writes_cons record found, write, Accessor.write_of_isWritable isWritable]
      cases converted : (target.property place).type.ofValue (record.value origin) with
      | error report =>
          refine ⟨written, origin, rest, rfl, copies, place, report, found, converted, ?_⟩
          rw [← name_eq]
          rfl
      | ok content =>
          have extended : written ++ origin :: rest = written ++ [origin] ++ rest := by simp
          rw [extended] at distinct ⊢
          have rest_carried : ∀ later ∈ rest, carries target record later = true :=
            fun later member => carried later (List.mem_cons_of_mem _ member)
          refine ih distinct rest_carried ?_ ?_
          · rw [name_eq, ChangeSet.names_record, List.map_append, ← names_eq]
            exact if_neg (names_eq ▸ name_notin)
          · rw [ChangeSet.target_record]
            exact copies.snoc found name_notin converted

/-! ## How a patch ends -/

theorem tables_fst (cache : AccessorCache) (target source : Shape) :
    (tables cache target source).1 = (.reflect target, .reflect source) :=
  Prod.ext (cache.request_fst target) ((cache.request target).2.request_fst source)

theorem apply_fst (cache : AccessorCache) (old : Record target) (record : Record source) :
    (apply cache old record).1 =
      match source.places.find? (unmatched target) with
      | some origin => .error ⟨mismatch target origin, old⟩
      | none => write (.on old) (writes target record (carried target record)) := by
  have tables_eq := tables_fst cache target source
  unfold apply
  generalize tables cache target source = answer at tables_eq
  obtain ⟨_, after⟩ := answer
  cases tables_eq
  dsimp only
  rw [plan_reflect]
  cases source.places.find? (unmatched target) <;> rfl

theorem map_name_writes {record : Record source} {origins : List source.Place}
    (carried : ∀ origin ∈ origins, carries target record origin = true) :
    (writes target record origins).map (·.accessor.name) =
      origins.map fun origin => (source.property origin).name := by
  induction origins with
  | nil => rfl
  | cons origin origins ih =>
      obtain ⟨place, found, -⟩ := exists_first_of_carries (carried origin List.mem_cons_self)
      rw [writes_cons record found, List.map_cons, List.map_cons,
        ih fun later member => carried later (List.mem_cons_of_mem _ member)]
      exact congrArg (· :: _) (Shape.name_of_first?_eq_some found)

theorem changes_fst (cache : AccessorCache) (target : Shape) (record : Record source) :
    (changes cache target record).1 =
      match source.places.find? (unmatched target) with
      | some origin => .error (mismatch target origin)
      | none => .ok ((carried target record).map fun origin => (source.property origin).name) := by
  have tables_eq := tables_fst cache target source
  unfold changes
  generalize tables cache target source = answer at tables_eq
  obtain ⟨_, after⟩ := answer
  cases tables_eq
  dsimp only
  rw [plan_reflect]
  cases source.places.find? (unmatched target) with
  | some origin => rfl
  | none => exact congrArg Except.ok (map_name_writes fun _ => carries_of_mem_carried)

/-- How a patch can end. -/
inductive Outcome (before : Record target) (record : Record source) :
    Except (PatchFailure target) (ChangeSet target) → Prop
  /-- A mapped property has no counterpart, and nothing has been written. -/
  | rejected {origin : source.Place}
      (first : source.places.find? (unmatched target) = some origin) :
      Outcome before record (.error ⟨mismatch target origin, before⟩)
  /-- A value does not convert, and what comes before it has been written. -/
  | interrupted {written rest : List source.Place} {origin : source.Place}
      {failure : PatchFailure target} (matched : source.places.find? (unmatched target) = none)
      (carried_eq : carried target record = written ++ origin :: rest)
      (halts : Halts record written origin before failure) :
      Outcome before record (.error failure)
  /-- All is written and recorded. -/
  | completed {changes : ChangeSet target}
      (matched : source.places.find? (unmatched target) = none)
      (names_eq : changes.names =
        (carried target record).map fun origin => (source.property origin).name)
      (copies : Copies record (carried target record) before changes.target) :
      Outcome before record (.ok changes)

theorem Outcome.exists_eq_ok {before : Record target} {record : Record source}
    {result : Except (PatchFailure target) (ChangeSet target)}
    (outcome : Outcome before record result)
    (matched : source.places.find? (unmatched target) = none)
    (converts : ∀ origin ∈ carried target record, Converts target record origin) :
    ∃ changes, result = .ok changes := by
  cases outcome with
  | rejected first =>
      rw [matched] at first
      cases first
  | @interrupted written rest origin failure _ carried_eq halts =>
      have member : origin ∈ carried target record := by
        rw [carried_eq]
        exact List.mem_append_right _ List.mem_cons_self
      exact absurd (converts origin member) halts.not_converts
  | completed => exact ⟨_, rfl⟩

theorem outcome_apply (cache : AccessorCache) (before : Record target) (record : Record source) :
    Outcome before record (apply cache before record).1 := by
  rw [apply_fst]
  cases matched : source.places.find? (unmatched target) with
  | some origin => exact .rejected matched
  | none =>
      have run := @write_writes target source record [] (carried target record) before (.on before)
        (nodup_map_name_carried target record) (fun _ => carries_of_mem_carried) rfl
        (.nil record before)
      dsimp only
      cases written : write (.on before) (writes target record (carried target record)) with
      | ok changes =>
          rw [written] at run
          exact .completed matched run.1 run.2
      | error failure =>
          rw [written] at run
          obtain ⟨done, origin, left, split, halts⟩ := run
          exact .interrupted matched split halts

variable {cache : AccessorCache} {before : Record target} {record : Record source}
  {changes : ChangeSet target}

theorem names_of_apply (applied : (apply cache before record).1 = .ok changes) :
    changes.names = (carried target record).map fun origin => (source.property origin).name := by
  have outcome := outcome_apply cache before record
  rw [applied] at outcome
  cases outcome with
  | completed matched names_eq copies => exact names_eq

theorem copies_of_apply (applied : (apply cache before record).1 = .ok changes) :
    Copies record (carried target record) before changes.target := by
  have outcome := outcome_apply cache before record
  rw [applied] at outcome
  cases outcome with
  | completed matched names_eq copies => exact copies

/-- Whether a patch is completed does not depend on the target that it finds. -/
theorem exists_apply_eq_ok (applied : (apply cache before record).1 = .ok changes)
    (other : AccessorCache) (start : Record target) :
    ∃ again, (apply other start record).1 = .ok again := by
  have outcome := outcome_apply cache before record
  rw [applied] at outcome
  cases outcome with
  | completed matched names_eq copies =>
      exact (outcome_apply other start record).exists_eq_ok matched fun _ => copies.converts

/-- A patch records the names of the properties that it carries over, whichever of one name it
takes. -/
theorem mem_names_of_apply (applied : (apply cache before record).1 = .ok changes) {name : String} :
    name ∈ changes.names ↔
      ∃ origin, carries target record origin = true ∧ (source.property origin).name = name := by
  rw [names_of_apply applied, map_name_carried, List.mem_eraseDups, List.mem_map]
  constructor
  · rintro ⟨origin, member, name_eq⟩
    exact ⟨origin, (List.mem_filter.mp member).2, name_eq⟩
  · rintro ⟨origin, carried, name_eq⟩
    exact ⟨origin, List.mem_filter.mpr ⟨List.mem_finRange origin, carried⟩, name_eq⟩

/-- Every name that a patch records is declared on the target, and its first declaration can be
written. -/
theorem exists_first_of_apply (applied : (apply cache before record).1 = .ok changes)
    {name : String} (recorded : name ∈ changes.names) :
    ∃ first, target.first? name = some first ∧ (target.property first).isWritable = true := by
  obtain ⟨origin, carried, rfl⟩ := (mem_names_of_apply applied).mp recorded
  exact exists_first_of_carries carried

end Patch

end RowMapping
