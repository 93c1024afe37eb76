import RowMapping.Patch
import RowMapping.Proofs.Record.Binding

/-!
# What a patch plans

Which source properties a patch carries over can be said without the plan: those that are mapped
and can be read, whose name is first declared on the target as a property that can be written, and
which, within one shape, have been set. Of several with one name only the first is carried. Planning
fails at the first mapped source property whose name the target does not declare; otherwise the plan
has one write for each property carried over, to the first declaration of its name.
-/

namespace RowMapping

namespace Shape

variable (shape : Shape)

/-- Whether the first declaration of a name can be written. -/
def accepts (name : String) : Bool :=
  (shape.first? name).any fun place => (shape.property place).isWritable

/-- The places that are the first of their name among the given ones. -/
def firsts (places : List shape.Place) : List shape.Place :=
  places.eraseDupsBy fun later earlier =>
    (shape.property later).name == (shape.property earlier).name

theorem firsts_cons (place : shape.Place) (places : List shape.Place) :
    shape.firsts (place :: places) =
      place :: shape.firsts (places.filter fun later =>
        !((shape.property later).name == (shape.property place).name)) := by
  rw [firsts, firsts, List.eraseDupsBy_cons]
  congr 3
  funext later
  rw [Bool.decide_eq_false]

theorem firsts_sublist : (places : List shape.Place) → (shape.firsts places).Sublist places
  | [] => .slnil
  | place :: places => by
      rw [firsts_cons]
      exact ((firsts_sublist _).trans List.filter_sublist).cons_cons place
  termination_by places => places.length
  decreasing_by
    have shorter := List.length_filter_le
      (fun later => !((shape.property later).name == (shape.property place).name)) places
    simp only [List.length_cons]
    omega

theorem map_name_firsts (places : List shape.Place) :
    (shape.firsts places).map (fun place => (shape.property place).name) =
      (places.map fun place => (shape.property place).name).eraseDups :=
  map_eraseDupsBy _ places

end Shape

namespace Patch

/-- Whether a patch carries a source property over, unless an earlier one has its name. -/
def carries (target : Shape) {source : Shape} (record : Record source) (origin : source.Place) :
    Bool :=
  let property := source.property origin
  property.isMapped && property.isReadable && target.accepts property.name &&
    !(target = source && (record.value origin).equals property.type.zero)

/-- The source properties that a patch carries over, in order of declaration. -/
def carried (target : Shape) {source : Shape} (record : Record source) : List source.Place :=
  source.firsts (source.places.filter (carries target record))

/-- Whether a source property has no counterpart although it is mapped. -/
def unmatched (target : Shape) {source : Shape} (origin : source.Place) : Bool :=
  (source.property origin).isMapped && (target.first? (source.property origin).name).isNone

/-- The report of such a property. -/
def mismatch (target : Shape) {source : Shape} (origin : source.Place) : Error :=
  .ofDefect target.name (.undeclaredOnTarget (source.property origin).name source.name)

variable {target source : Shape}

/-- The writes of source values to the first target declarations of their names. -/
def writes (target : Shape) (record : Record source) (origins : List source.Place) :
    List (PlannedWrite target) :=
  origins.filterMap fun origin =>
    (target.first? (source.property origin).name).map fun place => ⟨⟨place⟩, record.value origin⟩

/-- The write that a source property adds to a plan. -/
def addition? (targets : AccessorTable target) (record : Record source)
    (planned : List (PlannedWrite target)) (origin : Accessor source) :
    Option (PlannedWrite target) :=
  if origin.property.isMapped then
    match targets.find? origin.name, origin.read? record with
    | some destination, some value =>
        if (target = source && value.equals origin.zero) || !destination.property.isWritable
            || planned.any fun write => write.accessor.name == destination.name then none
        else some ⟨destination, value⟩
    | _, _ => none
  else none

/-- A mapped source property must be declared on the target; if it is, planning goes on with what it
adds. -/
theorem extendPlan_cons (targets : AccessorTable target) (record : Record source)
    (planned : List (PlannedWrite target)) (origin : Accessor source)
    (origins : List (Accessor source)) :
    extendPlan targets record planned (origin :: origins) =
      if origin.property.isMapped = true ∧ targets.find? origin.name = none then
        .error (.ofDefect target.name (.undeclaredOnTarget origin.name source.name))
      else
        extendPlan targets record (planned ++ (addition? targets record planned origin).toList)
          origins := by
  rw [extendPlan]
  unfold addition?
  cases isMapped : origin.property.isMapped with
  | false => simp
  | true =>
      cases found : targets.find? origin.name with
      | none => simp
      | some destination =>
          cases origin.read? record with
          | none => simp
          | some value =>
              simp only [Bool.not_true, Bool.false_eq_true, if_false, if_true, reduceCtorEq,
                and_false]
              split <;> simp

/-- Whether no write of a plan has the name of a source property. -/
def fresh (planned : List (PlannedWrite target)) (origin : source.Place) : Bool :=
  !planned.any fun write => write.accessor.name == (source.property origin).name

theorem addition?_reflect (record : Record source) (planned : List (PlannedWrite target))
    (origin : source.Place) :
    (addition? (.reflect target) record planned ⟨origin⟩).toList =
      if carries target record origin && fresh planned origin then writes target record [origin]
      else [] := by
  unfold addition? carries
  rw [AccessorTable.find?_reflect]
  simp only [Accessor.property, Accessor.name, Accessor.read?, Accessor.zero]
  by_cases isMapped : (source.property origin).isMapped = true
  · cases found : target.first? (source.property origin).name with
    | none => simp [isMapped, Shape.accepts, found]
    | some place =>
        have name_eq := Shape.name_of_first?_eq_some found
        by_cases isReadable : (source.property origin).isReadable = true
        · have writes_eq : writes target record [origin] = [⟨⟨place⟩, record.value origin⟩] := by
            simp [writes, found]
          simp only [isMapped, isReadable, Shape.accepts, found, writes_eq, fresh, Accessor.name,
            Accessor.property, name_eq, Option.map_some, Option.any_some, if_true, Bool.true_and]
          generalize (target = source && (record.value origin).equals _) = skipped
          generalize (target.property place).isWritable = writable
          generalize planned.any _ = taken
          cases skipped <;> cases writable <;> cases taken <;> rfl
        · simp [isReadable]
  · simp [isMapped]

theorem writes_cons (record : Record source) {origin : source.Place} {place : target.Place}
    (found : target.first? (source.property origin).name = some place)
    (origins : List source.Place) :
    writes target record (origin :: origins) =
      ⟨⟨place⟩, record.value origin⟩ :: writes target record origins := by
  simp [writes, found]

theorem exists_first_of_carries {record : Record source} {origin : source.Place}
    (carried : carries target record origin = true) :
    ∃ place, target.first? (source.property origin).name = some place ∧
      (target.property place).isWritable = true := by
  simp only [carries, Bool.and_eq_true, Shape.accepts, Option.any_eq_true] at carried
  exact carried.1.2

theorem fresh_append_writes {record : Record source} {origin : source.Place} {place : target.Place}
    (found : target.first? (source.property origin).name = some place)
    (planned : List (PlannedWrite target)) (later : source.Place) :
    fresh (planned ++ writes target record [origin]) later =
      (fresh planned later &&
        !((source.property later).name == (source.property origin).name)) := by
  have name_eq : Accessor.name ⟨place⟩ = (source.property origin).name :=
    Shape.name_of_first?_eq_some found
  rw [writes_cons record found, fresh, List.any_append, fresh, Bool.not_or]
  congr 1
  simp [writes, name_eq, eq_comm]

/-- Once the write of a property is planned, no other of its name will be. -/
theorem filter_append_writes {record : Record source} {origin : source.Place} {place : target.Place}
    (found : target.first? (source.property origin).name = some place)
    (planned : List (PlannedWrite target)) (origins : List source.Place) :
    (origins.filter fun later => carries target record later &&
        fresh (planned ++ writes target record [origin]) later) =
      (origins.filter fun later => carries target record later && fresh planned later).filter
        fun later => !((source.property later).name == (source.property origin).name) := by
  rw [List.filter_filter]
  congr 1
  funext later
  rw [fresh_append_writes found, ← Bool.and_assoc, Bool.and_comm]

theorem unmatched_iff {origin : source.Place} :
    unmatched target origin = true ↔
      (source.property origin).isMapped = true ∧
        target.first? (source.property origin).name = none := by
  rw [unmatched, Bool.and_eq_true, Option.isNone_iff_eq_none]

theorem extendPlan_cons_reflect (record : Record source) (planned : List (PlannedWrite target))
    (origin : source.Place) (origins : List (Accessor source)) :
    extendPlan (.reflect target) record planned (⟨origin⟩ :: origins) =
      if unmatched target origin = true then .error (mismatch target origin)
      else extendPlan (.reflect target) record
        (planned ++ if carries target record origin && fresh planned origin then
          writes target record [origin] else []) origins := by
  have missing_iff : ((Accessor.mk origin).property.isMapped = true ∧
      (AccessorTable.reflect target).find? (Accessor.mk origin).name = none) ↔
        unmatched target origin = true := by
    rw [unmatched_iff, AccessorTable.find?_reflect, Option.map_eq_none_iff]
    rfl
  rw [extendPlan_cons, addition?_reflect]
  exact if_congr missing_iff rfl rfl

theorem extendPlan_reflect (record : Record source) (planned : List (PlannedWrite target))
    (origins : List source.Place) :
    extendPlan (.reflect target) record planned (origins.map Accessor.mk) =
      match origins.find? (unmatched target) with
      | some origin => .error (mismatch target origin)
      | none => .ok (planned ++ writes target record (source.firsts (origins.filter fun origin =>
          carries target record origin && fresh planned origin))) := by
  -- The plan stays general: a property is planned only if no write before it has its name.
  induction origins generalizing planned with
  | nil => simp [extendPlan, writes, Shape.firsts]
  | cons origin origins ih =>
      rw [List.map_cons, extendPlan_cons_reflect, List.find?_cons]
      cases missing : unmatched target origin with
      | true => rw [if_pos rfl]
      | false =>
          rw [if_neg Bool.false_ne_true, ih, List.filter_cons]
          cases origins.find? (unmatched target) with
          | some unmatched => rfl
          | none =>
              by_cases added : (carries target record origin && fresh planned origin) = true
              · obtain ⟨place, found, -⟩ :=
                  exists_first_of_carries (Bool.and_eq_true_iff.mp added).1
                simp only [if_pos added]
                rw [filter_append_writes found, Shape.firsts_cons, writes_cons record found [],
                  List.append_assoc, writes_cons record found (source.firsts _)]
                rfl
              · simp only [if_neg added, List.append_nil]

/-- Planning fails at the first mapped source property that the target does not declare; otherwise
it plans the writes of the properties carried over. -/
theorem plan_reflect (target : Shape) {source : Shape} (record : Record source) :
    plan (.reflect target) (.reflect source) record =
      match source.places.find? (unmatched target) with
      | some origin => .error (mismatch target origin)
      | none => .ok (writes target record (carried target record)) := by
  have extended := @extendPlan_reflect target source record [] source.places
  simp only [fresh, List.any_nil, Bool.not_false, Bool.and_true, List.nil_append] at extended
  exact extended

theorem carries_of_mem_carried {record : Record source} {origin : source.Place}
    (member : origin ∈ carried target record) : carries target record origin = true :=
  (List.mem_filter.mp ((source.firsts_sublist _).subset member)).2

theorem map_name_carried (target : Shape) (record : Record source) :
    (carried target record).map (fun origin => (source.property origin).name) =
      ((source.places.filter (carries target record)).map fun origin =>
        (source.property origin).name).eraseDups :=
  source.map_name_firsts _

theorem nodup_map_name_carried (target : Shape) (record : Record source) :
    ((carried target record).map fun origin => (source.property origin).name).Nodup := by
  rw [map_name_carried]
  exact nodup_eraseDups _

end Patch

end RowMapping
