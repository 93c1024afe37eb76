import RowMapping.ChangeSet
import RowMapping.Shape.AccessorCache

/-!
# Patches

A source record is copied onto a target record property by property, and the names of the properties
written form a changeset. Planning decides what to write and depends on the source alone; it fails
if a mapped source property has no counterpart on the target. Writing then goes through the plan in
order and stops at the first value that does not convert; what it wrote before that stays.

Within one shape a source property that still has the zero of its type counts as not set and is
left out.
-/

namespace RowMapping

/-- A write that a plan calls for. -/
structure PlannedWrite (target : Shape) where
  accessor : Accessor target
  value : Value

/-- An error during a patch, with the target as the patch left it. -/
structure PatchFailure (target : Shape) where
  error : Error
  /-- The target, with the writes made so far. -/
  record : Record target

namespace Patch

variable {target source : Shape}

/-- Continue a plan with further source properties. -/
def extendPlan (targets : AccessorTable target) (record : Record source)
    (planned : List (PlannedWrite target)) :
    List (Accessor source) → Except Error (List (PlannedWrite target))
  | [] => .ok planned
  | origin :: origins =>
      if !origin.property.isMapped then extendPlan targets record planned origins
      else
        match targets.find? origin.name with
        | none => .error (.ofDefect target.name (.undeclaredOnTarget origin.name source.name))
        | some destination =>
            match origin.read? record with
            | none => extendPlan targets record planned origins
            | some value =>
                if (target = source && value.equals origin.zero)
                    || !destination.property.isWritable
                    || planned.any fun write => write.accessor.name == destination.name then
                  extendPlan targets record planned origins
                else extendPlan targets record (planned ++ [⟨destination, value⟩]) origins

/-- The writes that copy a source record onto a target, in order. -/
def plan (targets : AccessorTable target) (sources : AccessorTable source)
    (record : Record source) : Except Error (List (PlannedWrite target)) :=
  extendPlan targets record [] sources.accessors

/-- Make planned writes and record their names. -/
def write (changes : ChangeSet target) :
    List (PlannedWrite target) → Except (PatchFailure target) (ChangeSet target)
  | [] => .ok changes
  | planned :: rest =>
      match planned.accessor.write changes.target planned.value with
      | .error error => .error ⟨error, changes.target⟩
      | .ok written =>
          let changes := changes.withTarget (written.getD changes.target)
          write (changes.record planned.accessor.name).2 rest

/-- The tables of both shapes, and the cache that remembers them. -/
def tables (cache : AccessorCache) (target source : Shape) :
    (AccessorTable target × AccessorTable source) × AccessorCache :=
  let (targets, cache) := cache.request target
  let (sources, cache) := cache.request source
  ((targets, sources), cache)

/-- The names that applying a source record to a target would record. -/
def changes (cache : AccessorCache) (target : Shape) (record : Record source) :
    Except Error (List String) × AccessorCache :=
  let ((targets, sources), cache) := tables cache target source
  ((plan targets sources record).map (·.map (·.accessor.name)), cache)

/-- Copy a source record onto a target record. -/
def apply (cache : AccessorCache) (old : Record target) (record : Record source) :
    Except (PatchFailure target) (ChangeSet target) × AccessorCache :=
  let ((targets, sources), cache) := tables cache target source
  match plan targets sources record with
  | .error error => (.error ⟨error, old⟩, cache)
  | .ok planned => (write (.on old) planned, cache)

end Patch

end RowMapping
