import RowMapping.Shape.Record

/-!
# Changesets

A changeset pairs a record with the names of the properties that have changed. Names keep the order
in which they were first recorded and never repeat.
-/

namespace RowMapping

/-- The changed names of a record. -/
structure ChangeSet (shape : Shape) where
  /-- The record that has changed. -/
  target : Record shape
  /-- The recorded names, oldest first. -/
  names : List String
  /-- No name is recorded twice. -/
  nodup_names : names.Nodup

namespace ChangeSet

variable {shape : Shape}

/-- The changeset of a record that has not changed. -/
def on (target : Record shape) : ChangeSet shape := ⟨target, [], by simp⟩

def contains (changes : ChangeSet shape) (name : String) : Bool := changes.names.contains name

def size (changes : ChangeSet shape) : Nat := changes.names.length

def isEmpty (changes : ChangeSet shape) : Bool := changes.names.isEmpty

/-- Record a name. The answer tells whether the name is new. -/
def record (changes : ChangeSet shape) (name : String) : Bool × ChangeSet shape :=
  if known : name ∈ changes.names then (false, changes)
  else
    (true,
      { changes with
        names := changes.names ++ [name]
        nodup_names := by
          refine List.nodup_append.mpr ⟨changes.nodup_names, by simp, ?_⟩
          intro earlier member later isName
          simp only [List.mem_singleton] at isName
          rintro rfl
          exact known (isName ▸ member) })

/-- Record names one after the other, with the answer to each. -/
def recordAll (changes : ChangeSet shape) : List String → List Bool × ChangeSet shape
  | [] => ([], changes)
  | name :: names =>
      let (isNew, changes) := changes.record name
      let (answers, changes) := changes.recordAll names
      (isNew :: answers, changes)

/-- The changeset of the same names on another record. -/
def withTarget (changes : ChangeSet shape) (target : Record shape) : ChangeSet shape :=
  { changes with target }

@[ext]
theorem ext {left right : ChangeSet shape} (target_eq : left.target = right.target)
    (names_eq : left.names = right.names) : left = right := by
  cases left
  cases right
  cases target_eq
  cases names_eq
  rfl

theorem size_eq_length (changes : ChangeSet shape) : changes.size = changes.names.length := rfl

theorem isEmpty_iff (changes : ChangeSet shape) : changes.isEmpty = true ↔ changes.names = [] :=
  List.isEmpty_iff

theorem contains_iff (changes : ChangeSet shape) (name : String) :
    changes.contains name = true ↔ name ∈ changes.names :=
  List.contains_iff_mem

theorem names_record (changes : ChangeSet shape) (name : String) :
    (changes.record name).2.names =
      if name ∈ changes.names then changes.names else changes.names ++ [name] := by
  by_cases known : name ∈ changes.names <;> simp [record, known]

theorem record_fst_iff (changes : ChangeSet shape) (name : String) :
    (changes.record name).1 = true ↔ name ∉ changes.names := by
  by_cases known : name ∈ changes.names <;> simp [record, known]

@[simp] theorem target_record (changes : ChangeSet shape) (name : String) :
    (changes.record name).2.target = changes.target := by
  by_cases known : name ∈ changes.names <;> simp [record, known]

end ChangeSet

end RowMapping
