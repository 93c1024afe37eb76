import RowMapping.Proofs.Catalog.Erasure
import RowMapping.Shape.Accessor

/-!
# Accessor tables that index positions

The index of an accessor table may hold the positions of accessors in the list instead of the
accessors. Positions are entered from first to last, and a name that has one keeps it. So a name is
found at the first position that has it, every position in the index is one of the list, and with
the accessors in their places the index is that of the table itself.
-/

namespace RowMapping

/-- The accessors of a shape, and where in the list each name is found. -/
structure PositionTable (shape : Shape) where
  /-- One accessor for every declaration, in order. -/
  accessors : List (Accessor shape)
  /-- The position under which a name is found. -/
  index : Catalog fun _ : String => Nat

namespace PositionTable

variable {shape : Shape}

/-- Positions entered under the names of accessors, one after the other, from some position on. -/
def enterAll (accessors : List (Accessor shape)) (position : Nat)
    (index : Catalog fun _ : String => Nat) : Catalog fun _ : String => Nat :=
  (accessors.zipIdx position).foldl (fun index entry => index.enter entry.1.name entry.2) index

/-- The table of some accessors. -/
def ofList (accessors : List (Accessor shape)) : PositionTable shape :=
  ⟨accessors, enterAll accessors 0 .empty⟩

def reflect (shape : Shape) : PositionTable shape := ofList (shape.places.map Accessor.mk)

def find? (table : PositionTable shape) (name : String) : Option (Accessor shape) :=
  (table.index.find? name).bind fun position => table.accessors[position]?

/-- The table that has the accessors themselves in its index. -/
def resolve (table : PositionTable shape) : AccessorTable shape :=
  ⟨table.accessors, table.index.filterMap fun _ position => table.accessors[position]?⟩

theorem find?_resolve (table : PositionTable shape) (name : String) :
    table.resolve.find? name = table.find? name :=
  table.index.find?_filterMap _ name

/-! ## What is in the index -/

theorem find?_enterAll (accessors : List (Accessor shape)) (position : Nat)
    (index : Catalog fun _ : String => Nat) (name : String) :
    (enterAll accessors position index).find? name =
      (index.find? name).or
        ((accessors.findIdx? fun accessor => accessor.name == name).map (· + position)) := by
  -- What has been entered so far comes first; the rest is searched from the next position on.
  unfold enterAll
  induction accessors generalizing position index with
  | nil => simp
  | cons accessor accessors ih =>
      rw [List.zipIdx_cons, List.foldl_cons, ih, List.findIdx?_cons]
      by_cases same : accessor.name = name
      · subst same
        rw [Catalog.find?_enter_self]
        cases index.find? accessor.name <;> simp
      · have differs : (accessor.name == name) = false := by simp [same]
        rw [Catalog.find?_enter_of_ne same, differs]
        cases accessors.findIdx? fun accessor => accessor.name == name with
        | none => rfl
        | some later =>
            have further : later + (position + 1) = later + 1 + position := by omega
            simp [further]

/-- A name is found at the first position that has it. -/
theorem find?_index_ofList (accessors : List (Accessor shape)) (name : String) :
    (ofList accessors).index.find? name =
      accessors.findIdx? fun accessor => accessor.name == name := by
  rw [ofList, find?_enterAll, Catalog.find?_empty, Option.none_or]
  simp

theorem lt_length_of_find?_index {accessors : List (Accessor shape)} {name : String}
    {position : Nat} (found : (ofList accessors).index.find? name = some position) :
    position < accessors.length := by
  rw [find?_index_ofList] at found
  exact (List.findIdx?_eq_some_iff_getElem.mp found).1

/-! ## The accessors in the places of their positions -/

theorem lt_of_find?_enter {index : Catalog fun _ : String => Nat} {bound : Nat}
    (bounded : ∀ name position, index.find? name = some position → position < bound)
    {entered name : String} {position : Nat}
    (found : (index.enter entered bound).find? name = some position) : position < bound + 1 := by
  by_cases same : entered = name
  · subst same
    rw [Catalog.find?_enter_self, Option.some.injEq] at found
    cases earlier : index.find? entered with
    | none =>
        rw [earlier] at found
        exact found ▸ Nat.lt_succ_self bound
    | some known =>
        rw [earlier] at found
        exact found ▸ Nat.lt_succ_of_lt (bounded entered known earlier)
  · rw [Catalog.find?_enter_of_ne same] at found
    exact Nat.lt_succ_of_lt (bounded name position found)

/-- Entering positions in a list is entering the accessors there. -/
theorem filterMap_enterAll (before after : List (Accessor shape))
    (index : Catalog fun _ : String => Nat)
    (bounded : ∀ name position, index.find? name = some position → position < before.length) :
    (enterAll after before.length index).filterMap
        (fun _ position => (before ++ after)[position]?) =
      after.foldl (fun index accessor => index.enter accessor.name accessor)
        (index.filterMap fun _ position => (before ++ after)[position]?) := by
  induction after generalizing before index with
  | nil => rfl
  | cons accessor after ih =>
      have bounded_next : ∀ name position,
          (index.enter accessor.name before.length).find? name = some position →
            position < (before ++ [accessor]).length := by
        intro name position found
        rw [List.length_append]
        exact lt_of_find?_enter bounded found
      have rest := ih (before ++ [accessor]) _ bounded_next
      rw [List.length_append, List.length_singleton, ← List.append_cons] at rest
      have accessor_eq : (before ++ accessor :: after)[before.length]? = some accessor := by simp
      rw [List.foldl_cons, ← Catalog.filterMap_enter _ _ accessor_eq]
      · exact rest
      · intro position found
        have before_lt := bounded accessor.name position found
        rw [ne_eq, List.getElem?_eq_none_iff, List.length_append]
        omega

/-- With the accessors in the places of their positions the index is that of the accessors. -/
theorem resolve_ofList (accessors : List (Accessor shape)) :
    (ofList accessors).resolve = ⟨accessors, AccessorTable.indexOf accessors⟩ := by
  have resolved := filterMap_enterAll [] accessors .empty (by simp)
  exact congrArg (AccessorTable.mk accessors) resolved

theorem resolve_reflect (shape : Shape) : (reflect shape).resolve = .reflect shape :=
  resolve_ofList _

end PositionTable

end RowMapping
