import RowMapping.Proofs.Distinct
import RowMapping.Registry.Basic

/-!
# What a registry remembers

The first request for a key decides: its dialect gives the build, and all requests for the key get
the result of that build. What a registry holds can therefore be told from the requests that it has
received: their keys, each once, and for every key the build for the first of them.
-/

namespace RowMapping

namespace Registry

/-- A model and a dialect that statements are asked for. -/
structure Inquiry where
  model : Model
  dialect : Dialect

namespace Inquiry

def key (inquiry : Inquiry) : Key := keyOf inquiry.model inquiry.dialect

/-- What a build of its own would answer. -/
def build (inquiry : Inquiry) : Except Error StatementSet :=
  StatementSet.build inquiry.model inquiry.dialect

end Inquiry

/-- The first of some inquiries that concerns a key. -/
def first? (received : List Inquiry) (key : Key) : Option Inquiry :=
  received.find? fun inquiry => inquiry.key == key

theorem mem_of_first?_eq_some {received : List Inquiry} {key : Key} {first : Inquiry}
    (found : first? received key = some first) : first ∈ received ∧ first.key = key :=
  ⟨List.mem_of_find?_eq_some found, by simpa using List.find?_some found⟩

theorem first?_eq_none_iff {received : List Inquiry} {key : Key} :
    first? received key = none ↔ ∀ inquiry ∈ received, inquiry.key ≠ key := by
  simp [first?]

theorem first?_append_singleton (received : List Inquiry) (inquiry : Inquiry) (key : Key) :
    first? (received ++ [inquiry]) key =
      (first? received key).or (if inquiry.key = key then some inquiry else none) := by
  simp [first?, List.find?_append, List.find?_singleton]

/-! ## One request -/

section

variable {registry : Registry} {model : Model} {dialect : Dialect}

theorem request_eq (registry : Registry) (model : Model) (dialect : Dialect) :
    registry.request model dialect =
      (registry.reserve (keyOf model dialect)).fill model dialect := by
  unfold request
  split
  · rename_i known
    obtain ⟨slot, found⟩ := Option.isSome_iff_exists.mp known
    rw [reserve, Catalog.enter_of_find?_eq_some found]
  · rfl

theorem built?_reserve (registry : Registry) (key other : Key) :
    (registry.reserve key).built? other = registry.built? other := by
  unfold built? reserve
  by_cases same : key = other
  · subst same
    rw [Catalog.find?_enter_self]
    cases registry.slots.find? key <;> rfl
  · rw [Catalog.find?_enter_of_ne same]

theorem fill_fst (registry : Registry) (model : Model) (dialect : Dialect) :
    (registry.fill model dialect).1 =
      ((registry.built? (keyOf model dialect)).map (·.result)).getD
        (StatementSet.build model dialect) := by
  unfold fill
  cases registry.built? (keyOf model dialect) <;> rfl

theorem keys_fill (registry : Registry) (model : Model) (dialect : Dialect) :
    (registry.fill model dialect).2.slots.keys = registry.slots.keys := by
  unfold fill
  cases registry.built? (keyOf model dialect) with
  | some built => rfl
  | none => exact Catalog.keys_revise _ _ _

/-- What is answered from a slot stays in it. -/
theorem result_fill_self (present : keyOf model dialect ∈ registry.slots.keys) :
    ((registry.fill model dialect).2.built? (keyOf model dialect)).map (·.result) =
      some (registry.fill model dialect).1 := by
  unfold fill
  cases filled : registry.built? (keyOf model dialect) with
  | some built => exact congrArg (Option.map (·.result)) filled
  | none =>
      have slotted : (registry.slots.find? (keyOf model dialect)).isSome :=
        Catalog.contains_iff.mpr present
      obtain ⟨slot, found⟩ := Option.isSome_iff_exists.mp slotted
      exact congrArg (Option.map (·.result) ∘ Option.join) (Catalog.find?_revise_self found)

theorem built?_fill_of_ne {other : Key} (different : keyOf model dialect ≠ other) :
    (registry.fill model dialect).2.built? other = registry.built? other := by
  unfold fill
  cases registry.built? (keyOf model dialect) with
  | some built => rfl
  | none => exact congrArg Option.join (Catalog.find?_revise_of_ne different)

/-- Whatever has been requested before, the answer is a build for the model under a dialect of the
family. -/
theorem exists_request_fst (registry : Registry) (model : Model) (dialect : Dialect) :
    ∃ used : Dialect, used.family = dialect.family ∧
      (registry.request model dialect).1 = StatementSet.build model used := by
  rw [request_eq, fill_fst, built?_reserve]
  cases registry.built? (keyOf model dialect) with
  | none => exact ⟨dialect, rfl, rfl⟩
  | some built => exact ⟨built.dialect, built.family_dialect, built.result_eq⟩

end

/-! ## Any number of requests -/

/-- The registry holds what it must after some inquiries, oldest first. -/
structure Remembers (registry : Registry) (received : List Inquiry) : Prop where
  /-- There is a slot for every key that they concern. -/
  keys_eq : registry.slots.keys = (received.map (·.key)).eraseDups
  /-- The slot of a key has the answer to the first that concerns it. -/
  result_eq : ∀ key,
    (registry.built? key).map (·.result) = (first? received key).map (·.build)

namespace Remembers

variable {registry : Registry} {received : List Inquiry}

theorem empty : Registry.empty.Remembers [] where
  keys_eq := rfl
  result_eq _ := rfl

theorem request_fst (remembers : registry.Remembers received) (inquiry : Inquiry) :
    (first? (received ++ [inquiry]) inquiry.key).map (·.build) =
      some (registry.request inquiry.model inquiry.dialect).1 := by
  rw [request_eq, fill_fst, built?_reserve, first?_append_singleton, if_pos rfl]
  have result_eq := remembers.result_eq inquiry.key
  rw [Inquiry.key] at result_eq ⊢
  rw [result_eq]
  cases first? received (keyOf inquiry.model inquiry.dialect) <;> rfl

theorem request_snd (remembers : registry.Remembers received) (inquiry : Inquiry) :
    (registry.request inquiry.model inquiry.dialect).2.Remembers (received ++ [inquiry]) where
  keys_eq := by
    rw [request_eq, keys_fill, reserve, Catalog.keys_enter, remembers.keys_eq, List.map_append,
      List.map_singleton, eraseDups_append_singleton, Inquiry.key]
  result_eq := by
    intro key
    -- The slot that is asked for keeps what has just been answered; the others are not touched.
    by_cases same : inquiry.key = key
    · subst same
      have present : inquiry.key ∈ (registry.reserve inquiry.key).slots.keys := by
        rw [reserve, Catalog.keys_enter]
        split
        · assumption
        · exact List.mem_append_right _ List.mem_cons_self
      rw [remembers.request_fst, request_eq]
      exact result_fill_self present
    · rw [request_eq, built?_fill_of_ne same, built?_reserve, first?_append_singleton,
        if_neg same, Option.or_none]
      exact remembers.result_eq key

theorem contains_iff (remembers : registry.Remembers received) {model : Model} {dialect : Dialect} :
    registry.contains model dialect = true ↔
      ∃ inquiry ∈ received, inquiry.key = keyOf model dialect := by
  rw [contains, Catalog.contains_iff, remembers.keys_eq, List.mem_eraseDups, List.mem_map]

theorem size_eq (remembers : registry.Remembers received) :
    registry.size = (received.map (·.key)).eraseDups.length := by
  rw [size, Catalog.size_eq_length_keys, remembers.keys_eq]

end Remembers

end Registry

end RowMapping
