import RowMapping.Proofs.Patch.Writing

/-!
# Sequences of patches

Records of any shapes are patched into one target, one after the other. What each of them changes is
fixed before the first patch, and a cell ends up with the value of the last record that changes it.
So a record may as well be patched in twice in a row, and two neighbours that change different names
may change places. All this is about cells: no patch writes a computed property, but what it reads as
follows the cells that it is computed from.
-/

namespace RowMapping

/-- A record to patch in, of any shape. -/
structure Payload where
  shape : Shape
  record : Record shape

namespace Payload

variable {target : Shape}

/-- The names that a payload changes on a target. -/
def names (target : Shape) (payload : Payload) : List String :=
  (Patch.carried target payload.record).map fun origin => (payload.shape.property origin).name

/-- A name that the payload changes leads to the cell. -/
def Reaches (payload : Payload) (place : target.Place) : Prop :=
  ∃ name ∈ payload.names target, target.first? name = some place

/-- The payload has a value for the cell that converts into the content. -/
def Delivers (payload : Payload) (place : target.Place)
    (content : (target.property place).type.Carrier) : Prop :=
  ∃ origin ∈ Patch.carried target payload.record,
    target.first? (payload.shape.property origin).name = some place ∧
      (target.property place).type.ofValue (payload.record.value origin) = .ok content

theorem reaches_iff {payload : Payload} {place : target.Place} :
    payload.Reaches place ↔ ∃ origin ∈ Patch.carried target payload.record,
      target.first? (payload.shape.property origin).name = some place := by
  simp only [Reaches, names, List.mem_map, exists_exists_and_eq_and]

theorem not_reaches_of_disjoint {left right : Payload}
    (disjoint : (left.names target).Disjoint (right.names target)) {place : target.Place}
    (reached : left.Reaches place) : ¬ right.Reaches place := by
  rintro ⟨name, changed, found⟩
  obtain ⟨other, other_changed, other_found⟩ := reached
  have same_name : other = name :=
    (Shape.name_of_first?_eq_some other_found).symm.trans (Shape.name_of_first?_eq_some found)
  exact disjoint (same_name ▸ other_changed) changed

end Payload

namespace Patch

variable {target : Shape}

/-- Patch payloads into a target, one after the other. Each success adds the names that it has
recorded. -/
def applyAll (cache : AccessorCache) (old : Record target) : List Payload →
    Except (PatchFailure target) (List (List String) × Record target) × AccessorCache
  | [] => (.ok ([], old), cache)
  | payload :: payloads =>
      match apply cache old payload.record with
      | (.error failure, cache) => (.error failure, cache)
      | (.ok changes, cache) =>
          let (rest, cache) := applyAll cache changes.target payloads
          (rest.map (Prod.map (changes.names :: ·) id), cache)

section

variable {cache : AccessorCache} {before after : Record target} {payload : Payload}
  {payloads : List Payload} {recorded : List (List String)}

theorem apply_fst_congr (cache other : AccessorCache) (old : Record target) {source : Shape}
    (record : Record source) : (apply cache old record).1 = (apply other old record).1 := by
  rw [apply_fst, apply_fst]

theorem applyAll_cons_fst (cache : AccessorCache) (old : Record target) (payload : Payload)
    (payloads : List Payload) :
    (applyAll cache old (payload :: payloads)).1 =
      match (apply cache old payload.record).1 with
      | .error failure => .error failure
      | .ok changes =>
          (applyAll (apply cache old payload.record).2 changes.target payloads).1.map
            (Prod.map (changes.names :: ·) id) := by
  rw [applyAll]
  rcases apply cache old payload.record with ⟨failure | changes, left⟩ <;> rfl

theorem applyAll_fst_congr (cache other : AccessorCache) (old : Record target)
    (payloads : List Payload) :
    (applyAll cache old payloads).1 = (applyAll other old payloads).1 := by
  induction payloads generalizing cache other old with
  | nil => rfl
  | cons payload payloads ih =>
      rw [applyAll_cons_fst, applyAll_cons_fst, apply_fst_congr cache other]
      cases (apply other old payload.record).1 with
      | error failure => rfl
      | ok changes =>
          dsimp only
          rw [ih _ (apply other old payload.record).2]

/-- A run goes through if its first patch does and the rest does from there. -/
theorem applyAll_cons_eq_ok_iff :
    (applyAll cache before (payload :: payloads)).1 = .ok (recorded, after) ↔
      ∃ changes rest, (apply cache before payload.record).1 = .ok changes ∧
        (applyAll cache changes.target payloads).1 = .ok (rest, after) ∧
          recorded = changes.names :: rest := by
  constructor
  · intro ran
    rw [applyAll_cons_fst] at ran
    cases applied : (apply cache before payload.record).1 with
    | error failure =>
        rw [applied] at ran
        cases ran
    | ok changes =>
        rw [applied] at ran
        obtain ⟨⟨rest, finish⟩, rest_ran, result⟩ := map_eq_ok ran
        cases result
        exact ⟨changes, rest, rfl, (applyAll_fst_congr _ _ _ _).trans rest_ran, rfl⟩
  · rintro ⟨changes, rest, applied, rest_ran, rfl⟩
    rw [applyAll_cons_fst, applied]
    dsimp only
    rw [applyAll_fst_congr _ cache, rest_ran]
    rfl

theorem recorded_of_applyAll (ran : (applyAll cache before payloads).1 = .ok (recorded, after)) :
    recorded = payloads.map (·.names target) := by
  induction payloads generalizing before recorded with
  | nil =>
      cases ran
      rfl
  | cons payload payloads ih =>
      obtain ⟨changes, rest, applied, rest_ran, rfl⟩ := applyAll_cons_eq_ok_iff.mp ran
      rw [List.map_cons, ← ih rest_ran, names_of_apply applied]
      rfl

/-! ## Where the content of a cell comes from -/

/-- Where a cell of a target has its content from, once payloads have been patched in. -/
inductive Settled (payloads : List Payload) (before after : Record target)
    (place : target.Place) : Prop
  /-- The last payload that reaches the cell has filled it. -/
  | filled {earlier later : List Payload} {payload : Payload}
      (split : payloads = earlier ++ payload :: later)
      (delivers : payload.Delivers place (after.cell place))
      (last : ∀ other ∈ later, ¬ other.Reaches place)
  /-- No payload reaches the cell, and it is as it was. -/
  | kept (unreached : ∀ payload ∈ payloads, ¬ payload.Reaches place)
      (cell_eq : after.cell place = before.cell place)

theorem not_reaches_iff {place : target.Place} :
    ¬ payload.Reaches place ↔ ∀ origin ∈ carried target payload.record,
      target.first? (payload.shape.property origin).name ≠ some place := by
  rw [Payload.reaches_iff]
  push Not
  rfl

theorem Copies.cell_eq_of_not_reaches
    (copies : Copies payload.record (carried target payload.record) before after)
    {place : target.Place} (unreached : ¬ payload.Reaches place) :
    after.cell place = before.cell place :=
  copies.cell_eq place (not_reaches_iff.mp unreached)

theorem Settled.cons {middle : Record target}
    (copies : Copies payload.record (carried target payload.record) before middle)
    {place : target.Place} (settled : Settled payloads middle after place) :
    Settled (payload :: payloads) before after place := by
  cases settled with
  | filled split delivers last =>
      rw [split]
      exact .filled (List.cons_append).symm delivers last
  | kept unreached cell_eq =>
      by_cases reached : payload.Reaches place
      · obtain ⟨origin, member, found⟩ := Payload.reaches_iff.mp reached
        refine .filled (List.nil_append _).symm ⟨origin, member, found, ?_⟩ unreached
        rw [cell_eq]
        exact copies.ofValue_eq origin member place found
      · exact .kept (List.forall_mem_cons.mpr ⟨reached, unreached⟩)
          (cell_eq.trans (copies.cell_eq_of_not_reaches reached))

theorem settled_of_run (ran : (applyAll cache before payloads).1 = .ok (recorded, after))
    (place : target.Place) : Settled payloads before after place := by
  induction payloads generalizing before recorded with
  | nil =>
      cases ran
      exact .kept (fun _ member => absurd member List.not_mem_nil) rfl
  | cons payload payloads ih =>
      obtain ⟨changes, rest, applied, rest_ran, -⟩ := applyAll_cons_eq_ok_iff.mp ran
      exact (ih rest_ran).cons (copies_of_apply applied)

/-! ## Repeated and exchanged payloads -/

/-- A patch that is made again records the same and leaves the target as it is. -/
theorem apply_again {source : Shape} {record : Record source} {changes : ChangeSet target}
    (applied : (apply cache before record).1 = .ok changes) (other : AccessorCache) :
    (apply other changes.target record).1 = .ok changes := by
  obtain ⟨again, reapplied⟩ := exists_apply_eq_ok applied other changes.target
  have names_eq : again.names = changes.names :=
    (names_of_apply reapplied).trans (names_of_apply applied).symm
  have target_eq : again.target = changes.target := by
    have first := copies_of_apply applied
    have second := copies_of_apply reapplied
    exact Record.ext (fun place => second.cell_congr first (first.cell_eq place)) second.getters_eq
  rw [reapplied, ChangeSet.ext target_eq names_eq]

/-- Copies into different cells can be made in either order. -/
theorem Copies.comm {left right : Payload} {middle other finish : Record target}
    (leftFirst : Copies left.record (carried target left.record) before middle)
    (rightSecond : Copies right.record (carried target right.record) middle after)
    (rightFirst : Copies right.record (carried target right.record) before other)
    (leftSecond : Copies left.record (carried target left.record) other finish)
    (disjoint : (left.names target).Disjoint (right.names target)) : after = finish := by
  have getters_eq : after.getters = finish.getters := by
    rw [rightSecond.getters_eq, leftFirst.getters_eq, leftSecond.getters_eq, rightFirst.getters_eq]
  refine Record.ext (fun place => ?_) getters_eq
  by_cases reached : left.Reaches place
  · calc
      after.cell place = middle.cell place :=
        rightSecond.cell_eq_of_not_reaches (Payload.not_reaches_of_disjoint disjoint reached)
      _ = finish.cell place :=
        leftFirst.cell_congr leftSecond fun unwritten =>
          absurd reached (not_reaches_iff.mpr unwritten)
  · calc
      after.cell place = other.cell place :=
        rightSecond.cell_congr rightFirst fun _ => leftFirst.cell_eq_of_not_reaches reached
      _ = finish.cell place := (leftSecond.cell_eq_of_not_reaches reached).symm

theorem applyAll_repeated {later : List Payload}
    (ran : (applyAll cache before (payload :: later)).1 = .ok (recorded, after)) :
    ∃ again, (applyAll cache before (payload :: payload :: later)).1 = .ok (again, after) := by
  obtain ⟨changes, rest, applied, rest_ran, -⟩ := applyAll_cons_eq_ok_iff.mp ran
  have reapplied := apply_again applied cache
  have rerun := applyAll_cons_eq_ok_iff.mpr ⟨changes, rest, reapplied, rest_ran, rfl⟩
  exact ⟨_, applyAll_cons_eq_ok_iff.mpr ⟨changes, _, applied, rerun, rfl⟩⟩

theorem applyAll_exchanged {left right : Payload} {later : List Payload}
    (disjoint : (left.names target).Disjoint (right.names target))
    (ran : (applyAll cache before (left :: right :: later)).1 = .ok (recorded, after)) :
    ∃ again, (applyAll cache before (right :: left :: later)).1 = .ok (again, after) := by
  obtain ⟨leftChanges, leftRest, left_applied, left_ran, -⟩ := applyAll_cons_eq_ok_iff.mp ran
  obtain ⟨rightChanges, rest, right_applied, rest_ran, -⟩ := applyAll_cons_eq_ok_iff.mp left_ran
  obtain ⟨firstChanges, first_applied⟩ := exists_apply_eq_ok right_applied cache before
  obtain ⟨secondChanges, second_applied⟩ :=
    exists_apply_eq_ok left_applied cache firstChanges.target
  have same_target : rightChanges.target = secondChanges.target :=
    (copies_of_apply left_applied).comm (copies_of_apply right_applied)
      (copies_of_apply first_applied) (copies_of_apply second_applied) disjoint
  rw [same_target] at rest_ran
  have rerun := applyAll_cons_eq_ok_iff.mpr ⟨secondChanges, rest, second_applied, rest_ran, rfl⟩
  exact ⟨_, applyAll_cons_eq_ok_iff.mpr ⟨firstChanges, _, first_applied, rerun, rfl⟩⟩

/-- What payloads can be replaced by from any target on, they can be replaced by in a sequence. -/
theorem applyAll_append {earlier some others : List Payload}
    (replaced : ∀ {middle : Record target} {recorded : List (List String)},
      (applyAll cache middle some).1 = .ok (recorded, after) →
        ∃ again, (applyAll cache middle others).1 = .ok (again, after))
    (ran : (applyAll cache before (earlier ++ some)).1 = .ok (recorded, after)) :
    (applyAll cache before (earlier ++ others)).1 =
      .ok ((earlier ++ others).map (·.names target), after) := by
  have goes_through : ∃ again,
      (applyAll cache before (earlier ++ others)).1 = .ok (again, after) := by
    induction earlier generalizing before recorded with
    | nil => exact replaced ran
    | cons payload earlier ih =>
        obtain ⟨changes, rest, applied, rest_ran, -⟩ := applyAll_cons_eq_ok_iff.mp ran
        obtain ⟨again, rerun⟩ := ih rest_ran
        exact ⟨_, applyAll_cons_eq_ok_iff.mpr ⟨changes, again, applied, rerun, rfl⟩⟩
  obtain ⟨again, rerun⟩ := goes_through
  rw [rerun, recorded_of_applyAll rerun]

/-- Where all patches of a sequence go through, each has recorded what its payload changes, and
every cell has its content from the last payload that reaches it. A payload of the sequence may be
repeated, and two neighbours that change different names may be exchanged. -/
theorem settled_of_applyAll (ran : (applyAll cache before payloads).1 = .ok (recorded, after)) :
    recorded = payloads.map (·.names target) ∧
      (∀ place, Settled payloads before after place) ∧
      (∀ earlier payload later, payloads = earlier ++ payload :: later →
        let repeated := earlier ++ payload :: payload :: later
        (applyAll cache before repeated).1 = .ok (repeated.map (·.names target), after)) ∧
      ∀ earlier left right later, payloads = earlier ++ left :: right :: later →
        (left.names target).Disjoint (right.names target) →
          let exchanged := earlier ++ right :: left :: later
          (applyAll cache before exchanged).1 = .ok (exchanged.map (·.names target), after) := by
  refine ⟨recorded_of_applyAll ran, settled_of_run ran, ?_, ?_⟩
  · rintro earlier payload later rfl
    exact applyAll_append applyAll_repeated ran
  · rintro earlier left right later rfl disjoint
    exact applyAll_append (applyAll_exchanged disjoint) ran

end

def profile : Shape where
  name := "Profile"
  properties :=
    [{ name := "Name", type := .text }, { name := "Age", type := .integer .thirtyTwo }]

/-- A name alone, in a shape of its own. -/
def signed : Payload where
  shape := ⟨"Signature", [{ name := "Name", type := .text }]⟩
  record := (Record.blank _).put ⟨0, Nat.one_pos⟩ "Ada"

/-- A profile with an age and no name. -/
def aged : Payload where
  shape := profile
  record :=
    let age : Int32 := 36
    (Record.blank profile).put ⟨1, Nat.one_lt_two⟩ age

/-- The profile without a name does not erase the name that came before, or after. -/
theorem settled_of_applyAll_profile :
    ∃ after : Record profile,
      (applyAll .empty (.blank profile) [signed, aged]).1 = .ok ([["Name"], ["Age"]], after) ∧
      (applyAll .empty (.blank profile) [signed, aged, aged]).1 =
        .ok ([["Name"], ["Age"], ["Age"]], after) ∧
      (applyAll .empty (.blank profile) [aged, signed]).1 = .ok ([["Age"], ["Name"]], after) ∧
      Settled [signed, aged] (.blank profile) after ⟨0, Nat.two_pos⟩ := by
  obtain ⟨after, ran⟩ : ∃ after : Record profile,
      (applyAll .empty (.blank profile) [signed, aged]).1 = .ok ([["Name"], ["Age"]], after) :=
    ⟨_, rfl⟩
  have apart : ∀ name ∈ signed.names profile, name ∉ aged.names profile := by decide
  obtain ⟨-, settled, repeated, exchanged⟩ := settled_of_applyAll ran
  exact ⟨after, ran, repeated [signed] aged [] rfl,
    exchanged [] signed aged [] rfl fun name => apart name, settled _⟩

end Patch

end RowMapping
