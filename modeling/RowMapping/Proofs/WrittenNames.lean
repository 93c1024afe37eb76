import RowMapping.Proofs.Gateway.Operation

/-!
# Naming all that is written

The texts on whole records are rendered when a statement set is built, those on named properties
whenever they are asked for. If the names are those of all properties that a whole record writes, in
the order of declaration, the two come to the same: in their texts, in what these bind and in what a
gateway answers.
-/

namespace RowMapping

/-! ## Forms that come to the same -/

/-- Whatever the dialect, two forms on a model have one text and bind the same properties, or the
same stands in the way of both. -/
structure StatementForm.Agree (left right : StatementForm) (model : Model) : Prop where
  obstacle_eq : model.obstacle? left = model.obstacle? right
  command_eq : ∀ path, model.command path left = model.command path right
  listed_eq : model.listed left = model.listed right

namespace StatementForm.Agree

variable {left right : StatementForm} {model : Model} {mapping : TableMapping}
  {traits : DialectTraits}

theorem write_eq (agree : left.Agree right model) (reflects : mapping.Reflects model traits)
    (dialect : Dialect) :
    (StatementSet.ofMapping mapping dialect).write left =
      (StatementSet.ofMapping mapping dialect).write right := by
  rw [reflects.write_eq, reflects.write_eq, agree.obstacle_eq, agree.command_eq]

theorem binds_eq (agree : left.Agree right model) (reflects : mapping.Reflects model traits)
    {dialect : Dialect} {text : String}
    (written : (StatementSet.ofMapping mapping dialect).write right = .ok text) :
    (StatementSet.ofMapping mapping dialect).binds left =
      (StatementSet.ofMapping mapping dialect).binds right := by
  have free := reflects.obstacle?_of_write written
  rw [reflects.binds_eq dialect (agree.obstacle_eq.trans free), reflects.binds_eq dialect free,
    agree.listed_eq]

theorem draft_eq (agree : left.Agree right model) (reflects : mapping.Reflects model traits)
    (dialect : Dialect) :
    (StatementSet.ofMapping mapping dialect).draft left =
      (StatementSet.ofMapping mapping dialect).draft right := by
  rw [reflects.draft_eq, reflects.draft_eq, agree.obstacle_eq, agree.command_eq, agree.listed_eq]

end StatementForm.Agree

namespace Model

open TableMapping

variable {model : Model}

theorem named_written (sound : Sound model.mapped) :
    model.named (model.written.map (·.name)) = model.written :=
  Shape.named_map_name sound fun _ => model.mem_mapped_of_mem_written

theorem unknown?_written : model.unknown? (model.written.map (·.name)) = none :=
  unknown?_eq_none_iff.mpr (Shape.unmapped?_map_name fun _ => model.mem_mapped_of_mem_written)

theorem agree_insertOf_written (sound : Sound model.mapped) :
    (StatementForm.insertOf (model.written.map (·.name))).Agree (.canonical .insert) model where
  obstacle_eq := unknown?_written
  command_eq path := by simp only [Shape.command, named_written sound]
  listed_eq := (eraseDups_of_nodup (sound.nodup_map_name List.filter_sublist)).symm

/-- Without anything to write, a full update is refused for the model and the other for its names. -/
theorem agree_updateOf_written (sound : Sound model.mapped) (written_ne : model.written ≠ []) :
    (StatementForm.updateOf (model.written.map (·.name))).Agree (.canonical .update) model where
  obstacle_eq := by
    have updatable : model.written.isEmpty = false := by simpa using written_ne
    rw [obstacle?, obstacle?, unknown?_written, List.isEmpty_map, updatable, Option.or_none]
    rfl
  command_eq path := by simp only [Shape.command, named_written sound]
  listed_eq := by simp only [Shape.listed, Shape.mentioned, named_written sound]

end Model

namespace Gateway

open TableMapping

variable {gateway : Gateway} {workspace : Workspace} {model : Model}

/-- A gateway drafts forms alike that come to the same for every model it accepts. -/
theorem draft_congr {left right : StatementForm}
    (agree : ∀ set, workspace.answer (gateway.statements model) = .ok set →
      Sound model.mapped → left.Agree right model) :
    gateway.draft workspace model left = gateway.draft workspace model right := by
  cases answered : workspace.answer (gateway.statements model) with
  | error error => rw [draft, draft, answered]; rfl
  | ok set =>
      rw [draft_eq answered, draft_eq answered]
      have agree := agree set answered
      obtain ⟨used, mapping, -, accepted, rfl⟩ := statements_eq_ok answered
      have reflects := reflects_of_reflect accepted
      exact (agree reflects.sound).draft_eq reflects used

theorem written_ne_of_update {origin dialect : Dialect} {mapping : TableMapping} {text : String}
    (accepted : reflect model origin = .ok mapping)
    (available : (StatementSet.ofMapping mapping dialect).update = .ok text) :
    model.written ≠ [] := by
  have written : (StatementSet.ofMapping mapping dialect).write (.canonical .update) = .ok text :=
    available
  have free := (reflects_of_reflect accepted).obstacle?_of_write written
  simpa using (Option.or_eq_none_iff.mp free).2

/-- An insertion of a changeset with just these names is that of its whole record. -/
theorem answer_insertChanges_of_written {changes : ChangeSet model.toShape}
    (names_eq : changes.names = model.written.map (·.name)) :
    workspace.answer (gateway.insertChanges model changes) =
      workspace.answer (gateway.insert model changes.target) := by
  let fill (template : Template) := template.fill (.reflect model.toShape) changes.target
  have drafted : gateway.draft workspace model (.insertOf changes.names) =
      gateway.draft workspace model (.canonical .insert) := by
    rw [names_eq]
    exact draft_congr fun _ _ => Model.agree_insertOf_written
  calc
    workspace.answer (gateway.insertChanges model changes) =
        (gateway.draft workspace model (.insertOf changes.names)).bind fill :=
      gateway.answer_perform workspace (.insertChanges changes)
    _ = (gateway.draft workspace model (.canonical .insert)).bind fill := by rw [drafted]
    _ = workspace.answer (gateway.insert model changes.target) :=
      (gateway.answer_perform workspace (.insert changes.target)).symm

/-- So is an update, unless the full one is refused for the model. -/
theorem answer_updateChanges_of_written {changes : ChangeSet model.toShape}
    (names_eq : changes.names = model.written.map (·.name))
    (available : ∀ set, workspace.answer (gateway.statements model) = .ok set →
      ∃ text, set.update = .ok text) :
    workspace.answer (gateway.updateChanges model changes) =
      workspace.answer (gateway.update model changes.target) := by
  let fill (template : Template) := template.fill (.reflect model.toShape) changes.target
  have drafted : gateway.draft workspace model (.updateOf changes.names) =
      gateway.draft workspace model (.canonical .update) := by
    rw [names_eq]
    refine draft_congr fun set answered sound => ?_
    obtain ⟨text, updated⟩ := available set answered
    obtain ⟨used, mapping, -, accepted, rfl⟩ := statements_eq_ok answered
    exact Model.agree_updateOf_written sound (written_ne_of_update accepted updated)
  calc
    workspace.answer (gateway.updateChanges model changes) =
        (gateway.draft workspace model (.updateOf changes.names)).bind fill :=
      gateway.answer_perform workspace (.updateChanges changes)
    _ = (gateway.draft workspace model (.canonical .update)).bind fill := by rw [drafted]
    _ = workspace.answer (gateway.update model changes.target) :=
      (gateway.answer_perform workspace (.update changes.target)).symm

/-- If the names are those of all properties that a whole record writes, in order, the statements on
them are those of the set: an insertion always, an update whenever the full one is available. So a
gateway answers the same, be it a statement or an error, for a changeset that has recorded just these
names and for its whole record. -/
theorem full_of_written :
    (∀ (model : Model) (dialect : Dialect) (set : StatementSet),
      StatementSet.build model dialect = .ok set →
        let names := model.written.map (·.name)
        set.insertPartial names = .ok set.insert ∧
          set.insertPartialParameters names = .ok (set.parameters .insert) ∧
          (∀ text, set.update = .ok text →
            set.updatePartial names = .ok text ∧
              set.updatePartialParameters names = .ok (set.parameters .update)) ∧
          ∀ record : Record model.toShape,
            ((ChangeSet.on record).recordAll names).2.names = names) ∧
    ∀ (gateway : Gateway) (workspace : Workspace) (model : Model)
        (changes : ChangeSet model.toShape), changes.names = model.written.map (·.name) →
      workspace.answer (gateway.insertChanges model changes) =
          workspace.answer (gateway.insert model changes.target) ∧
        ((∀ set, workspace.answer (gateway.statements model) = .ok set →
            ∃ text, set.update = .ok text) →
          workspace.answer (gateway.updateChanges model changes) =
            workspace.answer (gateway.update model changes.target)) := by
  constructor
  · intro model dialect set built names
    obtain ⟨mapping, accepted, rfl⟩ := map_eq_ok built
    have reflects := reflects_of_reflect accepted
    have inserting := Model.agree_insertOf_written reflects.sound
    have inserted : (StatementSet.ofMapping mapping dialect).write (.canonical .insert) =
      .ok (StatementSet.ofMapping mapping dialect).insert := rfl
    refine ⟨inserting.write_eq reflects dialect, inserting.binds_eq reflects inserted, ?_, ?_⟩
    · intro text available
      have written_ne := written_ne_of_update accepted available
      have updating := Model.agree_updateOf_written reflects.sound written_ne
      exact ⟨(updating.write_eq reflects dialect).trans available,
        updating.binds_eq reflects available⟩
    · intro record
      rw [ChangeSet.names_recordAll]
      exact eraseDups_of_nodup (reflects.sound.nodup_map_name List.filter_sublist)
  · intro gateway workspace model changes names_eq
    exact ⟨answer_insertChanges_of_written names_eq, answer_updateChanges_of_written names_eq⟩

/-- A parcel that is numbered by the database. -/
def parcel : Model where
  name := "Parcel"
  table := "Parcels"
  properties :=
    [{ name := "Id", type := .integer .thirtyTwo, flags := { key := true, generated := true } },
     { name := "Weight", type := .integer .sixteen },
     { name := "Note", type := .text, column := some "remark" }]

def fifthParcel : Record parcel.toShape :=
  let number : Int32 := 5
  ((Record.blank parcel.toShape).put ⟨0, by decide⟩ number).put ⟨2, by decide⟩ "fragile"

/-- Recording its weight and its note amounts to recording the whole parcel. -/
theorem full_of_written_parcel :
    let gateway : Gateway := ⟨.standard .sqlServer, ⟨0⟩⟩
    let changes := ((ChangeSet.on fifthParcel).recordAll ["Weight", "Note"]).2
    (∃ set text, StatementSet.build parcel (.standard .sqlServer) = .ok set ∧
      set.update = .ok text ∧ set.updatePartial ["Weight", "Note"] = .ok text) ∧
      Workspace.initial.answer (gateway.updateChanges parcel changes) =
        Workspace.initial.answer (gateway.update parcel fifthParcel) := by
  intro gateway changes
  constructor
  · refine ⟨_, _, rfl, rfl, ?_⟩
    exact ((full_of_written.1 parcel (.standard .sqlServer) _ rfl).2.2.1 _ rfl).1
  · refine (full_of_written.2 gateway .initial parcel changes rfl).2 fun set answered => ?_
    cases answered
    exact ⟨_, rfl⟩

end Gateway

end RowMapping
