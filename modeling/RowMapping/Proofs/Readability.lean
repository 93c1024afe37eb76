import Mathlib.Data.List.Find
import RowMapping.Proofs.Gateway.Operation
import RowMapping.Proofs.Record.Binding

/-!
# Statements that cannot be bound

A statement set is built from what declarations say about columns; whether a property can be read
comes up only when its value is bound. Where the properties that a text binds are the first of their
names, the text can be bound for every record if all of them can be read, and for none otherwise:
then every call reports the first that cannot.
-/

namespace RowMapping

namespace Shape

variable {shape : Shape} {form : StatementForm}

theorem supplies_of_leading
    (leading : ∀ place, shape.property place ∈ shape.mentioned form →
      shape.first? (shape.property place).name = some place)
    {property : Property} (mentioned : property ∈ shape.mentioned form) :
    shape.supplies property.name = property.isReadable := by
  obtain ⟨place, rfl, -⟩ := mem_mapped_iff.mp (mem_mapped_of_mem_mentioned mentioned)
  exact supplies_eq (leading place mentioned)

/-- The first name without a value is that of the first property that cannot be read. -/
theorem missing?_of_leading
    (leading : ∀ place, shape.property place ∈ shape.mentioned form →
      shape.first? (shape.property place).name = some place) :
    shape.missing? ((shape.mentioned form).map (·.name)).eraseDups =
      ((shape.mentioned form).find? fun property => !property.isReadable).map (·.name) := by
  rw [missing?, find?_eraseDups, List.find?_map]
  refine congrArg (Option.map _) (List.find?_congr fun property mentioned => ?_)
  exact congrArg not (supplies_of_leading leading mentioned)

end Shape

namespace Gateway

variable {gateway : Gateway} {workspace : Workspace} {model : Model} {kind : StatementKind}

theorem draft_of_text {set : StatementSet} {sql : String}
    (answered : workspace.answer (gateway.statements model) = .ok set)
    (available : set.text kind = .ok sql) :
    gateway.draft workspace model (.canonical kind) =
      .ok ⟨sql, ((model.mentioned (.canonical kind)).map (·.name)).eraseDups⟩ :=
  draft_of_write answered available

/-- Where the properties that an available text binds are the first of their names, the statement is
returned exactly if all of them can be read. If one cannot, every record is refused with a report of
the first that cannot. -/
theorem returns_iff_readable {set : StatementSet} {sql : String}
    (answered : workspace.answer (gateway.statements model) = .ok set)
    (available : set.text kind = .ok sql)
    (leading : ∀ place, model.property place ∈ model.mentioned (.canonical kind) →
      model.first? (model.property place).name = some place)
    (record : Record model.toShape) :
    ((∃ statement, workspace.answer (gateway.perform (.canonical kind record)) = .ok statement) ↔
        ∀ property ∈ model.mentioned (.canonical kind), property.isReadable = true) ∧
      ∀ error, workspace.answer (gateway.perform (.canonical kind record)) = .error error →
        ∃ property,
          (model.mentioned (.canonical kind)).find? (fun property => !property.isReadable) =
            some property ∧
          error = .lookup ⟨model.name, property.name⟩ := by
  have answer_eq : workspace.answer (gateway.perform (.canonical kind record)) =
      Template.fill ⟨sql, ((model.mentioned (.canonical kind)).map (·.name)).eraseDups⟩
        (.reflect model.toShape) record := by
    rw [answer_canonical, draft_of_text answered available]
    rfl
  rw [answer_eq]
  constructor
  · rw [Template.exists_fill_eq_ok_iff]
    constructor
    · intro supplied property mentioned
      rw [← Shape.supplies_of_leading leading mentioned]
      exact supplied _ (List.mem_eraseDups.mpr (List.mem_map_of_mem mentioned))
    · intro readable name listed
      obtain ⟨property, mentioned, rfl⟩ := List.mem_map.mp (List.mem_eraseDups.mp listed)
      rw [Shape.supplies_of_leading leading mentioned]
      exact readable property mentioned
  · intro error failed
    obtain ⟨name, missing, rfl⟩ := Template.fill_eq_error failed
    rw [Shape.missing?_of_leading leading] at missing
    obtain ⟨property, unreadable, rfl⟩ := Option.map_eq_some_iff.mp missing
    exact ⟨property, unreadable, rfl⟩

/-- A model with a column that is written and never read back. -/
def credential (flags : Flags) : Model where
  name := "Credential"
  table := "Accounts"
  properties :=
    [{ name := "Id", type := .integer .thirtyTwo, flags := { key := true } },
     { name := "Secret", type := .text, access := .writeOnly, flags }]

/-- The same model, whose column the database fills. -/
def issued : Model := credential { generated := true }

/-- An insertion does without that column; a deletion does not. -/
theorem returns_iff_readable_issued :
    let gateway : Gateway := ⟨.standard .sqlite, ⟨0⟩⟩
    let record := (Record.blank issued.toShape).put ⟨0, Nat.two_pos⟩ (7 : Int32)
    (∃ statement, Workspace.initial.answer (gateway.insert issued record) = .ok statement) ∧
      ¬ ∃ statement, Workspace.initial.answer (gateway.delete issued record) = .ok statement := by
  intro gateway record
  obtain ⟨inserted, -⟩ :=
    @returns_iff_readable gateway .initial issued .insert _ _ rfl rfl (by decide) record
  obtain ⟨deleted, -⟩ :=
    @returns_iff_readable gateway .initial issued .delete _ _ rfl rfl (by decide) record
  exact ⟨inserted.mpr (by decide), fun returned => absurd (deleted.mp returned) (by decide)⟩

/-- A column that is written and not filled by the database. -/
def stored : Model := credential {}

/-- All texts on such a model are available, and none that binds the column can be bound. -/
theorem refuses_stored :
    let gateway : Gateway := ⟨.standard .sqlite, ⟨0⟩⟩
    let record := Record.blank stored.toShape
    let refused : Except Error Statement := .error (.lookup ⟨"Credential", "Secret"⟩)
    (∃ set, Workspace.initial.answer (gateway.statements stored) = .ok set ∧
      ∀ kind, ∃ sql, set.text kind = .ok sql) ∧
      Workspace.initial.answer (gateway.insert stored record) = refused ∧
      Workspace.initial.answer (gateway.update stored record) = refused ∧
      Workspace.initial.answer (gateway.delete stored record) = refused := by
  intro gateway record refused
  refine ⟨⟨_, rfl, fun kind => ?_⟩, rfl, rfl, rfl⟩
  cases kind <;> exact ⟨_, rfl⟩

end Gateway

end RowMapping
