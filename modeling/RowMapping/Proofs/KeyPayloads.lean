import RowMapping.Proofs.BoundNames

/-!
# Selecting by keys

A selection takes its values from a record of any shape, and it looks for the keys of the model only:
at the first declaration of each key's name. Records that give the same values there get the same
statement, whatever else they hold and however it is declared. A record of the model itself binds
what its deletion binds for the keys.
-/

namespace RowMapping

open TableMapping

namespace Shape

variable {shape : Shape}

theorem listed_findByKey (sound : Sound shape.mapped) :
    shape.listed (.canonical .findByKey) = shape.keys.map (·.name) :=
  eraseDups_of_nodup (sound.nodup_map_name List.filter_sublist)

theorem listed_delete (sound : Sound shape.mapped) :
    shape.listed (.canonical .delete) = shape.mapped.map (·.name) :=
  eraseDups_of_nodup sound.names_nodup

theorem filter_name_mem_keys (sound : Sound shape.mapped) :
    (shape.mapped.filter fun property => property.name ∈ shape.keys.map (·.name)) = shape.keys := by
  refine List.filter_congr fun property mapped => ?_
  rw [Bool.eq_iff_iff, decide_eq_true_iff, List.mem_map]
  constructor
  · rintro ⟨key, isKey, same_name⟩
    obtain ⟨key_mapped, flagged⟩ := List.mem_filter.mp isKey
    rwa [sound.eq_of_name_eq key_mapped mapped same_name] at flagged
  · intro flagged
    exact ⟨property, List.mem_filter.mpr ⟨mapped, flagged⟩, rfl⟩

end Shape

namespace AccessorTable

variable {shape other : Shape} {names : List String}

/-- Records that give the same values to some names bind the same for them. -/
theorem bind_congr {record : Record shape} {payload : Record other}
    {parameters : List (String × Value)}
    (same : ∀ name ∈ names, record.supply? name = payload.supply? name)
    (bound : (reflect shape).bind record names = .ok parameters) :
    (reflect other).bind payload names = .ok parameters := by
  induction names generalizing parameters with
  | nil => exact bound
  | cons name names ih =>
      obtain ⟨value, rest, supplied, rest_bound, rfl⟩ := bind_cons_eq_ok bound
      have later : ∀ other ∈ names, record.supply? other = payload.supply? other :=
        fun other member => same other (List.mem_cons_of_mem _ member)
      rw [bind_reflect_cons, ← same name List.mem_cons_self, supplied, ih later rest_bound]
      rfl

/-- Binding some of the names that have been bound gives their part of the parameters. -/
theorem bind_filter {record : Record shape} {parameters : List (String × Value)}
    (bound : (reflect shape).bind record names = .ok parameters) (wanted : List String) :
    (reflect shape).bind record (names.filter (· ∈ wanted)) =
      .ok (parameters.filter fun parameter => parameter.1 ∈ wanted.map parameterName) := by
  induction names generalizing parameters with
  | nil =>
      cases bound
      rfl
  | cons name names ih =>
      obtain ⟨value, rest, supplied, rest_bound, rfl⟩ := bind_cons_eq_ok bound
      have wanted_iff : parameterName name ∈ wanted.map parameterName ↔ name ∈ wanted :=
        List.mem_map_of_injective parameterName_injective
      by_cases member : name ∈ wanted
      · rw [List.filter_cons_of_pos (by simpa using member),
          List.filter_cons_of_pos (by simpa [wanted_iff] using member), bind_reflect_cons, supplied,
          ih rest_bound]
        rfl
      · rw [List.filter_cons_of_neg (by simpa using member),
          List.filter_cons_of_neg (by simpa [wanted_iff] using member)]
        exact ih rest_bound

end AccessorTable

namespace Gateway

variable {gateway : Gateway} {workspace : Workspace} {model : Model}

/-- A selection is its text, filled with what a record gives to the keys. -/
theorem answer_findByKey {set : StatementSet} {text : String}
    (answered : workspace.answer (gateway.statements model) = .ok set)
    (available : set.findByKey = .ok text) {shape : Shape} (key : Record shape) :
    workspace.answer (gateway.findByKey model key) =
      Template.fill ⟨text, model.keys.map (·.name)⟩ (.reflect shape) key := by
  have written : set.write (.canonical .findByKey) = .ok text := available
  have drafted := draft_of_write answered written
  obtain ⟨used, mapping, -, accepted, rfl⟩ := statements_eq_ok answered
  rw [Shape.listed_findByKey (reflects_of_reflect accepted).sound] at drafted
  refine (gateway.answer_perform workspace (.findByKey key)).trans ?_
  exact congrArg (Except.bind · _) drafted

/-- What a selection of a model answers for a record of key values. -/
structure SelectsBy {shape : Shape} (model : Model) (text : String) (key : Record shape)
    (answer : Except Error Statement) : Prop where
  /-- There is a statement exactly if the name of every key is declared and can be read where it is
  declared first. -/
  ok_iff : (∃ statement, answer = .ok statement) ↔
    ∀ property ∈ model.keys, shape.supplies property.name = true
  /-- It binds what is read there, in the order of the keys. -/
  eq_of_ok : ∀ statement, answer = .ok statement →
    statement.sql = text ∧
      statement.parameters.map (Prod.map id some) =
        model.keys.map fun property => (parameterName property.name, key.supply? property.name)
  /-- Otherwise the first key that is missing or cannot be read is reported. -/
  eq_of_error : ∀ error, answer = .error error →
    ∃ property, model.keys.find? (fun property => !shape.supplies property.name) = some property ∧
      error = .lookup ⟨shape.name, property.name⟩

theorem selectsBy_fill {shape : Shape} (model : Model) (text : String) (key : Record shape) :
    SelectsBy model text key
      (Template.fill ⟨text, model.keys.map (·.name)⟩ (.reflect shape) key) where
  ok_iff := by
    rw [Template.exists_fill_eq_ok_iff]
    exact List.forall_mem_map
  eq_of_ok := by
    intro statement filled
    obtain ⟨parameters, bound, rfl⟩ := map_eq_ok filled
    refine ⟨rfl, ?_⟩
    rw [AccessorTable.map_some_bind bound, List.map_map]
    rfl
  eq_of_error := by
    intro error failed
    obtain ⟨name, missing, rfl⟩ := Template.fill_eq_error failed
    rw [Shape.missing?, List.find?_map] at missing
    obtain ⟨property, unsupplied, rfl⟩ := Option.map_eq_some_iff.mp missing
    exact ⟨property, unsupplied, rfl⟩

theorem fill_congr {left right : Shape} {key : Record left} {payload : Record right}
    {template : Template} {statement : Statement}
    (same : ∀ name ∈ template.names, key.supply? name = payload.supply? name)
    (filled : template.fill (.reflect left) key = .ok statement) :
    template.fill (.reflect right) payload = .ok statement := by
  obtain ⟨parameters, bound, rfl⟩ := map_eq_ok filled
  rw [Template.fill, AccessorTable.bind_congr same bound]
  rfl

theorem bind_keys_of_delete {record : Record model.toShape} {deleted : Statement}
    (returned : workspace.answer (gateway.delete model record) = .ok deleted) :
    (AccessorTable.reflect model.toShape).bind record (model.keys.map (·.name)) =
      .ok (deleted.parameters.filter fun parameter =>
        parameter.1 ∈ (model.keys.map (·.name)).map parameterName) := by
  obtain ⟨used, mapping, -, reflects, -, -, bound⟩ :=
    @exists_perform_eq model gateway workspace (.delete record) _ returned
  have listed : (model.mapped.map (·.name)).filter (· ∈ model.keys.map (·.name)) =
      model.keys.map (·.name) := by
    rw [List.filter_map]
    exact congrArg _ (Shape.filter_name_mem_keys reflects.sound)
  rw [Operation.form, Shape.listed_delete reflects.sound] at bound
  rw [← AccessorTable.bind_filter bound (model.keys.map (·.name)), listed]
  rfl

/-- A selection of a model depends on the record that it is made by, of whatever shape, only through
the values that it gives to the keys: they decide whether there is a statement, and two records that
give the same ones get the same statement. The parameters of a record of the model are those of its
deletion that belong to keys. -/
theorem selectsBy_findByKey {set : StatementSet} {text : String}
    (answered : workspace.answer (gateway.statements model) = .ok set)
    (available : set.findByKey = .ok text) :
    (∀ (shape : Shape) (key : Record shape),
      SelectsBy model text key (workspace.answer (gateway.findByKey model key))) ∧
    (∀ (left right : Shape) (key : Record left) (payload : Record right),
      (∀ property ∈ model.keys, key.supply? property.name = payload.supply? property.name) →
        ∀ statement, workspace.answer (gateway.findByKey model key) = .ok statement ↔
          workspace.answer (gateway.findByKey model payload) = .ok statement) ∧
    ∀ (record : Record model.toShape) (deleted : Statement),
      workspace.answer (gateway.delete model record) = .ok deleted →
        ∃ selected, workspace.answer (gateway.findByKey model record) = .ok selected ∧
          selected.parameters = deleted.parameters.filter fun parameter =>
            parameter.1 ∈ (model.keys.map (·.name)).map parameterName := by
  have answer_eq {shape : Shape} (key : Record shape) :
      workspace.answer (gateway.findByKey model key) =
        Template.fill ⟨text, model.keys.map (·.name)⟩ (.reflect shape) key :=
    answer_findByKey answered available key
  refine ⟨fun shape key => ?_, fun left right key payload same statement => ?_,
    fun record deleted returned => ?_⟩
  · rw [answer_eq]
    exact selectsBy_fill model text key
  · rw [answer_eq, answer_eq]
    exact ⟨fill_congr (List.forall_mem_map.mpr same),
      fill_congr (List.forall_mem_map.mpr fun property isKey => (same property isKey).symm)⟩
  · rw [answer_eq, Template.fill, bind_keys_of_delete returned]
    exact ⟨_, rfl, rfl⟩

/-- Shelves that are numbered within a room. -/
def shelf : Model where
  name := "Shelf"
  table := "Shelves"
  properties :=
    [{ name := "Room", type := .integer .thirtyTwo, flags := { key := true } },
     { name := "Number", type := .integer .thirtyTwo, flags := { key := true, generated := true } },
     { name := "Topic", type := .text }]

/-- The second shelf of the seventh room. -/
def secondShelf : Record shelf.toShape :=
  let room : Int32 := 7
  let number : Int32 := 2
  let placed := (Record.blank shelf.toShape).put ⟨0, by decide⟩ room
  placed.put ⟨1, by decide⟩ number

/-- A slip with the number before the room and with a code of its own; nothing of it is mapped. -/
def slip : Shape where
  name := "Slip"
  properties :=
    [{ name := "Number", type := .integer .thirtyTwo, access := .readOnly,
       flags := { notMapped := true } },
     { name := "Code", type := .text, access := .writeOnly },
     { name := "Room", type := .optional (.integer .thirtyTwo), flags := { notMapped := true } }]

def secondSlip : Record slip :=
  let number : Int32 := 2
  let room : Int32 := 7
  let numbered := (Record.blank slip).put ⟨0, by decide⟩ number
  numbered.put ⟨2, by decide⟩ (some room)

/-- The shelf and its slip select by the same statement. -/
theorem selectsBy_findByKey_shelf :
    let gateway : Gateway := ⟨.standard .postgres, ⟨0⟩⟩
    ∃ statement,
      Workspace.initial.answer (gateway.findByKey shelf secondShelf) = .ok statement ∧
      Workspace.initial.answer (gateway.findByKey shelf secondSlip) = .ok statement ∧
      statement.parameters = [("@Room", .int 7), ("@Number", .int 2)] := by
  intro gateway
  obtain ⟨-, same_statement, -⟩ := @selectsBy_findByKey gateway .initial shelf _ _ rfl rfl
  have same : ∀ property ∈ shelf.keys,
      secondShelf.supply? property.name = secondSlip.supply? property.name := by decide
  exact ⟨_, rfl, (same_statement shelf.toShape slip secondShelf secondSlip same _).mp rfl, rfl⟩

end Gateway

end RowMapping
