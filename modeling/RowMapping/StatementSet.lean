import RowMapping.TableMapping

/-!
# Statement sets

The statements of one model under one dialect. The four canonical texts are rendered once, when the
set is built; statements on some of the properties are assembled on demand. What needs a key is
refused for a model without one.
-/

namespace RowMapping

/-- The canonical statements. -/
inductive StatementKind where
  | insert
  | update
  | delete
  | findByKey
  deriving DecidableEq, Repr

/-- The statements of a model under a dialect. -/
structure StatementSet where
  dialect : Dialect
  mapping : TableMapping
  /-- The quoted path of the table. -/
  object : String
  /-- The columns of the affected row, each under the name of its property. -/
  projection : String
  /-- Insert every property that the database does not generate. -/
  insert : String
  /-- Update every property that the database does not generate, matched on the keys. -/
  update : Except Error String
  /-- Delete the row that matches in every mapped property. -/
  delete : Except Error String
  /-- Select the row of given keys. -/
  findByKey : Except Error String

namespace TableMapping

/-- The columns of properties with their names. -/
def pairings (properties : List MappedProperty) : List Pairing := properties.map (·.pairing)

variable (mapping : TableMapping)

/-- The renderer of statements on the mapped table. -/
def renderer (traits : DialectTraits) : Renderer :=
  .of traits mapping.path.segments (pairings mapping.properties)

/-- The report of a defect of the mapped model. -/
def defect (defect : Defect) : Error := .ofDefect mapping.model defect

/-- Whether statements that need a key can be written. -/
def keyed : Except Error Unit := if mapping.hasKey then .ok () else .error (mapping.defect .noKey)

/-- The mapped properties of names, in the order of the names. -/
def resolve : List String → Except Error (List MappedProperty)
  | [] => .ok []
  | name :: names =>
      match mapping.find? name with
      | none => .error (.lookup ⟨mapping.model, name⟩)
      | some property =>
          match resolve names with
          | .ok properties => .ok (property :: properties)
          | .error error => .error error

end TableMapping

namespace StatementSet

/-- The statements of a mapping in a dialect. The parts that they share are kept for those that are
assembled later. -/
def ofMapping (mapping : TableMapping) (dialect : Dialect) : StatementSet :=
  let renderer := mapping.renderer dialect.traits
  let all := TableMapping.pairings mapping.properties
  let writable := TableMapping.pairings mapping.writable
  let keys := TableMapping.pairings mapping.keys
  { dialect
    mapping
    object := renderer.object
    projection := renderer.projection
    insert := renderer.insert writable
    update :=
      match mapping.keyed with
      | .error error => .error error
      | .ok () =>
          if mapping.writable.isEmpty then .error (mapping.defect .nothingUpdatable)
          else .ok (renderer.update writable keys)
    delete := mapping.keyed.map fun _ => renderer.delete all
    findByKey := mapping.keyed.map fun _ => renderer.select all keys }

/-- The statements of a model under a dialect. -/
def build (model : Model) (dialect : Dialect) : Except Error StatementSet :=
  (TableMapping.reflect model dialect).map fun mapping => ofMapping mapping dialect

variable (set : StatementSet)

/-- The text of a canonical statement. -/
def text : StatementKind → Except Error String
  | .insert => .ok set.insert
  | .update => set.update
  | .delete => set.delete
  | .findByKey => set.findByKey

/-- Add a name to those that are kept, unless it is one of them. -/
def keep (kept : List String) (name : String) : List String :=
  if kept.contains name then kept else kept ++ [name]

/-- The names, each once, in order of first appearance. -/
def distinct (names : List String) : List String := names.foldl keep []

/-- The names of properties, each once, in order of first appearance. -/
def distinctNames (properties : List MappedProperty) : List String :=
  distinct (properties.map (·.name))

/-- The properties that a canonical statement binds, each once, in order of first appearance. -/
def parameters : StatementKind → List String
  | .insert => distinctNames set.mapping.writable
  | .update => distinctNames (set.mapping.writable ++ set.mapping.keys)
  | .delete => distinctNames set.mapping.properties
  | .findByKey => distinctNames set.mapping.keys

/-- The renderer that takes up the shared parts of the canonical statements. -/
def renderer : Renderer := ⟨set.dialect.traits, set.object, set.projection⟩

/-- An insertion of the named properties. Without names the row consists of defaults. -/
def insertPartial (names : List String) : Except Error String :=
  (set.mapping.resolve names).map fun properties =>
    set.renderer.insert (TableMapping.pairings properties)

/-- An update of the named properties, matched on the keys. -/
def updatePartial (names : List String) : Except Error String :=
  match set.mapping.keyed with
  | .error error => .error error
  | .ok () =>
      if names.isEmpty then .error (set.mapping.defect .nothingChanged)
      else
        (set.mapping.resolve names).map fun properties =>
          set.renderer.update (TableMapping.pairings properties)
            (TableMapping.pairings set.mapping.keys)

/-- The properties that an insertion of the named properties binds. -/
def insertPartialParameters (names : List String) : Except Error (List String) :=
  (set.mapping.resolve names).map fun properties => properties.map (·.name)

/-- The properties that an update of the named properties binds. -/
def updatePartialParameters (names : List String) : Except Error (List String) :=
  (set.mapping.resolve names).map fun properties => distinctNames (properties ++ set.mapping.keys)

end StatementSet

end RowMapping
