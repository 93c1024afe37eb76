import RowMapping.Patch
import RowMapping.Registry.Interleaving
import RowMapping.Statement

/-!
# Workspaces

A workspace is everything that lasts from one operation to the next: the registries that gateways
use, the shared accessor cache, and the dialect selected for the whole workspace. A gateway produces
statements in one dialect through one registry; gateways may share a registry.
-/

namespace RowMapping

/-- Which registry a gateway uses. -/
structure RegistryId where
  number : Nat
  deriving DecidableEq, Repr

/-- A source of statements in one dialect. -/
structure Gateway where
  dialect : Dialect
  registry : RegistryId

/-- What lasts from one operation to the next. -/
structure Workspace where
  /-- The content of every registry. -/
  registry : RegistryId → Registry := fun _ => .empty
  /-- The number of the next new registry. -/
  nextRegistry : Nat := 0
  /-- The shared accessor cache. -/
  accessors : AccessorCache := .empty
  /-- The dialect of the workspace, once it is selected. -/
  selected : Option DialectKind := none
  /-- The gateway of the workspace, once it has been asked for. -/
  shared : Option Gateway := none

namespace Workspace

/-- The workspace before any operation. -/
def initial : Workspace := {}

/-- Change the content of one registry. -/
def setRegistry (workspace : Workspace) (id : RegistryId) (content : Registry) : Workspace :=
  { workspace with
    registry := fun other => if other = id then content else workspace.registry other }

/-- A registry of its own. -/
def newRegistry : StateM Workspace RegistryId := do
  let workspace ← get
  set { workspace with nextRegistry := workspace.nextRegistry + 1 }
  return ⟨workspace.nextRegistry⟩

/-- The accessor table of a shape from the shared cache. -/
def accessorTable (shape : Shape) : StateM Workspace (AccessorTable shape) := do
  let workspace ← get
  let (table, accessors) := workspace.accessors.request shape
  set { workspace with accessors }
  return table

/-- Run an operation of the accessor cache on the shared one. -/
def withAccessors {α : Type} (operation : AccessorCache → α × AccessorCache) :
    StateM Workspace α := do
  let workspace ← get
  let (result, accessors) := operation workspace.accessors
  set { workspace with accessors }
  return result

/-! ## The dialect of the workspace -/

/-- The dialect that is selected where nothing else has been. -/
def defaultDialect : DialectKind := .postgres

/-- Select the dialect of the workspace. Only the first selection counts; the answer tells whether
this was it. -/
def configure (kind : DialectKind) : StateM Workspace Bool := do
  let workspace ← get
  match workspace.selected with
  | some _ => return false
  | none =>
      set { workspace with selected := some kind }
      return true

/-- The dialect of the workspace, once it is selected. -/
def selectedDialect : StateM Workspace (Option DialectKind) := do
  return (← get).selected

end Workspace

namespace Gateway

open Workspace

/-- A gateway with a registry of its own. -/
def create (dialect : Dialect) : StateM Workspace Gateway := do
  return ⟨dialect, ← newRegistry⟩

/-- The gateway of the workspace. The first time it is asked for, it selects the default dialect if
no other has been selected. -/
def global : StateM Workspace Gateway := do
  let workspace ← get
  match workspace.shared with
  | some gateway => return gateway
  | none =>
      let kind := workspace.selected.getD defaultDialect
      set { workspace with selected := some kind }
      let gateway ← create (.standard kind)
      modify fun workspace => { workspace with shared := some gateway }
      return gateway

/-- The statements of a model. -/
def statements (gateway : Gateway) (model : Model) :
    StateM Workspace (Except Error StatementSet) := do
  let workspace ← get
  let (answer, content) := (workspace.registry gateway.registry).request model gateway.dialect
  set (workspace.setRegistry gateway.registry content)
  return answer

/-- Any number of requests for the statements of a model, made at the same time. -/
def statementsAtOnce (gateway : Gateway) (model : Model) (requests : Nat) :
    StateM Workspace Registry.Interleaving := do
  let workspace ← get
  let call : Registry.Call := { model, dialect := gateway.dialect }
  let before : Registry.Interleaving :=
    ⟨workspace.registry gateway.registry, List.replicate requests call⟩
  let after := before.roundRobin
  set (workspace.setRegistry gateway.registry after.registry)
  return after

/-- Take a template from the statements of a model and fill it from a record. -/
def produce {shape : Shape} (gateway : Gateway) (model : Model)
    (template : StatementSet → Except Error Template) (record : Record shape) :
    StateM Workspace (Except Error Statement) := do
  match (← gateway.statements model).bind template with
  | .error error => return .error error
  | .ok template => return template.fill (← accessorTable shape) record

variable (gateway : Gateway)

/-- The registry of a gateway. -/
def registryIn (workspace : Workspace) : Registry := workspace.registry gateway.registry

/-- Insert every property of a record that the database does not generate. -/
def insert (model : Model) (record : Record model.toShape) :
    StateM Workspace (Except Error Statement) :=
  gateway.produce model (·.template .insert) record

/-- Update every property of a record that the database does not generate, matched on its keys. -/
def update (model : Model) (record : Record model.toShape) :
    StateM Workspace (Except Error Statement) :=
  gateway.produce model (·.template .update) record

/-- Delete the row that matches a record in every mapped property. -/
def delete (model : Model) (record : Record model.toShape) :
    StateM Workspace (Except Error Statement) :=
  gateway.produce model (·.template .delete) record

/-- Select a row of a model by the key values that a record of any shape supplies. -/
def findByKey (model : Model) {shape : Shape} (key : Record shape) :
    StateM Workspace (Except Error Statement) :=
  gateway.produce model (·.template .findByKey) key

/-- Insert what a changeset records. -/
def insertChanges (model : Model) (changes : ChangeSet model.toShape) :
    StateM Workspace (Except Error Statement) :=
  gateway.produce model (·.insertTemplate changes.names) changes.target

/-- Update what a changeset records, matched on the keys. -/
def updateChanges (model : Model) (changes : ChangeSet model.toShape) :
    StateM Workspace (Except Error Statement) :=
  gateway.produce model (·.updateTemplate changes.names) changes.target

end Gateway

end RowMapping
