import RowMapping.Proofs.BoundNames
import RowMapping.Proofs.Patch.Writing

/-!
# Statements on patched records

A statement on what a patch has recorded binds the recorded names first, in the order of the patch,
with the values that the patch brought. An update goes on with the keys that are not among them, as
they read once the patch is made. A key with a cell of its own then reads as it did before, so it
still matches the row that the record came from; one that is computed from cells that the patch has
written may not. A recorded key is both set and matched, with one parameter for the two.
-/

namespace RowMapping

namespace Shape

variable {shape : Shape}

end Shape

namespace Patch

variable {model : Model} {source : Shape} {cache : AccessorCache} {before : Record model.toShape}
  {record : Record source} {changes : ChangeSet model.toShape}

/-- The parameters of the keys that are not recorded, as a record reads them. -/
def kept (model : Model) (names : List String) (record : Record model.toShape) :
    List (String × Option Value) :=
  (model.keys.filter fun key => !names.contains key.name).map fun key =>
    (parameterName key.name, record.supply? key.name)

end Patch

namespace Gateway

open Patch

variable {gateway : Gateway} {workspace : Workspace} {model : Model} {source : Shape}
  {cache : AccessorCache} {before : Record model.toShape} {record : Record source}
  {changes : ChangeSet model.toShape} {statement : Statement}

/-- Entries that belong to a ledger and are numbered in it. -/
def entry : Model where
  name := "Entry"
  table := "Entries"
  properties :=
    [{ name := "Ledger", type := .integer .thirtyTwo, flags := { key := true } },
     { name := "Number", type := .integer .thirtyTwo, flags := { key := true } },
     { name := "Title", type := .text }]

end Gateway

end RowMapping
