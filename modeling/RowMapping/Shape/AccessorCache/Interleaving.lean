import RowMapping.Shape.AccessorCache

/-!
# Concurrent requests for accessor tables

Any number of requests to one accessor cache, each of which takes its steps one at a time, in any
order relative to the steps of the others. A request looks for the stored table; on a miss it
reflects a table of its own and then offers it, whereupon the cache stores it unless another table
has come first, and the request takes what is stored. Tables carry the number of the request that
reflected them, so that two tables of one shape can be told apart.
-/

namespace RowMapping.AccessorCache

/-- A reflected table and the number of the request that reflected it. -/
structure Reflection (shape : Shape) where
  origin : Nat
  table : AccessorTable shape

/-- How far a request for the table of a shape has come. -/
inductive Phase (shape : Shape) where
  /-- It has not looked for the table yet. -/
  | arrived
  /-- It has found no table. -/
  | missed
  /-- It has reflected a table that is not stored yet. -/
  | holding (own : Reflection shape)
  /-- It is complete. -/
  | finished (answer : Reflection shape)

/-- A request on its way. -/
structure Call where
  /-- The shape whose table is asked for. -/
  shape : Shape
  /-- How far it has come. -/
  phase : Phase shape := .arrived

namespace Call

def answer? (call : Call) : Option (Reflection call.shape) :=
  match call.phase with
  | .finished answer => some answer
  | _ => none

/-- One step of the request of the given number. -/
def step (number : Nat) (stored : Catalog Reflection) (call : Call) : Catalog Reflection × Call :=
  match call.phase with
  | .arrived =>
      match stored.find? call.shape with
      | some reflection => (stored, ⟨call.shape, .finished reflection⟩)
      | none => (stored, ⟨call.shape, .missed⟩)
  | .missed => (stored, ⟨call.shape, .holding ⟨number, .reflect call.shape⟩⟩)
  | .holding own =>
      let stored := stored.enter call.shape own
      (stored, ⟨call.shape, .finished ((stored.find? call.shape).getD own)⟩)
  | .finished _ => (stored, call)

end Call

/-- The stored tables and the requests under way. -/
structure Interleaving where
  /-- The table of each shape for which one has been stored. -/
  stored : Catalog Reflection
  calls : List Call

namespace Interleaving

/-- The state after one step of one request. -/
def step (state : Interleaving) (turn : Nat) : Interleaving :=
  match state.calls[turn]? with
  | none => state
  | some call =>
      let (stored, call) := call.step turn state.stored
      ⟨stored, state.calls.set turn call⟩

def run (state : Interleaving) (schedule : List Nat) : Interleaving := schedule.foldl step state

end Interleaving

end RowMapping.AccessorCache
