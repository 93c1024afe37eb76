import RowMapping.Registry.Basic

/-!
# Concurrent requests

Any number of requests to one registry, each of which takes its three steps one at a time, in any
order relative to the steps of the others. A schedule names the request whose turn it is.
-/

namespace RowMapping.Registry

/-- How far a request has come. -/
inductive Phase where
  /-- It has not looked for its slot yet. -/
  | arrived
  /-- It has found no slot. -/
  | missed
  /-- It has its slot. -/
  | placed
  /-- It is complete. -/
  | finished (answer : Except Error StatementSet)

/-- A request on its way. -/
structure Call where
  model : Model
  dialect : Dialect
  /-- How far it has come. -/
  phase : Phase := .arrived

namespace Call

def key (call : Call) : Key := keyOf call.model call.dialect

def answer? (call : Call) : Option (Except Error StatementSet) :=
  match call.phase with
  | .finished answer => some answer
  | _ => none

def step (registry : Registry) (call : Call) : Registry × Call :=
  match call.phase with
  | .arrived =>
      if registry.contains call.model call.dialect then (registry, { call with phase := .placed })
      else (registry, { call with phase := .missed })
  | .missed => (registry.reserve call.key, { call with phase := .placed })
  | .placed =>
      let (answer, registry) := registry.fill call.model call.dialect
      (registry, { call with phase := .finished answer })
  | .finished _ => (registry, call)

end Call

/-- A registry and the requests under way. -/
structure Interleaving where
  registry : Registry
  calls : List Call

namespace Interleaving

/-- The state after one step of one request. -/
def step (state : Interleaving) (turn : Nat) : Interleaving :=
  match state.calls[turn]? with
  | none => state
  | some call =>
      let (registry, call) := call.step state.registry
      ⟨registry, state.calls.set turn call⟩

def run (state : Interleaving) (schedule : List Nat) : Interleaving :=
  schedule.foldl step state

/-- All requests take a step in turn, three times over: afterwards all are complete. -/
def roundRobin (state : Interleaving) : Interleaving :=
  let turns := List.range state.calls.length
  state.run (turns ++ turns ++ turns)

/-- The answers of the complete requests: the error, or the place of the set in the registry. -/
def outcomes (state : Interleaving) : List (Except Error (Option Nat)) :=
  state.calls.filterMap fun call =>
    call.answer?.map fun answer =>
      answer.map fun _ => state.registry.position? call.model call.dialect

/-- Whether all complete requests got one set or one error. -/
def agrees (state : Interleaving) : Bool :=
  match state.outcomes with
  | [] => true
  | .ok place :: others => others.all fun
      | .ok other => place == other
      | .error _ => false
  | .error error :: others => others.all fun
      | .ok _ => false
      | .error other => error == other

end Interleaving

end RowMapping.Registry
