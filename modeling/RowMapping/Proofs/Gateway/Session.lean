import RowMapping.Proofs.Gateway.Operation
import RowMapping.Proofs.Registry.Memory

/-!
# Sessions of gateways

In a session registries and gateways are made, each gateway on a registry of its own or on one that
is there, and gateways are asked for statements in any order. A step sends at most one request to
one registry, and what every registry holds follows from the requests that it has received.
-/

namespace RowMapping

/-- The workspace that a run leaves. -/
def Workspace.after {α : Type} (workspace : Workspace) (run : StateM Workspace α) : Workspace :=
  (run.run workspace).2

/-- An inquiry and the registry that receives it. -/
structure Request where
  registry : RegistryId
  inquiry : Registry.Inquiry

/-- The inquiries that a registry has received, oldest first. -/
def Request.receivedBy (registry : RegistryId) (requests : List Request) :
    List Registry.Inquiry :=
  (requests.filter (·.registry = registry)).map (·.inquiry)

/-- What a gateway sends when it is asked for the statements of a model. -/
def Gateway.request (gateway : Gateway) (model : Model) : Request :=
  ⟨gateway.registry, ⟨model, gateway.dialect⟩⟩

/-- A workspace and the gateways made so far. -/
structure Session where
  workspace : Workspace
  gateways : List Gateway

namespace Session

def initial : Session := ⟨.initial, []⟩

/-- What can happen in a session. Gateways are named by their place. -/
inductive Step where
  | createRegistry
  /-- Make a gateway with a registry of its own. -/
  | create (dialect : Dialect)
  /-- Make a gateway on a registry that is there. -/
  | attach (dialect : Dialect) (registry : RegistryId)
  /-- Copy a gateway. -/
  | clone (gateway : Nat)
  /-- Ask a gateway for the statements of a model. -/
  | request (gateway : Nat) (model : Model)
  /-- Have a gateway perform an operation. -/
  | perform (gateway : Nat) {model : Model} (operation : Operation model)

variable (session : Session)

def add (gateway : Gateway) : Session := { session with gateways := session.gateways ++ [gateway] }

/-- The session with what a run leaves. -/
def after {α : Type} (run : StateM Workspace α) : Session :=
  { session with workspace := session.workspace.after run }

/-- The session after a step. What has not been made cannot be used. -/
def step : Step → Session
  | .createRegistry => session.after Workspace.newRegistry
  | .create dialect =>
      (session.after (Gateway.create dialect)).add
        (session.workspace.answer (Gateway.create dialect))
  | .attach dialect registry =>
      if registry.number < session.workspace.nextRegistry then session.add ⟨dialect, registry⟩
      else session
  | .clone gateway => (session.gateways[gateway]?).elim session session.add
  | .request gateway model =>
      (session.gateways[gateway]?).elim session fun gateway =>
        session.after (gateway.statements model)
  | .perform gateway operation =>
      (session.gateways[gateway]?).elim session fun gateway =>
        session.after (gateway.perform operation)

/-- The request that a step sends. -/
def request? : Step → Option Request
  | .request gateway model => (session.gateways[gateway]?).map (·.request model)
  | @Step.perform gateway model _ => (session.gateways[gateway]?).map (·.request model)
  | .createRegistry | .create _ | .attach _ _ | .clone _ => none

def run (session : Session) : List Step → Session
  | [] => session
  | step :: steps => (session.step step).run steps

/-- The requests that some steps send, oldest first. -/
def requests (session : Session) : List Step → List Request
  | [] => []
  | step :: steps => (session.request? step).toList ++ (session.step step).requests steps

end Session

/-! ## What a request leaves -/

theorem Workspace.after_bind {α β : Type} (workspace : Workspace) (run : StateM Workspace α)
    (next : α → StateM Workspace β) :
    workspace.after (run >>= next) =
      (workspace.after run).after (next (workspace.answer run)) := rfl

namespace Gateway

variable {gateway : Gateway} {workspace : Workspace} {model : Model}

theorem registry_after_statements (id : RegistryId) :
    (workspace.after (gateway.statements model)).registry id =
      if id = gateway.registry then
        ((workspace.registry gateway.registry).request model gateway.dialect).2
      else workspace.registry id := rfl

/-- An operation asks for the statements once, and leaves nothing else but accessors. -/
theorem after_perform (workspace : Workspace) (operation : Operation model) :
    ∃ accessors, workspace.after (gateway.perform operation) =
      { workspace.after (gateway.statements model) with accessors } := by
  rw [perform_eq, produce, Workspace.after_bind]
  cases (workspace.answer (gateway.statements model)).bind (·.draft operation.form) with
  | error error => exact ⟨_, rfl⟩
  | ok template => exact ⟨_, rfl⟩

end Gateway

namespace Session

theorem receivedBy_append_singleton (id : RegistryId) (requests : List Request)
    (request : Request) :
    Request.receivedBy id (requests ++ [request]) =
      Request.receivedBy id requests ++
        if request.registry = id then [request.inquiry] else [] := by
  by_cases same : request.registry = id <;> simp [Request.receivedBy, same]

/-- Every registry of a session holds what some requests have left in it, and all registries in use
have been made. -/
structure Follows (session : Session) (requests : List Request) : Prop where
  remembers : ∀ id, (session.workspace.registry id).Remembers (Request.receivedBy id requests)
  gateway_lt : ∀ gateway ∈ session.gateways,
    gateway.registry.number < session.workspace.nextRegistry
  request_lt : ∀ request ∈ requests, request.registry.number < session.workspace.nextRegistry

namespace Follows

variable {session : Session} {requests : List Request}

theorem nil : initial.Follows [] where
  remembers _ := .empty
  gateway_lt _ member := absurd member List.not_mem_nil
  request_lt _ member := absurd member List.not_mem_nil

/-- Registries may be made without a request to any. -/
theorem grow (follows : session.Follows requests) {workspace : Workspace}
    (registry_eq : workspace.registry = session.workspace.registry)
    (next_le : session.workspace.nextRegistry ≤ workspace.nextRegistry) :
    Follows { session with workspace } requests where
  remembers := by
    intro id
    rw [registry_eq]
    exact follows.remembers id
  gateway_lt gateway member := Nat.lt_of_lt_of_le (follows.gateway_lt gateway member) next_le
  request_lt request member := Nat.lt_of_lt_of_le (follows.request_lt request member) next_le

theorem createRegistry (follows : session.Follows requests) :
    (session.after Workspace.newRegistry).Follows requests :=
  follows.grow rfl (Nat.le_succ _)

theorem add (follows : session.Follows requests) {gateway : Gateway}
    (made : gateway.registry.number < session.workspace.nextRegistry) :
    (session.add gateway).Follows requests where
  remembers := follows.remembers
  gateway_lt := by
    intro other member
    rcases List.mem_append.mp member with before | last
    · exact follows.gateway_lt other before
    · rw [List.mem_singleton.mp last]
      exact made
  request_lt := follows.request_lt

theorem ask (follows : session.Follows requests) {gateway : Gateway}
    (member : gateway ∈ session.gateways) {model : Model} {α : Type} {run : StateM Workspace α}
    (registry_eq : (session.workspace.after run).registry =
      (session.workspace.after (gateway.statements model)).registry)
    (next_eq : (session.workspace.after run).nextRegistry = session.workspace.nextRegistry) :
    (session.after run).Follows (requests ++ [gateway.request model]) where
  remembers := by
    intro id
    change ((session.workspace.after run).registry id).Remembers _
    have sender : (gateway.request model).registry = gateway.registry := rfl
    rw [registry_eq, Gateway.registry_after_statements, receivedBy_append_singleton, sender]
    by_cases same : id = gateway.registry
    · subst same
      rw [if_pos rfl, if_pos rfl]
      exact (follows.remembers gateway.registry).request_snd ⟨model, gateway.dialect⟩
    · rw [if_neg same, if_neg (Ne.symm same), List.append_nil]
      exact follows.remembers id
  gateway_lt := by
    intro other listed
    change _ < (session.workspace.after run).nextRegistry
    rw [next_eq]
    exact follows.gateway_lt other listed
  request_lt := by
    intro request listed
    change _ < (session.workspace.after run).nextRegistry
    rw [next_eq]
    rcases List.mem_append.mp listed with before | last
    · exact follows.request_lt request before
    · rw [List.mem_singleton.mp last]
      exact follows.gateway_lt gateway member

theorem silent (follows : session.Follows requests) : session.Follows (requests ++ []) := by
  rwa [List.append_nil]

theorem step (follows : session.Follows requests) (step : Step) :
    (session.step step).Follows (requests ++ (session.request? step).toList) := by
  cases step with
  | createRegistry => exact follows.createRegistry.silent
  | create dialect => exact (follows.createRegistry.add (Nat.lt_succ_self _)).silent
  | attach dialect registry =>
      rw [Session.step]
      split
      · rename_i made
        exact (follows.add made).silent
      · exact follows.silent
  | clone place =>
      rw [Session.step]
      cases found : session.gateways[place]? with
      | none => exact follows.silent
      | some gateway =>
          exact (follows.add (follows.gateway_lt gateway (List.mem_of_getElem? found))).silent
  | request place model =>
      rw [request?, Session.step]
      cases found : session.gateways[place]? with
      | none => exact follows.silent
      | some gateway => exact follows.ask (List.mem_of_getElem? found) rfl rfl
  | perform place operation =>
      rw [request?, Session.step]
      cases found : session.gateways[place]? with
      | none => exact follows.silent
      | some gateway =>
          obtain ⟨accessors, performed⟩ := gateway.after_perform session.workspace operation
          exact follows.ask (List.mem_of_getElem? found) (congrArg (·.registry) performed)
            (congrArg (·.nextRegistry) performed)

theorem run (follows : session.Follows requests) (steps : List Step) :
    (session.run steps).Follows (requests ++ session.requests steps) := by
  induction steps generalizing session requests with
  | nil =>
      rw [Session.requests, List.append_nil]
      exact follows
  | cons step steps ih =>
      rw [Session.requests, ← List.append_assoc]
      exact ih (follows.step step)

end Follows

end Session

end RowMapping
