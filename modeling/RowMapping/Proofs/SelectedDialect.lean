import RowMapping.Proofs.Gateway.Selection
import RowMapping.Proofs.Memoization

/-!
# One dialect for a workspace

Whoever first selects a dialect or asks for the gateway of the workspace decides for good. Only a
first selection is accepted, everybody gets the same gateway, and that gateway is in the dialect
selected and remembers what it has been asked.
-/

namespace RowMapping.Session

/-- What a workspace answers on its dialect after some events. -/
structure Answers (session : Session) (past : List Event) : Prop where
  selectedDialect_eq : session.workspace.answer Workspace.selectedDialect = selection? past
  selectedDialect_eq_none_iff :
    session.workspace.answer Workspace.selectedDialect = none ↔
      ∀ event ∈ past, event.selects? = none
  /-- A selection is accepted if nothing has been selected. -/
  configure_eq : ∀ kind,
    session.workspace.answer (Workspace.configure kind) = (selection? past).isNone
  global_dialect_eq :
    (session.workspace.answer Gateway.global).dialect =
      .standard ((selection? past).getD Workspace.defaultDialect)

/-- A gateway is that of the workspace, is in its dialect, and has in its registry what it must
after some requests. -/
structure Serves (session : Session) (gateway : Gateway) (requests : List Request) : Prop where
  global_eq : session.workspace.answer Gateway.global = gateway
  dialect_eq : ∃ kind, session.workspace.answer Workspace.selectedDialect = some kind ∧
    gateway.dialect = .standard kind
  statements_eq : ∀ model,
    session.workspace.answer (gateway.statements model) = StatementSet.build model gateway.dialect
  /-- Whatever has been requested from its registry stays there. -/
  contains_iff : ∀ model dialect,
    (gateway.registryIn session.workspace).contains model dialect = true ↔
      ∃ inquiry ∈ Request.receivedBy gateway.registry requests,
        inquiry.key = Registry.keyOf model dialect

namespace Records

variable {session : Session} {past : List Event} {accepted : List DialectKind}
  {given : List Gateway} {requests : List Request}

theorem answers (records : session.Records past accepted given requests) :
    session.Answers past where
  selectedDialect_eq := records.selected_eq
  selectedDialect_eq_none_iff := by
    rw [answer_selectedDialect, records.selected_eq]
    exact List.findSome?_eq_none_iff
  configure_eq kind := by rw [answer_configure, records.selected_eq]
  global_dialect_eq := by
    rw [← records.selected_eq]
    cases shared : session.workspace.shared with
    | none => rw [(global_of_not_shared session.workspace shared).1]
    | some gateway =>
        obtain ⟨-, kind, selected, dialect_eq⟩ := records.shared_eq gateway shared
        rw [(global_of_shared session.workspace shared).1, dialect_eq, selected, Option.getD_some]

theorem serves (records : session.Records past accepted given requests) {gateway : Gateway}
    (listed : gateway ∈ given) : session.Serves gateway requests := by
  have shared := records.given_eq gateway listed
  obtain ⟨-, kind, selected, dialect_eq⟩ := records.shared_eq gateway shared
  exact {
    global_eq := (global_of_shared session.workspace shared).1
    dialect_eq := ⟨kind, selected, dialect_eq⟩
    statements_eq := by
      intro model
      rw [Gateway.statements_of_standard dialect_eq, dialect_eq]
    contains_iff := fun _ _ => (records.follows.remembers gateway.registry).contains_iff }

end Records

/-- The first event that selects a dialect fixes it for good. If that event is a configuration it is
accepted, and no other ever is. All who ask for the gateway of the workspace get one and the same,
in that dialect. -/
theorem dialect_of_run (events later : List Event) :
    let session := initial.onAll events
    session.Answers events ∧
      (∀ kind, selection? events = some kind →
        (session.onAll later).workspace.answer Workspace.selectedDialect = some kind) ∧
      initial.seen accepted? events = ((selector? events).bind (·.configured?)).toList ∧
      ∀ gateway ∈ initial.seen given? events,
        session.Serves gateway (initial.seen sent? events) := by
  intro session
  have records := Records.nil.onAll events
  refine ⟨records.answers, ?_, records.accepted_eq, fun gateway listed => records.serves listed⟩
  intro kind selected
  have finish := (records.onAll later).answers.selectedDialect_eq
  rw [List.nil_append, (Settled.of_selected selected later).selection_eq, selected] at finish
  exact finish

/-- A dialect is selected, another is refused, and the gateway is asked for twice and used. -/
def lifetime : List Event :=
  [.selectedDialect, .configure .sqlite, .configure .sqlServer, .global,
    .step (.request 0 Gateway.tag), .global]

/-- The gateway is asked for before a dialect is selected, and the selection comes too late. -/
def unconfigured : List Event := [.global, .configure .sqlite, .selectedDialect]

theorem dialect_of_run_lifetime :
    let session := initial.onAll lifetime
    let other := initial.onAll unconfigured
    session.workspace.answer Workspace.selectedDialect = some .sqlite ∧
      initial.seen accepted? lifetime = [.sqlite] ∧
      initial.seen given? lifetime = [⟨.standard .sqlite, ⟨0⟩⟩, ⟨.standard .sqlite, ⟨0⟩⟩] ∧
      (session.workspace.registry ⟨0⟩).contains Gateway.tag (.standard .sqlite) = true ∧
      other.workspace.answer Workspace.selectedDialect = some .postgres ∧
      initial.seen accepted? unconfigured = [] ∧
      initial.seen given? unconfigured = [⟨.standard .postgres, ⟨0⟩⟩] ∧
      other.workspace.answer Gateway.global = ⟨.standard .postgres, ⟨0⟩⟩ := by
  intro session other
  obtain ⟨answers, -, accepted_eq, serves⟩ := dialect_of_run lifetime []
  obtain ⟨otherAnswers, -, refused_eq, otherServes⟩ := dialect_of_run unconfigured []
  have given_eq : initial.seen given? lifetime =
      [⟨.standard .sqlite, ⟨0⟩⟩, ⟨.standard .sqlite, ⟨0⟩⟩] := rfl
  have other_given_eq : initial.seen given? unconfigured = [⟨.standard .postgres, ⟨0⟩⟩] := rfl
  refine ⟨answers.selectedDialect_eq, accepted_eq, given_eq, ?_, otherAnswers.selectedDialect_eq,
    refused_eq, other_given_eq, ?_⟩
  · have served := serves ⟨.standard .sqlite, ⟨0⟩⟩ (given_eq ▸ List.mem_cons_self)
    exact (served.contains_iff _ _).mpr
      ⟨⟨Gateway.tag, .standard .sqlite⟩, List.mem_cons_self, rfl⟩
  · exact (otherServes _ (other_given_eq ▸ List.mem_cons_self)).global_eq

end RowMapping.Session
