import RowMapping.Proofs.Gateway.Session

/-!
# The dialect of a workspace

In the life of a workspace its dialect is selected and asked for, its gateway is asked for, and that
gateway and others are used in a session. The first event that selects a dialect settles it, and the
gateway of the workspace, which may be made much later, is in that dialect.
-/

namespace RowMapping.Session

open Workspace

/-- What can happen in the life of a workspace. -/
inductive Event where
  /-- Select the dialect of the workspace. -/
  | configure (kind : DialectKind)
  /-- Ask for the dialect of the workspace. -/
  | selectedDialect
  /-- Ask for the gateway of the workspace, which can be used from then on. -/
  | global
  /-- Use the gateways that are there, or make others. -/
  | step (step : Step)

namespace Event

/-- The dialect that an event selects, unless one has been selected. -/
def selects? : Event → Option DialectKind
  | .configure kind => some kind
  | .global => some defaultDialect
  | .selectedDialect | .step _ => none

/-- The dialect that an event asks to be selected. -/
def configured? : Event → Option DialectKind
  | .configure kind => some kind
  | .selectedDialect | .global | .step _ => none

end Event

/-- The first event that selects a dialect. -/
def selector? (events : List Event) : Option Event := events.find? (·.selects?.isSome)

/-- The dialect that the first event to select one selects. -/
def selection? (events : List Event) : Option DialectKind := events.findSome? (·.selects?)

theorem selector?_eq_none_iff {events : List Event} :
    selector? events = none ↔ selection? events = none := by
  simp [selector?, selection?]

theorem selector?_append_singleton (events : List Event) (event : Event) :
    selector? (events ++ [event]) =
      (selector? events).or (if event.selects?.isSome then some event else none) := by
  simp [selector?, List.find?_append, List.find?_singleton]

theorem selection?_append_singleton (events : List Event) (event : Event) :
    selection? (events ++ [event]) = (selection? events).or event.selects? := by
  simp [selection?, List.findSome?_append]

/-- Later events take no part in the selection. -/
structure Settled (earlier later : List Event) : Prop where
  selector_eq : selector? (earlier ++ later) = selector? earlier
  selection_eq : selection? (earlier ++ later) = selection? earlier

theorem Settled.of_selected {earlier : List Event} {kind : DialectKind}
    (selected : selection? earlier = some kind) (later : List Event) : Settled earlier later where
  selector_eq := by
    have selector_ne : selector? earlier ≠ none := fun absent => by
      cases selected.symm.trans (selector?_eq_none_iff.mp absent)
    obtain ⟨selector, selector_eq⟩ := Option.ne_none_iff_exists'.mp selector_ne
    rw [selector?] at selector_eq ⊢
    rw [List.find?_append, selector_eq, Option.some_or, selector?, selector_eq]
  selection_eq := by
    rw [selection?] at selected ⊢
    rw [List.findSome?_append, selected, Option.some_or, selection?, selected]

theorem Settled.of_silent {event : Event} (silent : event.selects? = none)
    (earlier : List Event) : Settled earlier [event] where
  selector_eq := by simp [selector?_append_singleton, silent]
  selection_eq := by simp [selection?_append_singleton, silent]

/-! ## Runs -/

def on (session : Session) : Event → Session
  | .configure kind => session.after (Workspace.configure kind)
  | .selectedDialect => session.after Workspace.selectedDialect
  | .global => (session.after Gateway.global).add (session.workspace.answer Gateway.global)
  | .step step => session.step step

def onAll (session : Session) : List Event → Session
  | [] => session
  | event :: events => (session.on event).onAll events

/-- What is seen of some events, oldest first. -/
def seen {α : Type} (sight : Session → Event → Option α) (session : Session) : List Event → List α
  | [] => []
  | event :: events => (sight session event).toList ++ (session.on event).seen sight events

/-- The dialect that an event has selected on request. -/
def accepted? (session : Session) : Event → Option DialectKind
  | .configure kind =>
      if session.workspace.answer (Workspace.configure kind) then some kind else none
  | .selectedDialect | .global | .step _ => none

/-- The gateway of the workspace that an event has been answered with. -/
def given? (session : Session) : Event → Option Gateway
  | .global => some (session.workspace.answer Gateway.global)
  | .configure _ | .selectedDialect | .step _ => none

/-- The request that an event has sent. -/
def sent? (session : Session) : Event → Option Request
  | .step step => session.request? step
  | .configure _ | .selectedDialect | .global => none

/-! ## What each event does -/

section

variable (workspace : Workspace)

theorem answer_configure (kind : DialectKind) :
    workspace.answer (Workspace.configure kind) = workspace.selected.isNone := by
  obtain ⟨registry, nextRegistry, accessors, selected, shared⟩ := workspace
  cases selected <;> rfl

theorem after_configure (kind : DialectKind) :
    workspace.after (Workspace.configure kind) =
      { workspace with selected := workspace.selected.or (some kind) } := by
  obtain ⟨registry, nextRegistry, accessors, selected, shared⟩ := workspace
  cases selected <;> rfl

theorem answer_selectedDialect :
    workspace.answer Workspace.selectedDialect = workspace.selected := rfl

/-- The gateway of a workspace, where there is one, is the answer to whoever asks for it. -/
theorem global_of_shared {gateway : Gateway} (known : workspace.shared = some gateway) :
    workspace.answer Gateway.global = gateway ∧ workspace.after Gateway.global = workspace := by
  obtain ⟨registry, nextRegistry, accessors, selected, shared⟩ := workspace
  cases known
  exact ⟨rfl, rfl⟩

theorem global_of_not_shared (unknown : workspace.shared = none) :
    let kind := workspace.selected.getD defaultDialect
    let gateway : Gateway := ⟨.standard kind, ⟨workspace.nextRegistry⟩⟩
    workspace.answer Gateway.global = gateway ∧
      workspace.after Gateway.global =
        { workspace with
          nextRegistry := workspace.nextRegistry + 1
          selected := some kind
          shared := some gateway } := by
  obtain ⟨registry, nextRegistry, accessors, selected, shared⟩ := workspace
  cases unknown
  exact ⟨rfl, rfl⟩

end

/-- The steps of a session leave the dialect and the gateway of the workspace alone. -/
theorem step_keeps (session : Session) (step : Step) :
    (session.step step).workspace.selected = session.workspace.selected ∧
      (session.step step).workspace.shared = session.workspace.shared ∧
        session.gateways ⊆ (session.step step).gateways := by
  cases step with
  | createRegistry => exact ⟨rfl, rfl, List.Subset.refl _⟩
  | create dialect => exact ⟨rfl, rfl, List.subset_append_left _ _⟩
  | attach dialect registry =>
      rw [Session.step]
      split
      · exact ⟨rfl, rfl, List.subset_append_left _ _⟩
      · exact ⟨rfl, rfl, List.Subset.refl _⟩
  | clone place =>
      rw [Session.step]
      cases session.gateways[place]? with
      | none => exact ⟨rfl, rfl, List.Subset.refl _⟩
      | some gateway => exact ⟨rfl, rfl, List.subset_append_left _ _⟩
  | request place model =>
      rw [Session.step]
      cases session.gateways[place]? <;> exact ⟨rfl, rfl, List.Subset.refl _⟩
  | perform place operation =>
      rw [Session.step]
      cases session.gateways[place]? with
      | none => exact ⟨rfl, rfl, List.Subset.refl _⟩
      | some gateway =>
          obtain ⟨accessors, performed⟩ := gateway.after_perform session.workspace operation
          exact ⟨congrArg (·.selected) performed, congrArg (·.shared) performed,
            List.Subset.refl _⟩

/-! ## What some events have led to -/

/-- What a session has come to by some events, of which some have been accepted, have been given
the gateway of the workspace or have sent requests. -/
structure Records (session : Session) (past : List Event) (accepted : List DialectKind)
    (given : List Gateway) (requests : List Request) : Prop where
  selected_eq : session.workspace.selected = selection? past
  /-- The first event that selects is the only one that can have been accepted. -/
  accepted_eq : accepted = ((selector? past).bind (·.configured?)).toList
  given_eq : ∀ gateway ∈ given, session.workspace.shared = some gateway
  shared_eq : ∀ gateway, session.workspace.shared = some gateway →
    gateway ∈ session.gateways ∧
      ∃ kind, session.workspace.selected = some kind ∧ gateway.dialect = .standard kind
  follows : session.Follows requests

namespace Records

variable {session : Session} {past : List Event} {accepted : List DialectKind}
  {given : List Gateway} {requests : List Request}

theorem nil : initial.Records [] [] [] [] where
  selected_eq := rfl
  accepted_eq := rfl
  given_eq _ member := absurd member List.not_mem_nil
  shared_eq := nofun
  follows := .nil

/-- An event that takes no part in the selection leaves the dialect and the gateway. -/
theorem keep (records : session.Records past accepted given requests) {next : Session}
    {event : Event} {sent : List Request} (settled : Settled past [event])
    (selected_eq : next.workspace.selected = session.workspace.selected)
    (shared_eq : next.workspace.shared = session.workspace.shared)
    (gateways : session.gateways ⊆ next.gateways) (follows : next.Follows (requests ++ sent)) :
    next.Records (past ++ [event]) accepted given (requests ++ sent) where
  selected_eq := by rw [selected_eq, records.selected_eq, settled.selection_eq]
  accepted_eq := by rw [records.accepted_eq, settled.selector_eq]
  given_eq := by
    rw [shared_eq]
    exact records.given_eq
  shared_eq := by
    rw [selected_eq, shared_eq]
    exact fun gateway known => (records.shared_eq gateway known).imp_left (gateways ·)
  follows := follows

/-- The gateway of the workspace is what is given out. -/
theorem give (records : session.Records past accepted given requests) {gateway : Gateway}
    (known : session.workspace.shared = some gateway) :
    session.Records past accepted (given ++ [gateway]) requests where
  selected_eq := records.selected_eq
  accepted_eq := records.accepted_eq
  given_eq := by
    intro other member
    rcases List.mem_append.mp member with before | last
    · exact records.given_eq other before
    · rw [List.mem_singleton.mp last, known]
  shared_eq := records.shared_eq
  follows := records.follows

theorem configure (records : session.Records past accepted given requests) (kind : DialectKind) :
    (session.after (Workspace.configure kind)).Records (past ++ [.configure kind])
      (accepted ++ (session.accepted? (.configure kind)).toList) given (requests ++ []) := by
  rw [accepted?, answer_configure, Session.after, after_configure]
  cases selected : session.workspace.selected with
  | some first =>
      change Records _ _ (accepted ++ []) _ _
      rw [List.append_nil]
      exact records.keep (.of_selected (records.selected_eq.symm.trans selected) _) selected.symm
        rfl (List.Subset.refl _) (Follows.silent (records.follows.grow rfl (Nat.le_refl _)))
  | none =>
      have unselected : selection? past = none := records.selected_eq.symm.trans selected
      have absent : selector? past = none := selector?_eq_none_iff.mpr unselected
      exact {
        selected_eq := by rw [selection?_append_singleton, unselected]; rfl
        accepted_eq := by rw [records.accepted_eq, selector?_append_singleton, absent]; rfl
        given_eq := records.given_eq
        shared_eq := by
          intro gateway known
          obtain ⟨-, kind, isKind, -⟩ := records.shared_eq gateway known
          cases selected.symm.trans isKind
        follows := Follows.silent (records.follows.grow rfl (Nat.le_refl _)) }

theorem global (records : session.Records past accepted given requests) :
    ((session.after Gateway.global).add (session.workspace.answer Gateway.global)).Records
      (past ++ [.global]) accepted (given ++ [session.workspace.answer Gateway.global])
      (requests ++ []) := by
  cases shared : session.workspace.shared with
  | some gateway =>
      obtain ⟨answer_eq, after_eq⟩ := global_of_shared session.workspace shared
      obtain ⟨member, kind, selected, -⟩ := records.shared_eq gateway shared
      rw [answer_eq, Session.after, after_eq]
      refine Records.give ?_ shared
      exact records.keep (.of_selected (records.selected_eq.symm.trans selected) _) rfl rfl
        (List.subset_append_left _ _)
        (records.follows.add (records.follows.gateway_lt gateway member)).silent
  | none =>
      obtain ⟨answer_eq, after_eq⟩ := global_of_not_shared session.workspace shared
      rw [answer_eq, Session.after, after_eq]
      refine Records.give ?_ rfl
      exact {
        selected_eq := by
          rw [selection?_append_singleton, ← records.selected_eq]
          cases session.workspace.selected <;> rfl
        accepted_eq := by
          rw [records.accepted_eq, selector?_append_singleton]
          cases selector? past <;> rfl
        given_eq := by
          intro gateway member
          cases shared.symm.trans (records.given_eq gateway member)
        shared_eq := by
          rintro gateway known
          cases known
          exact ⟨List.mem_append_right _ List.mem_cons_self, _, rfl, rfl⟩
        follows := by
          refine Follows.silent (Follows.add ?_ (Nat.lt_succ_self _))
          exact records.follows.grow rfl (Nat.le_succ _) }

theorem on (records : session.Records past accepted given requests) (event : Event) :
    (session.on event).Records (past ++ [event])
      (accepted ++ (session.accepted? event).toList) (given ++ (session.given? event).toList)
      (requests ++ (session.sent? event).toList) := by
  cases event with
  | configure kind =>
      rw [given?, Option.toList_none, List.append_nil]
      exact records.configure kind
  | selectedDialect =>
      simp only [accepted?, given?, Option.toList_none, List.append_nil]
      exact records.keep (.of_silent rfl past) rfl rfl (List.Subset.refl _)
        records.follows.silent
  | global =>
      rw [accepted?, Option.toList_none, List.append_nil]
      exact records.global
  | step step =>
      simp only [accepted?, given?, Option.toList_none, List.append_nil]
      obtain ⟨selected_eq, shared_eq, gateways⟩ := session.step_keeps step
      exact records.keep (.of_silent rfl past) selected_eq shared_eq gateways
        (records.follows.step step)

theorem onAll (records : session.Records past accepted given requests) (events : List Event) :
    (session.onAll events).Records (past ++ events) (accepted ++ session.seen accepted? events)
      (given ++ session.seen given? events) (requests ++ session.seen sent? events) := by
  induction events generalizing session past accepted given requests with
  | nil =>
      simp only [seen, List.append_nil]
      exact records
  | cons event events ih =>
      have rest := ih (records.on event)
      simp only [List.append_assoc, List.singleton_append] at rest
      exact rest

end Records

end RowMapping.Session
