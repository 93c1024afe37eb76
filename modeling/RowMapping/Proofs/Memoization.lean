import RowMapping.Proofs.Gateway.Session

/-!
# Memoization

What a gateway answers in a session depends on the requests that its own registry has received, and
on those only through the first of each key. If all dialects of a family agree, the first of a key
cannot be told from the others, and every answer is that of a build of its own.
-/

namespace RowMapping

/-- A dialect is its family and its traits. -/
theorem Dialect.eq_of_traits_eq {left right : Dialect} (same_family : left.family = right.family)
    (same_traits : left.traits = right.traits) : left = right := by
  cases right with
  | standard kind => exact eq_of_family_eq_standard same_family
  | custom family traits =>
      cases left with
      | standard kind => cases same_family
      | custom =>
          cases same_family
          cases same_traits
          rfl

namespace Gateway

open Registry

/-- All that a gateway answers on a model is what a build under some dialect gives. -/
structure AnswersUnder (gateway : Gateway) (workspace : Workspace) (model : Model)
    (dialect : Dialect) : Prop where
  statements_eq :
    workspace.answer (gateway.statements model) = StatementSet.build model dialect
  perform_eq : ∀ operation : Operation model,
    workspace.answer (gateway.perform operation) =
      ((StatementSet.build model dialect).bind (·.draft operation.form)).bind
        (·.fill (.reflect operation.shape) operation.record)

theorem AnswersUnder.of_statements {gateway : Gateway} {workspace : Workspace} {model : Model}
    {dialect : Dialect}
    (answered : workspace.answer (gateway.statements model) = StatementSet.build model dialect) :
    gateway.AnswersUnder workspace model dialect where
  statements_eq := answered
  perform_eq operation := by rw [answer_perform, draft, answered]

/-- What a gateway makes of the inquiries that its registry has received. -/
structure Recalls (gateway : Gateway) (workspace : Workspace) (received : List Inquiry) :
    Prop where
  /-- The first inquiry for a key, which may be the next one, decides under which dialect. -/
  answers : ∀ model, ∃ first,
    first? (received ++ [⟨model, gateway.dialect⟩]) (keyOf model gateway.dialect) = some first ∧
      gateway.AnswersUnder workspace model first.dialect
  contains_iff : ∀ model dialect,
    (gateway.registryIn workspace).contains model dialect = true ↔
      ∃ inquiry ∈ received, inquiry.key = keyOf model dialect
  /-- The size is the number of distinct keys. -/
  size_eq : (gateway.registryIn workspace).size = (received.map (·.key)).eraseDups.length
  /-- Where the dialects of the family agree, nothing that has been asked matters. -/
  agreed :
    (∀ inquiry ∈ received, inquiry.dialect.family = gateway.dialect.family →
      inquiry.dialect.traits = gateway.dialect.traits) →
    ∀ model, gateway.AnswersUnder workspace model gateway.dialect

theorem exists_first_of_remembers {gateway : Gateway} {workspace : Workspace}
    {received : List Inquiry} (remembers : (gateway.registryIn workspace).Remembers received)
    (model : Model) :
    ∃ first, first? (received ++ [⟨model, gateway.dialect⟩]) (keyOf model gateway.dialect) =
        some first ∧
      gateway.AnswersUnder workspace model first.dialect := by
  have answered := remembers.request_fst ⟨model, gateway.dialect⟩
  obtain ⟨first, found, build_eq⟩ := Option.map_eq_some_iff.mp answered
  obtain ⟨-, same_key⟩ := mem_of_first?_eq_some found
  obtain rfl : first.model = model := congrArg Key.model same_key
  exact ⟨first, found, .of_statements build_eq.symm⟩

theorem Recalls.of_remembers {gateway : Gateway} {workspace : Workspace}
    {received : List Inquiry} (remembers : (gateway.registryIn workspace).Remembers received) :
    gateway.Recalls workspace received where
  answers := exists_first_of_remembers remembers
  contains_iff _ _ := remembers.contains_iff
  size_eq := remembers.size_eq
  agreed := by
    intro agree model
    obtain ⟨first, found, answers⟩ := exists_first_of_remembers remembers model
    obtain ⟨member, same_key⟩ := mem_of_first?_eq_some found
    have same_family : first.dialect.family = gateway.dialect.family :=
      congrArg Key.family same_key
    have same_dialect : first.dialect = gateway.dialect := by
      rcases List.mem_append.mp member with before | last
      · exact Dialect.eq_of_traits_eq same_family (agree first before same_family)
      · rw [List.mem_singleton.mp last]
    rw [← same_dialect]
    exact answers

/-- After any steps of a session, and so at any point of one, a gateway on any registry answers on a
model as the first request for its key that this registry has received would have it; a registry
that is made next has received none. -/
theorem recalls_of_run (steps : List Session.Step) (gateway : Gateway) :
    let workspace := (Session.initial.run steps).workspace
    let requests := Session.initial.requests steps
    gateway.Recalls workspace (Request.receivedBy gateway.registry requests) ∧
      ∀ dialect, Request.receivedBy (workspace.answer (create dialect)).registry requests = [] := by
  intro workspace requests
  have follows : (Session.initial.run steps).Follows requests := Session.Follows.nil.run steps
  refine ⟨.of_remembers (follows.remembers gateway.registry), fun dialect => ?_⟩
  rw [Request.receivedBy, List.map_eq_nil_iff, List.filter_eq_nil_iff]
  intro request listed same
  have made := follows.request_lt request listed
  rw [of_decide_eq_true same] at made
  exact absurd made (Nat.lt_irrefl _)

/-- Dialects of one family and one name that quote by different marks. -/
def quoting (mark : String) : Dialect :=
  .custom "quoting"
    { name := "quoting"
      quote := fun text => String.join [mark, text, mark]
      defaultSchema := none
      style := .returning }

/-- A model of one column. -/
def tag : Model where
  name := "Tag"
  table := "Tags"
  properties := [{ name := "Id", type := .integer .thirtyTwo, flags := { key := true } }]

/-- The second gateway gets the statements of the first, unless it has a registry of its own. -/
theorem recalls_of_run_quoting :
    let steps : List Session.Step :=
      [.create (quoting "'"), .attach (quoting "|") ⟨0⟩, .create (quoting "|"), .request 0 tag]
    let workspace := (Session.initial.run steps).workspace
    workspace.answer (statements ⟨quoting "|", ⟨0⟩⟩ tag) = StatementSet.build tag (quoting "'") ∧
      workspace.answer (statements ⟨quoting "|", ⟨1⟩⟩ tag) =
        StatementSet.build tag (quoting "|") := by
  intro steps workspace
  constructor
  · obtain ⟨first, found, answers⟩ := (recalls_of_run steps ⟨quoting "|", ⟨0⟩⟩).1.answers tag
    obtain rfl : ⟨tag, quoting "'"⟩ = first := Option.some.inj found
    exact answers.statements_eq
  · obtain ⟨first, found, answers⟩ := (recalls_of_run steps ⟨quoting "|", ⟨1⟩⟩).1.answers tag
    obtain rfl : ⟨tag, quoting "|"⟩ = first := Option.some.inj found
    exact answers.statements_eq

end Gateway

end RowMapping
