import RowMapping.Proofs.BoundNames

/-!
# Finding the parameters of a statement

A parameter goes by two spellings, its name with the sigil and its name without. On a statement that
a gateway returns each spelling of a bound property finds the one value bound to it, and no other
text finds anything: what is bound once and for names without a sigil cannot be mistaken.
-/

namespace RowMapping

namespace Statement

theorem withoutSigil?_eq_some_iff {text property : String} :
    withoutSigil? text = some property ↔ text = parameterName property := by
  rw [← String.toList_inj, parameterName, String.toList_append]
  unfold withoutSigil?
  split
  · rename_i rest letters
    rw [letters, Option.some.injEq, ← String.toList_inj]
    simp
  · rename_i unsigiled
    constructor
    · intro found
      cases found
    · intro letters
      exact absurd letters (unsigiled property.toList)

/-- Whether a text spells the parameter of a property, with the sigil or without. -/
def Spells (text property : String) : Prop := text = property ∨ text = parameterName property

/-- The property that a text is taken to spell. -/
def spelled (text : String) : String := (withoutSigil? text).getD text

theorem parameter?_eq (statement : Statement) (text : String) :
    statement.parameter? text =
      (statement.parameters.find? fun parameter =>
        parameter.1 == parameterName (spelled text)).map Prod.snd := by
  unfold parameter? spelled
  dsimp only
  congr 2
  funext parameter
  rw [Bool.eq_iff_iff, beq_iff_eq, beq_iff_eq, withoutSigil?_eq_some_iff]

/-- A name that can be a parameter has no sigil of its own. -/
theorem withoutSigil?_of_isParameterName {property : String}
    (valid : isParameterName property = true) : withoutSigil? property = none := by
  rw [Option.eq_none_iff_forall_ne_some]
  intro rest sigiled
  obtain rfl := withoutSigil?_eq_some_iff.mp sigiled
  obtain ⟨first, others, letters, starts, -⟩ := Sql.Token.isParameterName_cases valid
  rw [parameterName, String.toList_append] at letters
  obtain ⟨rfl, -⟩ := List.cons.inj letters
  exact absurd starts (by decide)

theorem spelled_eq_iff {text property : String} (valid : isParameterName property = true) :
    spelled text = property ↔ Spells text property := by
  have unsigiled := withoutSigil?_of_isParameterName valid
  unfold spelled Spells
  rw [← withoutSigil?_eq_some_iff]
  cases sigiled : withoutSigil? text with
  | none => simp
  | some rest =>
      have text_ne : text ≠ property := by
        rintro rfl
        cases sigiled.symm.trans unsigiled
      simp [text_ne]

theorem spelled_parameterName (text : String) : spelled (parameterName text) = text := by
  rw [spelled, withoutSigil?_eq_some_iff.mpr rfl, Option.getD_some]

/-- Every parameter is named for a property, and no two parameters are named alike. -/
structure Keyed (statement : Statement) : Prop where
  nodup : (statement.parameters.map Prod.fst).Nodup
  exists_property : ∀ parameter ∈ statement.parameters,
    ∃ property, isParameterName property = true ∧ parameter.1 = parameterName property

namespace Keyed

variable {statement : Statement}

theorem isParameterName (keyed : statement.Keyed) {property : String} {value : Value}
    (bound : (parameterName property, value) ∈ statement.parameters) :
    isParameterName property = true := by
  obtain ⟨named, valid, name_eq⟩ := keyed.exists_property _ bound
  rw [parameterName_injective name_eq]
  exact valid

theorem find?_eq_some_iff (keyed : statement.Keyed) {name : String}
    {parameter : String × Value} :
    (statement.parameters.find? fun other => other.1 == name) = some parameter ↔
      parameter ∈ statement.parameters ∧ parameter.1 = name := by
  constructor
  · intro found
    exact ⟨List.mem_of_find?_eq_some found, by simpa using List.find?_some found⟩
  · rintro ⟨bound, rfl⟩
    obtain ⟨other, found⟩ : ∃ other,
        (statement.parameters.find? fun other => other.1 == parameter.1) = some other := by
      rw [← Option.isSome_iff_exists, List.find?_isSome]
      exact ⟨parameter, bound, by simp⟩
    have other_bound := List.mem_of_find?_eq_some found
    have same_name : other.1 = parameter.1 := by simpa using List.find?_some found
    rw [found, List.inj_on_of_nodup_map keyed.nodup other_bound bound same_name]

theorem parameter?_eq_some_iff (keyed : statement.Keyed) {text : String} {value : Value} :
    statement.parameter? text = some value ↔
      ∃ property, (parameterName property, value) ∈ statement.parameters ∧
        Spells text property := by
  rw [parameter?_eq, Option.map_eq_some_iff]
  constructor
  · rintro ⟨⟨name, _⟩, found, rfl⟩
    obtain ⟨bound, rfl⟩ := keyed.find?_eq_some_iff.mp found
    exact ⟨spelled text, bound, (spelled_eq_iff (keyed.isParameterName bound)).mp rfl⟩
  · rintro ⟨property, bound, spells⟩
    obtain rfl := (spelled_eq_iff (keyed.isParameterName bound)).mpr spells
    exact ⟨_, keyed.find?_eq_some_iff.mpr ⟨bound, rfl⟩, rfl⟩

/-- A text does not spell two parameters. -/
theorem pairwise_spells (keyed : statement.Keyed) (text : String) :
    statement.parameters.Pairwise fun left right =>
      ¬ ∃ one other, left.1 = parameterName one ∧ right.1 = parameterName other ∧
        Spells text one ∧ Spells text other := by
  have named : statement.parameters.Pairwise fun left right => left.1 ≠ right.1 :=
    List.pairwise_map.mp keyed.nodup
  refine named.imp_of_mem ?_
  rintro ⟨leftName, leftValue⟩ ⟨rightName, rightValue⟩ left_bound right_bound names_ne
    ⟨one, other, rfl, rfl, spells_one, spells_other⟩
  have one_eq := (spelled_eq_iff (keyed.isParameterName left_bound)).mpr spells_one
  have other_eq := (spelled_eq_iff (keyed.isParameterName right_bound)).mpr spells_other
  exact names_ne (congrArg parameterName (one_eq.symm.trans other_eq))

theorem parameter?_eq_none_iff (keyed : statement.Keyed) {text : String} :
    statement.parameter? text = none ↔
      ∀ property, Spells text property →
        parameterName property ∉ statement.parameters.map Prod.fst := by
  rw [Option.eq_none_iff_forall_ne_some]
  constructor
  · rintro missing property spells member
    obtain ⟨⟨_, value⟩, bound, rfl⟩ := List.mem_map.mp member
    exact missing value (keyed.parameter?_eq_some_iff.mpr ⟨property, bound, spells⟩)
  · intro unbound value found
    obtain ⟨property, bound, spells⟩ := keyed.parameter?_eq_some_iff.mp found
    exact unbound property spells (List.mem_map_of_mem bound)

/-- A text that is no name, with or without a sigil in front, finds nothing. -/
theorem parameter?_eq_none (keyed : statement.Keyed) {text : String}
    (unusable : RowMapping.isParameterName (spelled text) = false) :
    statement.parameter? text = none := by
  refine keyed.parameter?_eq_none_iff.mpr fun property spells member => ?_
  obtain ⟨⟨_, value⟩, bound, rfl⟩ := List.mem_map.mp member
  have valid := keyed.isParameterName bound
  rw [(spelled_eq_iff valid).mpr spells, valid] at unusable
  cases unusable

theorem parameter?_sigils (keyed : statement.Keyed) (text : String) :
    statement.parameter? (parameterName (parameterName text)) = none := by
  apply keyed.parameter?_eq_none
  rw [spelled_parameterName, ← Bool.not_eq_true]
  intro valid
  cases (withoutSigil?_of_isParameterName valid).symm.trans (withoutSigil?_eq_some_iff.mpr rfl)

end Keyed

/-- How texts find the parameters of a statement. -/
structure FindsBySpelling (statement : Statement) : Prop where
  eq_some_iff : ∀ text value, statement.parameter? text = some value ↔
    ∃ property, (parameterName property, value) ∈ statement.parameters ∧ Spells text property
  eq_none_iff : ∀ text, statement.parameter? text = none ↔
    ∀ property, Spells text property →
      parameterName property ∉ statement.parameters.map Prod.fst
  /-- There is one parameter at most that a text spells. -/
  unique : ∀ text, statement.parameters.Pairwise fun left right =>
    ¬ ∃ one other, left.1 = parameterName one ∧ right.1 = parameterName other ∧
      Spells text one ∧ Spells text other
  /-- Both spellings of a bound property find its value. -/
  both : ∀ property value, (parameterName property, value) ∈ statement.parameters →
    statement.parameter? property = some value ∧
      statement.parameter? (parameterName property) = some value
  /-- Two sigils are one too many. -/
  sigils : ∀ text, statement.parameter? (parameterName (parameterName text)) = none
  /-- There is no parameter without a name. -/
  empty : statement.parameter? "" = none ∧ statement.parameter? (parameterName "") = none

end Statement

namespace Gateway

variable {gateway : Gateway} {workspace : Workspace} {model : Model}

/-- What reflection has accepted as a name keeps the parameters of every operation apart. -/
theorem keyed_of_perform {operation : Operation model} {statement : Statement}
    (returned : workspace.answer (gateway.perform operation) = .ok statement) :
    statement.Keyed := by
  obtain ⟨used, mapping, -, reflects, -⟩ := exists_perform_eq returned
  obtain ⟨dialect, -, -, -, names_eq⟩ := map_fst_of_perform returned
  constructor
  · rw [names_eq]
    exact (nodup_eraseDups _).map parameterName_injective
  · intro parameter bound
    have named : parameter.1 ∈ statement.parameters.map Prod.fst := List.mem_map_of_mem bound
    rw [names_eq] at named
    obtain ⟨name, listed, name_eq⟩ := List.mem_map.mp named
    obtain ⟨pair, pair_mem, rfl⟩ := List.mem_map.mp (List.mem_eraseDups.mp listed)
    obtain ⟨property, mapped, rfl⟩ := Shape.exists_mapped_of_mem_bound pair_mem
    exact ⟨property.name, reflects.sound.isParameterName property mapped, name_eq.symm⟩

/-- On whatever an operation returns, a text finds the value of the one parameter that it spells
with the sigil or without, and nothing if it spells none. -/
theorem findsBySpelling_of_perform {operation : Operation model} {statement : Statement}
    (returned : workspace.answer (gateway.perform operation) = .ok statement) :
    statement.FindsBySpelling := by
  have keyed := keyed_of_perform returned
  exact {
    eq_some_iff := fun _ _ => keyed.parameter?_eq_some_iff
    eq_none_iff := fun _ => keyed.parameter?_eq_none_iff
    unique := keyed.pairwise_spells
    both := fun property value bound =>
      ⟨keyed.parameter?_eq_some_iff.mpr ⟨property, bound, .inl rfl⟩,
        keyed.parameter?_eq_some_iff.mpr ⟨property, bound, .inr rfl⟩⟩
    sigils := keyed.parameter?_sigils
    empty := by
      constructor
      · exact keyed.parameter?_eq_none rfl
      · apply keyed.parameter?_eq_none
        rw [Statement.spelled_parameterName]
        rfl }

/-- An update that also assigns its key, on columns whose names mention parameters. -/
theorem findsBySpelling_of_perform_entangled :
    let gateway : Gateway := ⟨.standard .sqlServer, ⟨0⟩⟩
    let record : Record StatementSet.entangled.toShape := .blank _
    let changes := ((ChangeSet.on record).recordAll ["Note", "Id"]).2
    ∃ statement,
      Workspace.initial.answer (gateway.perform (.updateChanges changes)) = .ok statement ∧
      statement.parameter? "Note" = some (.text "") ∧
      statement.parameter? "@Note" = some (.text "") ∧
      statement.parameter? "@@Note" = none ∧ statement.parameter? "@" = none := by
  intro gateway record changes
  refine ⟨_, rfl, ?_⟩
  have finds := @findsBySpelling_of_perform gateway .initial StatementSet.entangled
    (.updateChanges changes) _ rfl
  obtain ⟨found, found_sigiled⟩ := finds.both "Note" (.text "") List.mem_cons_self
  exact ⟨found, found_sigiled, finds.sigils "Note", finds.empty.2⟩

end Gateway

end RowMapping
