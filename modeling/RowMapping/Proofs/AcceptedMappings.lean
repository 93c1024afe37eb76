import RowMapping.Proofs.Mapping.Verdict

/-!
# Accepted mappings

Reflection accepts the well-formed models, and what it makes of one can be read off its mapped
declarations. Of any other model it reports the first defect: a table without a name, a database out
of reach, then the first mapped declaration whose name cannot be a parameter or has come before or
whose column has come before, and last that nothing is mapped.
-/

namespace RowMapping

/-- An ASCII letter or an underscore. -/
def IsNameStart (letter : Char) : Prop :=
  ('A' ≤ letter ∧ letter ≤ 'Z') ∨ ('a' ≤ letter ∧ letter ≤ 'z') ∨ letter = '_'

/-- One such letter, and then such letters and digits to the end. -/
def IsIdentifier (name : String) : Prop :=
  ∃ first rest, name.toList = first :: rest ∧ IsNameStart first ∧
    ∀ letter ∈ rest, IsNameStart letter ∨ ('0' ≤ letter ∧ letter ≤ '9')

theorem between_iff (low high letter : Char) :
    (decide (low.val ≤ letter.val) && decide (letter.val ≤ high.val)) = true ↔
      low ≤ letter ∧ letter ≤ high := by
  rw [Bool.and_eq_true, decide_eq_true_iff, decide_eq_true_iff]
  rfl

theorem isNameStart_iff (letter : Char) :
    (letter.isAlpha || letter == '_') = true ↔ IsNameStart letter := by
  have alpha_iff : letter.isAlpha = true ↔ letter.isUpper = true ∨ letter.isLower = true :=
    Bool.or_eq_true_iff
  have upper_iff : letter.isUpper = true ↔ 'A' ≤ letter ∧ letter ≤ 'Z' := decide_eq_true_iff
  have lower_iff : letter.isLower = true ↔ 'a' ≤ letter ∧ letter ≤ 'z' :=
    between_iff 'a' 'z' letter
  rw [Bool.or_eq_true, beq_iff_eq, alpha_iff, upper_iff, lower_iff, or_assoc, IsNameStart]

theorem isNamePart_iff (letter : Char) :
    (letter.isAlphanum || letter == '_') = true ↔
      IsNameStart letter ∨ ('0' ≤ letter ∧ letter ≤ '9') := by
  have digit_iff : letter.isDigit = true ↔ '0' ≤ letter ∧ letter ≤ '9' :=
    between_iff '0' '9' letter
  rw [← isNameStart_iff, ← digit_iff, Char.isAlphanum]
  simp only [Bool.or_eq_true]
  tauto

theorem isParameterName_iff (name : String) :
    isParameterName name = true ↔ IsIdentifier name := by
  unfold isParameterName IsIdentifier
  cases name.toList with
  | nil => simp
  | cons first rest =>
      simp only [Bool.and_eq_true, List.all_eq_true, isNameStart_iff, isNamePart_iff,
        List.cons.injEq]
      constructor
      · rintro ⟨starts, continues⟩
        exact ⟨first, rest, ⟨rfl, rfl⟩, starts, continues⟩
      · rintro ⟨_, _, ⟨rfl, rfl⟩, starts, continues⟩
        exact ⟨starts, continues⟩

namespace TableMapping

/-- The mapping that the declarations of a model call for: each mapped declaration, in order, with
its own column or else one of its name, on the path of the table. -/
def described (model : Model) (traits : DialectTraits) : TableMapping :=
  let path : ObjectPath :=
    { database := model.database
      schema := model.schema <|> traits.defaultSchema
      table := model.table }
  { model := model.name
    path
    properties := model.mapped.map fun property =>
      { name := property.name
        column := property.column.getD property.name
        object := path
        type := property.type
        flags := property.flags
        order := property.order } }

/-- A model is mapped exactly if it is well-formed, and then as its declarations call for, with no
name and no column twice; it is rejected exactly if it has a first defect, with the report of that
defect. What can be a parameter is an identifier. -/
theorem verdict_of_reflect (model : Model) (dialect : Dialect) :
    (∀ mapping, reflect model dialect = .ok mapping ↔
      WellFormed model dialect.traits ∧ mapping = described model dialect.traits) ∧
    (∀ mapping, reflect model dialect = .ok mapping → mapping.properties ≠ [] ∧
      (mapping.properties.map (·.name)).Nodup ∧ (mapping.properties.map (·.column)).Nodup) ∧
    (∀ error, reflect model dialect = .error error ↔
      ∃ defect, FirstDefect model dialect.traits defect ∧ error = .ofDefect model.name defect) ∧
    ∀ name, isParameterName name = true ↔ IsIdentifier name := by
  refine ⟨fun mapping => reflect_eq_ok_iff, fun mapping accepted => ?_,
    fun error => reflect_eq_error_iff, isParameterName_iff⟩
  have reflects := reflects_of_reflect accepted
  refine ⟨reflects.properties_ne, ?_, ?_⟩
  · rw [reflects.properties_eq, map_name_ofProperty]
    exact reflects.sound.names_nodup
  · rw [reflects.properties_eq, map_column_ofProperty]
    exact reflects.sound.columns_nodup

/-- A label in the column of the code, after a declaration without column and before a second label;
the database is named by nothing. -/
def voucher : Model where
  name := "Voucher"
  table := " Vouchers"
  database := some ""
  properties :=
    [{ name := "Code", type := .text, flags := { key := true } },
     { name := "Code (old)", type := .text, flags := { notMapped := true } },
     { name := "Label", type := .text, column := some "Code" },
     { name := "Label", type := .text }]

/-- Where the database can be reached, the column is the first defect. -/
theorem verdict_of_reflect_voucher :
    reflect voucher (.standard .sqlServer) =
        .error (.configuration
          ⟨.invalidMapping, some "Voucher", "column 'Code' is mapped twice"⟩) ∧
      reflect voucher (.standard .postgres) =
        .error (.configuration
          ⟨.unsupportedPath, some "Voucher", "dialect 'postgres' cannot address database ''"⟩) := by
  have named : Text.trim voucher.table ≠ "" := by decide
  have sound : Sound (voucher.mapped.take 1) :=
    Sound.nil.snoc (by decide) (by decide) (by decide)
  have faulty : Faulty (voucher.mapped.take 1) voucher.mapped[1] (.repeatedColumn "Code") :=
    .repeatedColumn (by decide) (by decide) (by decide)
  constructor
  · exact ((verdict_of_reflect voucher _).2.2.1 _).mpr
      ⟨_, .faulty named (.inr rfl) rfl sound faulty, rfl⟩
  · exact ((verdict_of_reflect voucher _).2.2.1 _).mpr
      ⟨_, .unreachableDatabase named rfl rfl, rfl⟩

end TableMapping

end RowMapping
