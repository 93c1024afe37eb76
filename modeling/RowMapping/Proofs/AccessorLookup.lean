import Mathlib.Data.List.FinRange
import RowMapping.Proofs.Accessors.Positions
import RowMapping.Proofs.Catalog.Erasure
import RowMapping.Proofs.Gateway.Selection
import RowMapping.Proofs.Patch.Writing

/-!
# Looking accessors up

A cache is asked for tables and for single accessors, by patches for the tables of both shapes, and
for the table that the values of a record are bound with. Whatever it has been asked before, it
finds a name at the first declaration of the shape in question, and no answer depends on the cache.
This holds of the cache that all operations of a workspace share. It also holds of a cache whose
tables index positions and are kept without their shapes.
-/

namespace RowMapping

/-! ## The first declaration of a name -/

theorem Shape.first?_eq_some_iff {shape : Shape} {name : String} {place : shape.Place} :
    shape.first? name = some place ↔
      (shape.property place).name = name ∧
        ∀ earlier < place, (shape.property earlier).name ≠ name := by
  have first := List.find?_ofFn_eq_some_of_injective
    (p := fun place => (shape.property place).name == name) (i := place) Function.injective_id
  rw [List.ofFn_id] at first
  simpa [Shape.first?, Shape.places] using first

theorem Shape.first?_eq_none_iff {shape : Shape} {name : String} :
    shape.first? name = none ↔ ∀ property ∈ shape.properties, property.name ≠ name := by
  rw [first?, List.find?_eq_none, ← shape.map_property_places]
  simp

theorem AccessorTable.find?_reflect_eq_some_iff {shape : Shape} {name : String}
    {accessor : Accessor shape} :
    (reflect shape).find? name = some accessor ↔
      accessor.name = name ∧
        ∀ earlier < accessor.place, (shape.property earlier).name ≠ name := by
  obtain ⟨place⟩ := accessor
  rw [find?_reflect, Option.map_eq_some_iff]
  constructor
  · rintro ⟨first, found, same⟩
    cases same
    exact Shape.first?_eq_some_iff.mp found
  · exact fun first => ⟨place, Shape.first?_eq_some_iff.mpr first, rfl⟩

theorem AccessorTable.find?_reflect_eq_none_iff {shape : Shape} {name : String} :
    (reflect shape).find? name = none ↔ ∀ property ∈ shape.properties, property.name ≠ name := by
  rw [find?_reflect, Option.map_eq_none_iff, Shape.first?_eq_none_iff]

namespace AccessorCache

/-! ## Uses of a cache -/

/-- What a cache can be used for. -/
inductive Use where
  /-- Ask for the table of a shape. -/
  | table (shape : Shape)
  /-- Ask for the accessor of a shape by name. -/
  | accessor (shape : Shape) (name : String)
  /-- Bind names to the values of a record. -/
  | bind {shape : Shape} (record : Record shape) (names : List String)
  /-- Ask for the names that a patch would record. -/
  | changes (target : Shape) {source : Shape} (record : Record source)
  /-- Patch a target. -/
  | apply {target : Shape} (old : Record target) {source : Shape} (record : Record source)

namespace Use

/-- The answers to a use. -/
def Answer : Use → Type
  | table shape => AccessorTable shape
  | accessor shape _ => Option (Accessor shape)
  | bind _ _ => Except Error (List (String × Value))
  | changes _ _ => Except Error (List String)
  | @apply target _ _ _ => Except (PatchFailure target) (ChangeSet target)

/-- The shapes whose tables a use asks for, in order. -/
def shapes : Use → List Shape
  | table shape => [shape]
  | accessor shape _ => [shape]
  | @bind shape _ _ => [shape]
  | @changes target source _ => [target, source]
  | @apply target _ source _ => [target, source]

end Use

/-- The answer to a use, and the cache that remembers the tables. -/
def serve (cache : AccessorCache) : (use : Use) → use.Answer × AccessorCache
  | .table shape => cache.request shape
  | .accessor shape name => cache.requestAccessor shape name
  | @Use.bind shape record names =>
      let (table, cache) := cache.request shape
      (table.bind record names, cache)
  | .changes target record => Patch.changes cache target record
  | .apply old record => Patch.apply cache old record

def serveAll (cache : AccessorCache) (uses : List Use) : AccessorCache :=
  uses.foldl (fun cache use => (cache.serve use).2) cache

/-- The cache after requests for some tables. -/
def requestAll (cache : AccessorCache) (shapes : List Shape) : AccessorCache :=
  shapes.foldl (fun cache shape => (cache.request shape).2) cache

theorem serve_fst (cache other : AccessorCache) (use : Use) :
    (cache.serve use).1 = (other.serve use).1 := by
  have same (shape : Shape) : (cache.request shape).1 = (other.request shape).1 := by
    rw [request_fst, request_fst]
  cases use with
  | table shape => exact same shape
  | accessor shape name => exact congrArg (·.find? name) (same shape)
  | @bind shape record names => exact congrArg (·.bind record names) (same shape)
  | changes target record =>
      exact (Patch.changes_fst cache target record).trans
        (Patch.changes_fst other target record).symm
  | apply old record =>
      exact (Patch.apply_fst cache old record).trans (Patch.apply_fst other old record).symm

/-- A use leaves the tables that it has asked for. -/
theorem serve_snd (cache : AccessorCache) (use : Use) :
    (cache.serve use).2 = cache.requestAll use.shapes := by
  cases use with
  | apply old record =>
      simp only [serve, Patch.apply, Patch.tables]
      split <;> rfl
  | _ => rfl

theorem serveAll_eq (cache : AccessorCache) (uses : List Use) :
    cache.serveAll uses = cache.requestAll (uses.flatMap Use.shapes) := by
  induction uses generalizing cache with
  | nil => rfl
  | cons use uses ih =>
      change (cache.serve use).2.serveAll uses = _
      rw [ih, serve_snd, List.flatMap_cons]
      exact List.foldl_append.symm

/-! ## What a cache holds -/

theorem request_snd (cache : AccessorCache) (shape : Shape) :
    (cache.request shape).2 = ⟨cache.tables.enter shape ⟨.reflect shape, rfl⟩⟩ := by
  unfold request
  cases found : cache.tables.find? shape with
  | none => rfl
  | some table => rw [Catalog.enter_of_find?_eq_some found]

theorem keys_requestAll {cache : AccessorCache} {earlier : List Shape}
    (keys_eq : cache.tables.keys = earlier.eraseDups) (shapes : List Shape) :
    (cache.requestAll shapes).tables.keys = (earlier ++ shapes).eraseDups := by
  induction shapes generalizing cache earlier with
  | nil => rw [List.append_nil]; exact keys_eq
  | cons shape shapes ih =>
      have entered : (cache.request shape).2.tables.keys = (earlier ++ [shape]).eraseDups := by
        rw [request_snd, Catalog.keys_enter, keys_eq, eraseDups_append_singleton]
      rw [List.append_cons]
      exact ih entered

/-- There is a table for each shape that has been asked for, and the others are as before. -/
theorem find?_requestAll (cache : AccessorCache) (shapes : List Shape) (shape : Shape) :
    (cache.requestAll shapes).tables.find? shape =
      if shape ∈ shapes then some ⟨.reflect shape, rfl⟩ else cache.tables.find? shape := by
  induction shapes generalizing cache with
  | nil => rfl
  | cons first shapes ih =>
      change ((cache.request first).2.requestAll shapes).tables.find? shape = _
      rw [ih, request_snd]
      by_cases same : first = shape
      · subst same
        have kept : ∀ table : { table : AccessorTable first // table = .reflect first },
            table = ⟨.reflect first, rfl⟩ := fun table => Subtype.ext table.property
        rw [Catalog.find?_enter_self, kept (Option.getD _ _)]
        simp
      · simp [Catalog.find?_enter_of_ne same, Ne.symm same]

end AccessorCache

/-! ## Tables kept without their shapes -/

/-- A cache whose tables index positions and do not tell their shapes. -/
structure ErasedCache where
  tables : Catalog fun _ : Shape => Sigma PositionTable

namespace ErasedCache

open AccessorCache

def empty : ErasedCache := ⟨.empty⟩

/-- The table of a shape, and the cache that remembers it. A kept table that is not of the shape is
no hit; a new one takes the place under the shape unless there is one. -/
def request (cache : ErasedCache) (shape : Shape) : PositionTable shape × ErasedCache :=
  match cache.tables.findTyped? shape with
  | some table => (table, cache)
  | none =>
      let built := PositionTable.reflect shape
      let tables := cache.tables.enter shape ⟨shape, built⟩
      ((tables.findTyped? shape).getD built, ⟨tables⟩)

/-- The answer to a use, and the cache that remembers the tables. -/
def serve (cache : ErasedCache) : (use : Use) → use.Answer × ErasedCache
  | .table shape =>
      let (table, cache) := cache.request shape
      (table.resolve, cache)
  | .accessor shape name =>
      let (table, cache) := cache.request shape
      (table.find? name, cache)
  | @Use.bind shape record names =>
      let (table, cache) := cache.request shape
      (table.resolve.bind record names, cache)
  | @Use.changes target source record =>
      let (targets, cache) := cache.request target
      let (sources, cache) := cache.request source
      ((Patch.plan targets.resolve sources.resolve record).map (·.map (·.accessor.name)), cache)
  | @Use.apply target old source record =>
      let (targets, cache) := cache.request target
      let (sources, cache) := cache.request source
      match Patch.plan targets.resolve sources.resolve record with
      | .error error => (.error ⟨error, old⟩, cache)
      | .ok planned => (Patch.write (.on old) planned, cache)

def serveAll (cache : ErasedCache) (uses : List Use) : ErasedCache :=
  uses.foldl (fun cache use => (cache.serve use).2) cache

end ErasedCache

namespace AccessorCache

/-- The accessors of a kept table, with an index of positions. -/
def positions (shape : Shape) (kept : { table : AccessorTable shape // table = .reflect shape }) :
    PositionTable shape :=
  .ofList kept.val.accessors

theorem positions_eq {shape : Shape}
    (kept : { table : AccessorTable shape // table = .reflect shape }) :
    positions shape kept = .reflect shape := by
  rw [positions, kept.property]
  rfl

/-- The cache without the shapes of its tables, which index positions. -/
def erase (cache : AccessorCache) : ErasedCache := ⟨cache.tables.erase positions⟩

theorem request_erase (cache : AccessorCache) (shape : Shape) :
    cache.erase.request shape = (.reflect shape, (cache.request shape).2.erase) := by
  unfold ErasedCache.request
  rw [request_snd, erase, erase, Catalog.findTyped?_erase]
  cases found : cache.tables.find? shape with
  | some kept =>
      rw [Catalog.enter_of_find?_eq_some found]
      exact congrArg (·, cache.erase) (positions_eq kept)
  | none =>
      have entered : (cache.tables.erase positions).enter shape ⟨shape, .reflect shape⟩ =
          (cache.tables.enter shape ⟨.reflect shape, rfl⟩).erase positions :=
        (cache.tables.erase_enter positions shape ⟨.reflect shape, rfl⟩).symm
      simp only [Option.map_none, entered, Catalog.findTyped?_erase, Catalog.find?_enter_self,
        Option.map_some, Option.getD_some, positions_eq]

/-- Without the shapes a use gives the same answer and leaves the same. -/
theorem serve_erase (cache : AccessorCache) (use : Use) :
    cache.erase.serve use = ((cache.serve use).1, (cache.serve use).2.erase) := by
  cases use with
  | table shape =>
      simp only [ErasedCache.serve, request_erase, PositionTable.resolve_reflect]
      exact congrArg (·, (cache.request shape).2.erase) (cache.request_fst shape).symm
  | accessor shape name =>
      have found : (PositionTable.reflect shape).find? name =
          (cache.request shape).1.find? name := by
        rw [← PositionTable.find?_resolve, PositionTable.resolve_reflect, request_fst]
      simp only [ErasedCache.serve, request_erase, found]
      rfl
  | @bind shape record names =>
      simp only [ErasedCache.serve, serve, request_erase, PositionTable.resolve_reflect,
        request_fst]
  | @changes target source record =>
      simp only [ErasedCache.serve, serve, request_erase, PositionTable.resolve_reflect,
        Patch.changes, Patch.tables, request_fst]
  | @apply target old source record =>
      simp only [ErasedCache.serve, serve, request_erase, PositionTable.resolve_reflect,
        Patch.apply, Patch.tables, request_fst]
      cases Patch.plan (.reflect target) (.reflect source) record <;> rfl

theorem serveAll_erase (cache : AccessorCache) (uses : List Use) :
    cache.erase.serveAll uses = (cache.serveAll uses).erase := by
  induction uses generalizing cache with
  | nil => rfl
  | cons use uses ih =>
      change (cache.erase.serve use).2.serveAll uses = _
      rw [serve_erase]
      exact ih _

/-- What a cache has come to by some uses, and what it answers from then on. -/
structure Faithful (cache : AccessorCache) (uses : List Use) : Prop where
  /-- There is one table for each of the shapes. -/
  keys_eq : cache.tables.keys = (uses.flatMap Use.shapes).eraseDups
  size_eq : cache.size = (uses.flatMap Use.shapes).eraseDups.length
  /-- The table of a shape lists all its declarations. -/
  places_eq : ∀ shape, (cache.request shape).1.accessors.map (·.place) = shape.places
  properties_eq : ∀ shape,
    (cache.request shape).1.accessors.map (·.property) = shape.properties
  /-- A name is found at its first declaration. -/
  found_iff : ∀ shape name accessor,
    (cache.requestAccessor shape name).1 = some accessor ↔
      accessor.name = name ∧ ∀ earlier < accessor.place, (shape.property earlier).name ≠ name
  missing_iff : ∀ shape name,
    (cache.requestAccessor shape name).1 = none ↔
      ∀ property ∈ shape.properties, property.name ≠ name
  /-- Uses without the shape neither make its table nor change it. -/
  find?_eq : ∀ shape (others : List Use), shape ∉ others.flatMap Use.shapes →
    (cache.serveAll others).tables.find? shape = cache.tables.find? shape
  /-- Any other cache gives the same answers. -/
  answer_eq : ∀ (other : AccessorCache) (use : Use), (cache.serve use).1 = (other.serve use).1
  /-- A cache that keeps tables of positions without their shapes comes to the same. -/
  erased_eq : ErasedCache.empty.serveAll uses = cache.erase
  /-- Such a cache gives the same answers, whatever it has been used for. -/
  erased_answer_eq : ∀ (others : List Use) (use : Use),
    ((ErasedCache.empty.serveAll others).serve use).1 = (cache.serve use).1
  /-- The positions in its tables are positions in their lists. -/
  lt_length : ∀ shape name position,
    (cache.erase.request shape).1.index.find? name = some position →
      position < (cache.erase.request shape).1.accessors.length

theorem faithful_serveAll (uses : List Use) : (empty.serveAll uses).Faithful uses := by
  have keys_eq : (empty.serveAll uses).tables.keys = (uses.flatMap Use.shapes).eraseDups := by
    rw [serveAll_eq]
    exact @keys_requestAll empty [] rfl (uses.flatMap Use.shapes)
  exact {
    keys_eq
    size_eq := by rw [← keys_eq, ← Catalog.size_eq_length_keys, size]
    places_eq := by
      intro shape
      rw [request_fst, AccessorTable.reflect, List.map_map]
      exact List.map_id shape.places
    properties_eq := by
      intro shape
      rw [request_fst, AccessorTable.reflect, List.map_map]
      exact shape.map_property_places
    found_iff := by
      intro shape name accessor
      simp only [requestAccessor, request_fst]
      exact AccessorTable.find?_reflect_eq_some_iff
    missing_iff := by
      intro shape name
      simp only [requestAccessor, request_fst]
      exact AccessorTable.find?_reflect_eq_none_iff
    find?_eq := by
      intro shape others unasked
      rw [serveAll_eq _ others, find?_requestAll, if_neg unasked]
    answer_eq := serve_fst _
    erased_eq := serveAll_erase empty uses
    erased_answer_eq := by
      intro others use
      have erased : ErasedCache.empty.serveAll others = (empty.serveAll others).erase :=
        serveAll_erase empty others
      rw [erased, serve_erase]
      exact serve_fst _ _ use
    lt_length := by
      intro shape name position found
      rw [request_erase] at found ⊢
      exact PositionTable.lt_length_of_find?_index found }

end AccessorCache

/-! ## The shared cache -/

namespace Gateway

variable {model : Model} (gateway : Gateway) (workspace : Workspace) (operation : Operation model)

/-- An operation uses the shared cache once it has a text. -/
def uses : List AccessorCache.Use :=
  match gateway.draft workspace model operation.form with
  | .error _ => []
  | .ok template => [.bind operation.record template.names]

theorem accessors_after_perform :
    (workspace.after (gateway.perform operation)).accessors =
      workspace.accessors.serveAll (gateway.uses workspace operation) := by
  rw [perform_eq, produce, Workspace.after_bind, uses, draft]
  cases (workspace.answer (gateway.statements model)).bind (·.draft operation.form) with
  | error error => rfl
  | ok template => rfl

end Gateway

namespace Session

/-- What can happen in a session that uses the shared cache directly, too. -/
inductive Activity where
  /-- Use the shared cache. -/
  | use (use : AccessorCache.Use)
  /-- Anything else in the life of a workspace. -/
  | event (event : Event)

variable (session : Session)

def act : Activity → Session
  | .use use => session.after (Workspace.withAccessors (·.serve use))
  | .event event => session.on event

/-- The uses of the shared cache that an activity makes. -/
def usesOf : Activity → List AccessorCache.Use
  | .use use => [use]
  | .event (.step (.perform gateway operation)) =>
      (session.gateways[gateway]?).elim [] fun gateway =>
        gateway.uses session.workspace operation
  | .event _ => []

def actAll (session : Session) : List Activity → Session
  | [] => session
  | activity :: activities => (session.act activity).actAll activities

/-- The uses of the shared cache that some activities make, oldest first. -/
def usesOfAll (session : Session) : List Activity → List AccessorCache.Use
  | [] => []
  | activity :: activities => session.usesOf activity ++ (session.act activity).usesOfAll activities

theorem accessors_step (step : Step) :
    (session.step step).workspace.accessors =
      session.workspace.accessors.serveAll (session.usesOf (.event (.step step))) := by
  cases step with
  | createRegistry | create dialect => rfl
  | attach dialect registry =>
      rw [Session.step]
      split <;> rfl
  | clone place =>
      rw [Session.step]
      cases session.gateways[place]? <;> rfl
  | request place model =>
      rw [Session.step]
      cases session.gateways[place]? <;> rfl
  | perform place operation =>
      rw [Session.step, usesOf]
      cases session.gateways[place]? with
      | none => rfl
      | some gateway => exact gateway.accessors_after_perform session.workspace operation

/-- Only uses touch the shared cache. -/
theorem accessors_act (activity : Activity) :
    (session.act activity).workspace.accessors =
      session.workspace.accessors.serveAll (session.usesOf activity) := by
  match activity with
  | .use use => rfl
  | .event (.configure kind) =>
      exact congrArg (·.accessors) (after_configure session.workspace kind)
  | .event .selectedDialect => rfl
  | .event .global =>
      cases shared : session.workspace.shared with
      | some gateway =>
          exact congrArg (·.accessors) (global_of_shared session.workspace shared).2
      | none =>
          exact congrArg (·.accessors) (global_of_not_shared session.workspace shared).2
  | .event (.step step) => exact session.accessors_step step

theorem accessors_actAll (session : Session) (activities : List Activity) :
    (session.actAll activities).workspace.accessors =
      session.workspace.accessors.serveAll (session.usesOfAll activities) := by
  induction activities generalizing session with
  | nil => rfl
  | cons activity activities ih =>
      rw [actAll, ih, accessors_act, usesOfAll]
      exact List.foldl_append.symm

end Session

/-- Whatever it has been used for, a cache answers as any other, be it one of its own or the one
that the operations of a workspace share. -/
theorem AccessorCache.faithful_of_serveAll (uses : List Use) (activities : List Session.Activity) :
    (empty.serveAll uses).Faithful uses ∧
      (Session.initial.actAll activities).workspace.accessors.Faithful
        (Session.initial.usesOfAll activities) := by
  refine ⟨faithful_serveAll uses, ?_⟩
  rw [Session.accessors_actAll]
  exact faithful_serveAll _

/-- The second declaration of a name is listed but not found, though it alone has a column. -/
example :
    let unmapped : Property := { name := "X", type := .text, flags := { notMapped := true } }
    let twice : Shape := ⟨"Twice", [unmapped, { name := "X", type := .text }]⟩
    let cache := AccessorCache.empty.serveAll [.accessor twice "Y", .table ⟨"Other", []⟩]
    (cache.request twice).1.size = 2 ∧ cache.size = 2 ∧
      (cache.requestAccessor twice "X").1.map (·.property) = some unmapped :=
  ⟨rfl, rfl, rfl⟩

end RowMapping
