import RowMapping.Proofs.Catalog.Erasure
import RowMapping.Shape.AccessorCache.Interleaving

/-!
# One table for a shape

Requests that miss at the same time all reflect a table of their own, outside of any lock. However
their steps are interleaved, the first table that is offered for a shape stays, and whoever asks for
the shape gets that one: a request whose table comes later drops it. A store that does not know the
shapes of its tables goes through the same states, because it keeps every table under its own shape.
-/

namespace RowMapping

theorem Catalog.find?_enter_of_find?_eq_some {α : Type} [DecidableEq α] {β : α → Type}
    {catalog : Catalog β} {key other : α} {entered : β other}
    (found : catalog.find? other = some entered) (value : β key) :
    (catalog.enter key value).find? other = some entered := by
  by_cases same : key = other
  · subst same
    rw [find?_enter_self, found, Option.getD_some]
  · rw [find?_enter_of_ne same, found]

namespace AccessorCache

/-! ## One step -/

/-- Every table stored for a shape has been reflected by a request for that shape. -/
def Sourced (shapes : List Shape) (stored : Catalog Reflection) : Prop :=
  ∀ shape reflection, stored.find? shape = some reflection →
    shapes[reflection.origin]? = some shape ∧ reflection.table = .reflect shape

/-- No table is replaced. -/
def Keeps (before after : Catalog Reflection) : Prop :=
  ∀ shape reflection, before.find? shape = some reflection → after.find? shape = some reflection

theorem Keeps.refl (stored : Catalog Reflection) : Keeps stored stored := fun _ _ found => found

theorem Keeps.trans {before middle after : Catalog Reflection} (first : Keeps before middle)
    (second : Keeps middle after) : Keeps before after :=
  fun shape reflection found => second shape reflection (first shape reflection found)

theorem Keeps.enter (stored : Catalog Reflection) {shape : Shape} (own : Reflection shape) :
    Keeps stored (stored.enter shape own) :=
  fun _ _ found => Catalog.find?_enter_of_find?_eq_some found own

theorem Sourced.enter {shapes : List Shape} {stored : Catalog Reflection}
    (sourced : Sourced shapes stored) {shape : Shape} {own : Reflection shape}
    (asked : shapes[own.origin]? = some shape) (reflected : own.table = .reflect shape) :
    Sourced shapes (stored.enter shape own) := by
  intro other reflection found
  by_cases same : shape = other
  · subst same
    rw [Catalog.find?_enter_self, Option.some.injEq] at found
    cases earlier : stored.find? shape with
    | some known =>
        rw [earlier, Option.getD_some] at found
        exact sourced shape reflection (found ▸ earlier)
    | none =>
        rw [earlier, Option.getD_none] at found
        exact found ▸ ⟨asked, reflected⟩
  · rw [Catalog.find?_enter_of_ne same] at found
    exact sourced other reflection found

namespace Call

/-- A request holds no table but its own, and has answered what is stored. -/
structure Sound (number : Nat) (stored : Catalog Reflection) (call : Call) : Prop where
  own_eq : ∀ own, call.phase = .holding own → own = ⟨number, .reflect call.shape⟩
  answer_eq : ∀ answer, call.answer? = some answer → stored.find? call.shape = some answer

theorem Sound.mono {number : Nat} {before after : Catalog Reflection} {call : Call}
    (sound : call.Sound number before) (keeps : Keeps before after) :
    call.Sound number after where
  own_eq := sound.own_eq
  answer_eq answer isAnswer := keeps _ _ (sound.answer_eq answer isAnswer)

/-- What a step of a request may do to the stored tables and to the request. -/
structure Moves (number : Nat) (shapes : List Shape) (before after : Catalog Reflection)
    (call next : Call) : Prop where
  keeps : Keeps before after
  sourced : Sourced shapes after
  sound : next.Sound number after
  shape_eq : next.shape = call.shape

/-- The number of steps after which a request is complete, at most. -/
def remaining (call : Call) : Nat :=
  match call.phase with
  | .arrived => 3
  | .missed => 2
  | .holding _ => 1
  | .finished _ => 0

variable {number : Nat} {shapes : List Shape} {stored : Catalog Reflection} {call : Call}

theorem sound_arrived (shape : Shape) : Sound number stored ⟨shape, .arrived⟩ where
  own_eq own isOwn := by cases isOwn
  answer_eq answer isAnswer := by cases isAnswer

theorem sound_missed (shape : Shape) : Sound number stored ⟨shape, .missed⟩ where
  own_eq own isOwn := by cases isOwn
  answer_eq answer isAnswer := by cases isAnswer

theorem sound_holding (shape : Shape) :
    Sound number stored ⟨shape, .holding ⟨number, .reflect shape⟩⟩ where
  own_eq own isOwn := (Phase.holding.inj isOwn).symm
  answer_eq answer isAnswer := by cases isAnswer

theorem sound_finished {shape : Shape} {reflection : Reflection shape}
    (found : stored.find? shape = some reflection) :
    Sound number stored ⟨shape, .finished reflection⟩ where
  own_eq own isOwn := by cases isOwn
  answer_eq answer isAnswer := found.trans isAnswer

theorem moves_step (sourced : Sourced shapes stored) (sound : call.Sound number stored)
    (asked : shapes[number]? = some call.shape) :
    Moves number shapes stored (call.step number stored).1 call (call.step number stored).2 := by
  obtain ⟨shape, phase⟩ := call
  cases phase with
  | arrived =>
      cases found : stored.find? shape with
      | none =>
          simp only [step, found]
          exact ⟨.refl stored, sourced, sound_missed shape, rfl⟩
      | some reflection =>
          simp only [step, found]
          exact ⟨.refl stored, sourced, sound_finished found, rfl⟩
  | missed => exact ⟨.refl stored, sourced, sound_holding shape, rfl⟩
  | holding own =>
      obtain rfl : own = ⟨number, .reflect shape⟩ := sound.own_eq own rfl
      have entered := stored.find?_enter_self shape ⟨number, .reflect shape⟩
      simp only [step, entered, Option.getD_some]
      exact ⟨.enter stored _, sourced.enter asked rfl, sound_finished entered, rfl⟩
  | finished answer => exact ⟨.refl stored, sourced, sound, rfl⟩

theorem remaining_step (number : Nat) (stored : Catalog Reflection) (call : Call) :
    (call.step number stored).2.remaining ≤ call.remaining - 1 := by
  obtain ⟨shape, phase⟩ := call
  cases phase with
  | arrived =>
      simp only [step]
      cases stored.find? shape <;> simp [remaining]
  | missed => exact Nat.le_refl _
  | holding own => exact Nat.le_refl _
  | finished answer => exact Nat.le_refl _

theorem exists_answer_of_remaining (complete : call.remaining = 0) :
    ∃ answer, call.answer? = some answer := by
  obtain ⟨shape, phase⟩ := call
  cases phase with
  | finished answer => exact ⟨answer, rfl⟩
  | arrived | missed | holding own => cases complete

end Call

/-! ## Any number of steps -/

namespace Interleaving

/-- Requests for some shapes arrive at a cache that has no tables. -/
def start (shapes : List Shape) : Interleaving := ⟨.empty, shapes.map fun shape => { shape }⟩

/-- A state goes by the rules, given the shapes that the requests ask for. -/
structure Orderly (state : Interleaving) (shapes : List Shape) : Prop where
  shapes_eq : state.calls.map (·.shape) = shapes
  sourced : Sourced shapes state.stored
  sound : ∀ number (call : Call), state.calls[number]? = some call →
    call.Sound number state.stored

namespace Orderly

variable {state : Interleaving} {shapes : List Shape}

theorem start (shapes : List Shape) : (start shapes).Orderly shapes where
  shapes_eq := by
    rw [Interleaving.start, List.map_map]
    exact List.map_id shapes
  sourced shape reflection found := by cases found
  sound := by
    intro number call found
    obtain ⟨shape, -, rfl⟩ := List.mem_map.mp (List.mem_of_getElem? found)
    exact Call.sound_arrived shape

theorem step (orderly : state.Orderly shapes) (turn : Nat) :
    Keeps state.stored (state.step turn).stored ∧ (state.step turn).Orderly shapes := by
  unfold Interleaving.step
  cases found : state.calls[turn]? with
  | none => exact ⟨.refl state.stored, orderly⟩
  | some call =>
      have asked : shapes[turn]? = some call.shape := by
        rw [← orderly.shapes_eq, List.getElem?_map, found, Option.map_some]
      have moves := Call.moves_step orderly.sourced (orderly.sound turn call found) asked
      refine ⟨moves.keeps, ?_, moves.sourced, ?_⟩
      · rw [List.map_set, moves.shape_eq, orderly.shapes_eq]
        obtain ⟨bound, asked_eq⟩ := List.getElem?_eq_some_iff.mp asked
        rw [← asked_eq, List.set_getElem_self]
      · intro number other isOther
        by_cases same : turn = number
        · subst same
          rw [List.getElem?_set_self (List.getElem?_eq_some_iff.mp found).1] at isOther
          exact Option.some.inj isOther ▸ moves.sound
        · rw [List.getElem?_set_ne same] at isOther
          exact (orderly.sound number other isOther).mono moves.keeps

theorem run (orderly : state.Orderly shapes) (schedule : List Nat) :
    Keeps state.stored (state.run schedule).stored ∧ (state.run schedule).Orderly shapes := by
  induction schedule generalizing state with
  | nil => exact ⟨.refl state.stored, orderly⟩
  | cons turn schedule ih =>
      obtain ⟨keeps, orderlyNext⟩ := orderly.step turn
      obtain ⟨keepsRest, orderlyEnd⟩ := ih orderlyNext
      exact ⟨keeps.trans keepsRest, orderlyEnd⟩

end Orderly

/-- Every step of its own brings a request nearer to its answer, and no other takes it back. -/
theorem remaining_run (schedule : List Nat) {state : Interleaving} {number : Nat} {call : Call}
    (found : state.calls[number]? = some call) :
    ∃ later, (state.run schedule).calls[number]? = some later ∧
      later.remaining ≤ call.remaining - schedule.count number := by
  induction schedule generalizing state call with
  | nil => exact ⟨call, found, Nat.le_refl _⟩
  | cons turn schedule ih =>
      change ∃ later, ((state.step turn).run schedule).calls[number]? = some later ∧ _
      by_cases same : turn = number
      · subst same
        have moved : (state.step turn).calls[turn]? = some (call.step turn state.stored).2 := by
          simp only [Interleaving.step, found]
          exact List.getElem?_set_self (List.getElem?_eq_some_iff.mp found).1
        obtain ⟨later, isLater, remaining_le⟩ := ih moved
        have nearer := Call.remaining_step turn state.stored call
        refine ⟨later, isLater, ?_⟩
        rw [List.count_cons_self]
        omega
      · have waits : (state.step turn).calls[number]? = some call := by
          unfold Interleaving.step
          cases state.calls[turn]? with
          | none => exact found
          | some other => exact (List.getElem?_set_ne same).trans found
        obtain ⟨later, isLater, remaining_le⟩ := ih waits
        rw [List.count_cons_of_ne same]
        exact ⟨later, isLater, remaining_le⟩

end Interleaving

/-! ## Tables stored without their shapes -/

/-- One step of a request to a store that does not know the shapes of its tables. -/
def Call.erasedStep (number : Nat) (stored : Catalog fun _ : Shape => Sigma Reflection)
    (call : Call) : (Catalog fun _ : Shape => Sigma Reflection) × Call :=
  match call.phase with
  | .arrived =>
      match stored.findTyped? call.shape with
      | some reflection => (stored, ⟨call.shape, .finished reflection⟩)
      | none => (stored, ⟨call.shape, .missed⟩)
  | .missed => (stored, ⟨call.shape, .holding ⟨number, .reflect call.shape⟩⟩)
  | .holding own =>
      let stored := stored.enter call.shape ⟨call.shape, own⟩
      (stored, ⟨call.shape, .finished ((stored.findTyped? call.shape).getD own)⟩)
  | .finished _ => (stored, call)

/-- The stored tables, without their shapes, and the requests under way. -/
structure ErasedInterleaving where
  stored : Catalog fun _ : Shape => Sigma Reflection
  calls : List Call

namespace ErasedInterleaving

def step (state : ErasedInterleaving) (turn : Nat) : ErasedInterleaving :=
  match state.calls[turn]? with
  | none => state
  | some call =>
      let (stored, call) := call.erasedStep turn state.stored
      ⟨stored, state.calls.set turn call⟩

def run (state : ErasedInterleaving) (schedule : List Nat) : ErasedInterleaving :=
  schedule.foldl step state

end ErasedInterleaving

/-- The stored tables without their shapes. -/
def erased (stored : Catalog Reflection) : Catalog fun _ : Shape => Sigma Reflection :=
  stored.erase fun _ reflection => reflection

theorem findTyped?_erased (stored : Catalog Reflection) (shape : Shape) :
    (erased stored).findTyped? shape = stored.find? shape := by
  rw [erased, Catalog.findTyped?_erase, Option.map_id']

theorem Call.erasedStep_erased (number : Nat) (stored : Catalog Reflection) (call : Call) :
    call.erasedStep number (erased stored) =
      (erased (call.step number stored).1, (call.step number stored).2) := by
  obtain ⟨shape, phase⟩ := call
  cases phase with
  | arrived =>
      simp only [erasedStep, step, findTyped?_erased]
      cases stored.find? shape <;> rfl
  | missed => rfl
  | holding own =>
      have entered : (erased stored).enter shape ⟨shape, own⟩ = erased (stored.enter shape own) :=
        (stored.erase_enter _ shape own).symm
      simp only [erasedStep, step, entered, findTyped?_erased]
  | finished answer => rfl

namespace Interleaving

/-- The state without the shapes of its tables. -/
def erase (state : Interleaving) : ErasedInterleaving := ⟨erased state.stored, state.calls⟩

theorem step_erase (state : Interleaving) (turn : Nat) :
    state.erase.step turn = (state.step turn).erase := by
  unfold ErasedInterleaving.step Interleaving.step
  change (match state.calls[turn]? with | none => _ | some call => _) = _
  cases state.calls[turn]? with
  | none => rfl
  | some call =>
      dsimp only [erase]
      rw [call.erasedStep_erased]

theorem run_erase (state : Interleaving) (schedule : List Nat) :
    state.erase.run schedule = (state.run schedule).erase := by
  induction schedule generalizing state with
  | nil => rfl
  | cons turn schedule ih =>
      change (state.erase.step turn).run schedule = _
      rw [step_erase, ih]
      rfl

/-! ## What requests can rely on -/

/-- What holds of the requests for some shapes, whichever steps they have taken. -/
structure Converges (state : Interleaving) (shapes : List Shape) : Prop where
  shapes_eq : state.calls.map (·.shape) = shapes
  /-- The answer to a complete request is what is stored for its shape. -/
  answer_eq : ∀ call ∈ state.calls, ∀ answer, call.answer? = some answer →
    state.stored.find? call.shape = some answer
  /-- A stored table is that of its shape, and a request for this very shape has reflected it. -/
  sourced : ∀ shape reflection, state.stored.find? shape = some reflection →
    shapes[reflection.origin]? = some shape ∧ reflection.table = .reflect shape
  /-- A table that is not stored yet is held by the request that has reflected it. -/
  own_eq : ∀ number (call : Call) own, state.calls[number]? = some call →
    call.phase = .holding own → own = ⟨number, .reflect call.shape⟩

theorem Orderly.converges {state : Interleaving} {shapes : List Shape}
    (orderly : state.Orderly shapes) : state.Converges shapes where
  shapes_eq := orderly.shapes_eq
  answer_eq := by
    intro call member answer isAnswer
    obtain ⟨number, found⟩ := List.mem_iff_getElem?.mp member
    exact (orderly.sound number call found).answer_eq answer isAnswer
  sourced := orderly.sourced
  own_eq number call own found := (orderly.sound number call found).own_eq own

/-- Whatever the schedule, a stored table stays, and every request that is complete has got the
table stored for its shape, also if it has reflected one itself; three steps of its own complete a
request. A store that keeps the tables without their shapes goes through the same states, and what
it keeps for a shape is of that shape. -/
theorem converges_of_run (shapes : List Shape) (earlier later : List Nat) :
    let middle := (start shapes).run earlier
    let finish := middle.run later
    (∀ shape reflection, middle.stored.find? shape = some reflection →
      finish.stored.find? shape = some reflection) ∧
    finish.Converges shapes ∧
    (∀ number, number < shapes.length → 3 ≤ (earlier ++ later).count number →
      ∃ call answer, finish.calls[number]? = some call ∧ call.answer? = some answer) ∧
    (start shapes).erase.run (earlier ++ later) = finish.erase ∧
    ∀ shape kept, finish.erase.stored.find? shape = some kept → kept.1 = shape := by
  intro middle finish
  have finish_eq : (start shapes).run (earlier ++ later) = finish := List.foldl_append
  have orderly := (Orderly.start shapes).run earlier
  have orderlyFinish := orderly.2.run later
  refine ⟨orderlyFinish.1, orderlyFinish.2.converges, ?_, ?_, ?_⟩
  · intro number bound turns
    have arrived : (start shapes).calls[number]? = some { shape := shapes[number] } := by
      rw [start, List.getElem?_map, List.getElem?_eq_getElem bound, Option.map_some]
    obtain ⟨call, found, remaining_le⟩ := remaining_run (earlier ++ later) arrived
    rw [finish_eq] at found
    have complete : call.remaining = 0 := by
      have three : Call.remaining { shape := shapes[number] } = 3 := rfl
      omega
    obtain ⟨answer, isAnswer⟩ := Call.exists_answer_of_remaining complete
    exact ⟨call, answer, found, isAnswer⟩
  · rw [run_erase, finish_eq]
  · intro shape kept found
    have found_eq := finish.stored.find?_erase (fun _ reflection => reflection) shape
    obtain ⟨reflection, -, rfl⟩ := Option.map_eq_some_iff.mp (found_eq.symm.trans found)
    rfl

def note : Shape := ⟨"Note", [{ name := "Text", type := .text }]⟩

def tally : Shape := ⟨"Tally", [{ name := "Number", type := .integer .thirtyTwo }]⟩

/-- Three requests reflect tables of their own. The second stores its table, the first drops its own
for it, and the third is for another shape. -/
theorem converges_of_run_rivals :
    let finish := ((start [note, note, tally]).run [0, 1, 2, 0, 1, 2]).run [1, 0, 2]
    finish.calls.map (fun call => call.answer?.map (·.origin)) = [some 1, some 1, some 2] ∧
      finish.Converges [note, note, tally] :=
  ⟨rfl, (converges_of_run [note, note, tally] [0, 1, 2, 0, 1, 2] [1, 0, 2]).2.1⟩

end Interleaving

end AccessorCache

end RowMapping
