import RowMapping.Registry.Interleaving
import RowMapping.Proofs.Memoization
import RowMapping.Proofs.Registry.Race

/-!
# Concurrent requests

However the steps of any number of requests are interleaved, there is one build for a key at most,
and every request for the key that completes gets its result from one slot. Requests that look
their slots up by the key every time cannot be told from requests that hold on to them.
-/

namespace RowMapping.Registry

/-! ## Requests that hold no slots -/

/-- How far a request has come, whichever slot it holds. -/
def Stage.phase : Stage → Phase
  | .arrived => .arrived
  | .missed => .missed
  | .holding _ => .placed
  | .finished _ answer => .finished answer

/-- The request without the slot that it holds. -/
def Racer.call (racer : Racer) : Call :=
  ⟨racer.inquiry.model, racer.inquiry.dialect, racer.stage.phase⟩

/-- A registry has the keys of a store, in the same order, with the same results. -/
structure SlotStore.Mirrors (store : SlotStore) (registry : Registry) : Prop where
  keys_eq : registry.slots.keys = store.directory.keys
  result_eq : ∀ key, (registry.built? key).map (·.result) = store.resultOf? key

namespace SlotStore.Mirrors

variable {store : SlotStore} {registry : Registry}

theorem empty : SlotStore.empty.Mirrors .empty where
  keys_eq := rfl
  result_eq _ := rfl

theorem contains_eq (mirrors : store.Mirrors registry) (inquiry : Inquiry) :
    registry.contains inquiry.model inquiry.dialect = (store.slot? inquiry.key).isSome := by
  rw [Bool.eq_iff_iff, contains, Catalog.contains_iff, mirrors.keys_eq, mem_keys_iff,
    Option.isSome_iff_exists, Inquiry.key]

theorem reserve (mirrors : store.Mirrors registry) (key : Key) :
    (store.reserve key).2.Mirrors (registry.reserve key) where
  keys_eq := by rw [keys_reserve, Registry.reserve, Catalog.keys_enter, mirrors.keys_eq]
  result_eq other := by rw [built?_reserve, resultOf?_reserve, mirrors.result_eq]

variable {slot : SlotId} {inquiry : Inquiry}

theorem fill_fst (mirrors : store.Mirrors registry) (held : store.slot? inquiry.key = some slot) :
    (registry.fill inquiry.model inquiry.dialect).1 = (store.fill slot inquiry).1 := by
  have result_eq := mirrors.result_eq inquiry.key
  rw [resultOf?_eq held, Inquiry.key] at result_eq
  rw [Registry.fill_fst, SlotStore.fill_fst, result_eq, Inquiry.build]

theorem fill (mirrors : store.Mirrors registry) (held : store.slot? inquiry.key = some slot) :
    (store.fill slot inquiry).2.Mirrors (registry.fill inquiry.model inquiry.dialect).2 where
  keys_eq := by rw [keys_fill, directory_fill, mirrors.keys_eq]
  result_eq key := by
    by_cases same : inquiry.key = key
    · subst same
      have present : inquiry.key ∈ registry.slots.keys := by
        rw [mirrors.keys_eq]
        exact mem_keys_iff.mpr ⟨slot, held⟩
      rw [resultOf?_fill_self held, ← mirrors.fill_fst held]
      exact result_fill_self present
    · rw [built?_fill_of_ne same, resultOf?_fill_of_ne held same, mirrors.result_eq]

theorem step (mirrors : store.Mirrors registry) {racer : Racer} (sound : racer.Sound store) :
    (racer.step store).1.Mirrors (racer.call.step registry).1 ∧
      (racer.call.step registry).2 = (racer.step store).2.call := by
  obtain ⟨inquiry, stage⟩ := racer
  cases stage with
  | arrived =>
      have contains_eq := mirrors.contains_eq inquiry
      cases found : store.slot? inquiry.key <;> rw [found] at contains_eq <;>
        simp [Racer.step, Call.step, Racer.call, Stage.phase, found, contains_eq, mirrors]
  | missed => exact ⟨mirrors.reserve inquiry.key, rfl⟩
  | holding slot =>
      have held : store.slot? inquiry.key = some slot := sound.slot_eq rfl
      refine ⟨mirrors.fill held, ?_⟩
      exact congrArg (Call.mk _ _ <| .finished ·) (mirrors.fill_fst held)
  | finished slot answer => exact ⟨mirrors, rfl⟩

end SlotStore.Mirrors

/-- An inquiry that nothing has been done about. -/
def Inquiry.call (inquiry : Inquiry) : Call :=
  { model := inquiry.model, dialect := inquiry.dialect }

namespace Race

/-- A state is that of a race, except that the requests do not hold their slots. -/
structure Represents (race : Race) (state : Interleaving) : Prop where
  calls_eq : state.calls = race.racers.map (·.call)
  mirrors : race.store.Mirrors state.registry

namespace Represents

variable {race : Race} {state : Interleaving} {builds : List Inquiry}

theorem start (inquiries : List Inquiry) :
    (Race.start inquiries).Represents ⟨.empty, inquiries.map (·.call)⟩ where
  calls_eq := by
    rw [Race.start, List.map_map]
    rfl
  mirrors := .empty

theorem step (represents : race.Represents state) (fair : race.Fair builds) (turn : Nat) :
    (race.step turn).Represents (state.step turn) := by
  have turn_eq : state.calls[turn]? = (race.racers[turn]?).map (·.call) := by
    rw [represents.calls_eq, List.getElem?_map]
  unfold Race.step Interleaving.step
  rw [turn_eq]
  cases found : race.racers[turn]? with
  | none => exact represents
  | some racer =>
      obtain ⟨mirrors, call_eq⟩ :=
        represents.mirrors.step (fair.sound racer (List.mem_of_getElem? found))
      constructor
      · change state.calls.set turn (racer.call.step state.registry).2 =
          (race.racers.set turn (racer.step race.store).2).map (·.call)
        rw [represents.calls_eq, call_eq, List.map_set]
      · exact mirrors

theorem run (represents : race.Represents state) (fair : race.Fair builds) (schedule : List Nat) :
    (race.run schedule).Represents (state.run schedule) := by
  induction schedule generalizing race state builds with
  | nil => exact represents
  | cons turn schedule ih => exact ih (represents.step fair turn) (fair.step turn).2

end Represents

/-! ## One build for a key -/

/-- What requests that are made at the same time can rely on, given the builds so far. -/
structure BuildsOnce (race : Race) (builds : List Inquiry) : Prop where
  /-- There is one build for a key at most. -/
  nodup : (builds.map (·.key)).Nodup
  /-- What is in the slot of a key is the result of the build for it. -/
  result_eq : ∀ key, race.store.resultOf? key = (first? builds key).map (·.build)
  /-- The slot that a request holds is that of its key. -/
  slot_eq : ∀ racer ∈ race.racers, ∀ slot, racer.slot? = some slot →
    race.store.slot? racer.inquiry.key = some slot
  /-- The answer to a complete request is what is in the slot of its key. -/
  answer_eq : ∀ racer ∈ race.racers, ∀ answer, racer.answer? = some answer →
    race.store.resultOf? racer.inquiry.key = some answer
  /-- There are as many keys as requests that hold their slots have. -/
  size_eq : race.store.directory.size =
    ((race.racers.filter (·.slot?.isSome)).map (·.inquiry.key)).eraseDups.length

variable {race : Race} {builds : List Inquiry}

theorem Fair.mem_keys_iff (fair : race.Fair builds) {key : Key} :
    key ∈ race.store.directory.keys ↔
      key ∈ ((race.racers.filter (·.slot?.isSome)).map (·.inquiry.key)).eraseDups := by
  rw [List.mem_eraseDups, List.mem_map]
  constructor
  · intro member
    obtain ⟨racer, listed, isKey, placed⟩ := fair.entered key member
    exact ⟨racer, List.mem_filter.mpr ⟨listed, placed⟩, isKey⟩
  · rintro ⟨racer, member, rfl⟩
    obtain ⟨listed, placed⟩ := List.mem_filter.mp member
    obtain ⟨slot, isSlot⟩ := Option.isSome_iff_exists.mp placed
    exact SlotStore.mem_keys_iff.mpr ⟨slot, (fair.sound racer listed).slot_eq isSlot⟩

theorem Fair.buildsOnce (fair : race.Fair builds) : race.BuildsOnce builds where
  nodup := fair.holds.nodup
  result_eq := fair.holds.result_eq
  slot_eq racer listed slot isSlot := (fair.sound racer listed).slot_eq isSlot
  answer_eq := by
    intro racer listed answer isAnswer
    have sound := fair.sound racer listed
    obtain ⟨inquiry, stage⟩ := racer
    cases stage with
    | finished slot result =>
        obtain rfl : result = answer := Option.some.inj isAnswer
        rw [SlotStore.resultOf?_eq (sound.slot_eq rfl), sound.answer_eq rfl]
    | arrived => cases isAnswer
    | missed => cases isAnswer
    | holding slot => cases isAnswer
  size_eq := by
    rw [Catalog.size_eq_length_keys]
    have same_keys := (List.perm_ext_iff_of_nodup race.store.directory.nodup_keys
      (nodup_eraseDups _)).mpr fun key => fair.mem_keys_iff
    exact same_keys.length_eq

/-- Whatever the schedule, slots and results once there stay, and the requests for a key have one
slot and one build among them. So it is with requests that look their slots up again. -/
theorem buildsOnce_of_run (inquiries : List Inquiry) (earlier later : List Nat) :
    let race := Race.start inquiries
    let middle := race.run earlier
    let finish := middle.run later
    middle.store.Keeps finish.store ∧
      finish.BuildsOnce (race.builds (earlier ++ later)) ∧
      finish.Represents (Interleaving.run ⟨.empty, inquiries.map (·.call)⟩ (earlier ++ later)) := by
  intro race middle finish
  have fair : race.Fair [] := .start inquiries
  have finish_eq : race.run (earlier ++ later) = finish := race.run_append earlier later
  have fairFinish := (fair.run (earlier ++ later)).2
  have represents := (Represents.start inquiries).run fair (earlier ++ later)
  rw [finish_eq] at fairFinish represents
  exact ⟨((fair.run earlier).2.run later).1, fairFinish.buildsOnce, represents⟩

/-- Two requests for one key in dialects that differ. -/
def rivals : List Inquiry :=
  [⟨Gateway.tag, Gateway.quoting "'"⟩, ⟨Gateway.tag, Gateway.quoting "|"⟩]

/-- Both requests miss, the second enters the slot and fills it, and the first gets the statements
of the second. -/
theorem buildsOnce_of_run_rivals :
    let finish := ((Race.start rivals).run [0, 1, 1]).run [0, 1, 0]
    finish.racers.length = 2 ∧ finish.store.directory.size = 1 ∧
      ∀ racer ∈ finish.racers,
        racer.answer? = some (StatementSet.build Gateway.tag (Gateway.quoting "|")) := by
  intro finish
  obtain ⟨-, once, -⟩ := buildsOnce_of_run rivals [0, 1, 1] [0, 1, 0]
  have builds_eq : (Race.start rivals).builds ([0, 1, 1] ++ [0, 1, 0]) =
      [⟨Gateway.tag, Gateway.quoting "|"⟩] := rfl
  have complete : finish.racers.all (·.answer?.isSome) = true := rfl
  have keys_eq : finish.racers.map (·.inquiry.key) =
      List.replicate 2 (keyOf Gateway.tag (Gateway.quoting "|")) := rfl
  refine ⟨rfl, rfl, fun racer listed => ?_⟩
  have key_eq : racer.inquiry.key = keyOf Gateway.tag (Gateway.quoting "|") := by
    have member : racer.inquiry.key ∈ finish.racers.map (·.inquiry.key) :=
      List.mem_map_of_mem listed
    rw [keys_eq] at member
    exact List.eq_of_mem_replicate member
  obtain ⟨answer, isAnswer⟩ :=
    Option.isSome_iff_exists.mp (List.all_eq_true.mp complete racer listed)
  have answer_eq := once.answer_eq racer listed answer isAnswer
  rw [once.result_eq, builds_eq, key_eq] at answer_eq
  rw [isAnswer, ← answer_eq]
  rfl

end Race

end RowMapping.Registry
