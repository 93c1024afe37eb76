import RowMapping.Proofs.Registry.SlotStore

/-!
# Requests that race for a slot

Between the look-up of a request and its entry others may enter the same key, so a request that has
missed takes what it finds on entry. A schedule says whose turn it is; whatever it says, the slots
that requests hold are those of the map, and there is one build for a key at most.
-/

namespace RowMapping.Registry

/-- How far a request has come, and the slot that it holds. -/
inductive Stage where
  | arrived
  | missed
  | holding (slot : SlotId)
  | finished (slot : SlotId) (answer : Except Error StatementSet)

/-- A request on its way, with the slot that it holds. -/
structure Racer where
  inquiry : Inquiry
  stage : Stage := .arrived

namespace Racer

def slot? (racer : Racer) : Option SlotId :=
  match racer.stage with
  | .arrived | .missed => none
  | .holding slot | .finished slot _ => some slot

def answer? (racer : Racer) : Option (Except Error StatementSet) :=
  match racer.stage with
  | .arrived | .missed | .holding _ => none
  | .finished _ answer => some answer

def step (store : SlotStore) (racer : Racer) : SlotStore × Racer :=
  match racer.stage with
  | .arrived =>
      match store.slot? racer.inquiry.key with
      | some slot => (store, { racer with stage := .holding slot })
      | none => (store, { racer with stage := .missed })
  | .missed =>
      let (slot, store) := store.reserve racer.inquiry.key
      (store, { racer with stage := .holding slot })
  | .holding slot =>
      let (answer, store) := store.fill slot racer.inquiry
      (store, { racer with stage := .finished slot answer })
  | .finished _ _ => (store, racer)

/-- The inquiries that the next step of a request builds statements for, one at most. -/
def built (store : SlotStore) (racer : Racer) : List Inquiry :=
  match racer.stage with
  | .holding slot => if store.result? slot = none then [racer.inquiry] else []
  | .arrived | .missed | .finished _ _ => []

end Racer

/-- A store and the requests under way. -/
structure Race where
  store : SlotStore
  racers : List Racer

namespace Race

/-- All requests arrive at an empty store. -/
def start (inquiries : List Inquiry) : Race := ⟨.empty, inquiries.map fun inquiry => { inquiry }⟩

variable (race : Race)

/-- The state after one step of the request whose turn it is. -/
def step (turn : Nat) : Race :=
  match race.racers[turn]? with
  | none => race
  | some racer =>
      let (store, racer) := racer.step race.store
      ⟨store, race.racers.set turn racer⟩

/-- The inquiries that one step of a request builds statements for. -/
def built (turn : Nat) : List Inquiry :=
  (race.racers[turn]?).elim [] (·.built race.store)

def run (race : Race) : List Nat → Race
  | [] => race
  | turn :: schedule => (race.step turn).run schedule

/-- The inquiries that a schedule builds statements for, in order of the builds. -/
def builds (race : Race) : List Nat → List Inquiry
  | [] => []
  | turn :: schedule => race.built turn ++ (race.step turn).builds schedule

theorem run_append (earlier later : List Nat) :
    race.run (earlier ++ later) = (race.run earlier).run later := by
  induction earlier generalizing race with
  | nil => rfl
  | cons turn earlier ih => exact ih (race.step turn)

end Race

/-! ## One step -/

namespace Racer

variable {store : SlotStore} {racer : Racer} {builds : List Inquiry}

/-- The slot that a request holds is that of its key, and its answer is what is in there. -/
structure Sound (racer : Racer) (store : SlotStore) : Prop where
  slot_eq : ∀ {slot}, racer.slot? = some slot → store.slot? racer.inquiry.key = some slot
  answer_eq : ∀ {slot answer}, racer.stage = .finished slot answer →
    store.result? slot = some answer

theorem Sound.mono {before after : SlotStore} (sound : racer.Sound before)
    (keeps : before.Keeps after) : racer.Sound after :=
  ⟨keeps.slot_eq ∘ sound.slot_eq, keeps.result_eq ∘ sound.answer_eq⟩

/-- What a step of a request may do to the store and to the request, given the builds so far. -/
structure Moves (racer : Racer) (before : SlotStore) (builds : List Inquiry) (after : SlotStore)
    (next : Racer) : Prop where
  keeps : before.Keeps after
  holds : after.Holds (builds ++ racer.built before)
  sound : next.Sound after
  inquiry_eq : next.inquiry = racer.inquiry
  /-- A request does not let its slot go. -/
  slot_eq : ∀ {slot}, racer.slot? = some slot → next.slot? = some slot
  /-- A new key is that of the request, which has a slot from then on. -/
  entered : ∀ key ∈ after.directory.keys,
    key ∈ before.directory.keys ∨ key = racer.inquiry.key ∧ next.slot?.isSome = true

/-- A step that neither builds nor touches the store only moves the request on. -/
theorem Moves.still {next : Racer} (idle : racer.built store = []) (holds : store.Holds builds)
    (sound : next.Sound store) (inquiry_eq : next.inquiry = racer.inquiry)
    (slot_eq : ∀ {slot}, racer.slot? = some slot → next.slot? = some slot) :
    racer.Moves store builds store next where
  keeps := .refl store
  holds := by rwa [idle, List.append_nil]
  sound := sound
  inquiry_eq := inquiry_eq
  slot_eq := slot_eq
  entered _ member := .inl member

theorem moves_step (sound : racer.Sound store) (holds : store.Holds builds) :
    racer.Moves store builds (racer.step store).1 (racer.step store).2 := by
  obtain ⟨inquiry, stage⟩ := racer
  cases stage with
  | arrived =>
      cases found : store.slot? inquiry.key with
      | none =>
          simp only [step, found]
          exact .still rfl holds ⟨nofun, nofun⟩ rfl nofun
      | some slot =>
          simp only [step, found]
          exact .still rfl holds ⟨found.trans, nofun⟩ rfl nofun
  | missed =>
      exact {
        keeps := .reserve store inquiry.key
        holds := by
          rw [built, List.append_nil]
          exact holds.reserve inquiry.key
        sound := ⟨(store.slot?_reserve_self inquiry.key).trans, nofun⟩
        inquiry_eq := rfl
        slot_eq := nofun
        entered := by
          intro key member
          change key ∈ (store.reserve inquiry.key).2.directory.keys at member
          rw [SlotStore.keys_reserve] at member
          split at member
          · exact .inl member
          · exact (List.mem_append.mp member).imp_right fun last =>
              ⟨List.mem_singleton.mp last, rfl⟩ }
  | holding slot =>
      have held : store.slot? inquiry.key = some slot := sound.slot_eq rfl
      have keeps := SlotStore.Keeps.fill store slot inquiry
      exact {
        keeps := keeps
        holds := holds.fill held
        sound :=
          { slot_eq := fun isSlot => keeps.slot_eq (sound.slot_eq isSlot)
            answer_eq := by
              intro _ _ complete
              cases complete
              exact SlotStore.result?_fill_self (store.slot_lt held) }
        inquiry_eq := rfl
        slot_eq := id
        entered := by
          intro key member
          change key ∈ (store.fill slot inquiry).2.directory.keys at member
          rw [SlotStore.directory_fill] at member
          exact .inl member }
  | finished slot answer => exact .still rfl holds sound rfl id

end Racer

/-! ## Any number of steps -/

namespace Race

variable {race : Race} {builds : List Inquiry}

theorem mem_set_or_eq {α : Type} {items : List α} {place : Nat} {replaced item entered : α}
    (found : items[place]? = some replaced) (member : item ∈ items) :
    item ∈ items.set place entered ∨ item = replaced := by
  obtain ⟨other, isItem⟩ := List.mem_iff_getElem?.mp member
  by_cases same : place = other
  · subst same
    exact .inr (Option.some.inj (isItem.symm.trans found))
  · exact .inl (List.mem_of_getElem? ((List.getElem?_set_ne same).trans isItem))

/-- A race goes by the rules, given the builds so far. -/
structure Fair (race : Race) (builds : List Inquiry) : Prop where
  holds : race.store.Holds builds
  sound : ∀ racer ∈ race.racers, racer.Sound race.store
  /-- Every key in the map has been entered by a request that holds its slot. -/
  entered : ∀ key ∈ race.store.directory.keys,
    ∃ racer ∈ race.racers, racer.inquiry.key = key ∧ racer.slot?.isSome = true

namespace Fair

theorem start (inquiries : List Inquiry) : (Race.start inquiries).Fair [] where
  holds := .empty
  sound := by
    intro racer member
    obtain ⟨inquiry, -, rfl⟩ := List.mem_map.mp member
    exact ⟨nofun, nofun⟩
  entered _ member := absurd member List.not_mem_nil

theorem step (fair : race.Fair builds) (turn : Nat) :
    race.store.Keeps (race.step turn).store ∧
      (race.step turn).Fair (builds ++ race.built turn) := by
  unfold Race.step built
  cases found : race.racers[turn]? with
  | none => exact ⟨.refl race.store, by rwa [Option.elim_none, List.append_nil]⟩
  | some racer =>
      have listed := List.mem_of_getElem? found
      have moves := racer.moves_step (fair.sound racer listed) fair.holds
      have replaced : (racer.step race.store).2 ∈ race.racers.set turn (racer.step race.store).2 :=
        List.mem_set (List.getElem?_eq_some_iff.mp found).1 _
      refine ⟨moves.keeps, moves.holds, ?_, ?_⟩
      · intro other member
        rcases List.mem_or_eq_of_mem_set member with unmoved | rfl
        · exact (fair.sound other unmoved).mono moves.keeps
        · exact moves.sound
      · intro key member
        rcases moves.entered key member with before | ⟨rfl, placed⟩
        · obtain ⟨other, otherListed, isKey, placed⟩ := fair.entered key before
          rcases mem_set_or_eq found otherListed with unmoved | rfl
          · exact ⟨other, unmoved, isKey, placed⟩
          · obtain ⟨slot, isSlot⟩ := Option.isSome_iff_exists.mp placed
            exact ⟨_, replaced, by rw [moves.inquiry_eq, isKey], by rw [moves.slot_eq isSlot]; rfl⟩
        · exact ⟨_, replaced, congrArg Inquiry.key moves.inquiry_eq, placed⟩

theorem run (fair : race.Fair builds) (schedule : List Nat) :
    race.store.Keeps (race.run schedule).store ∧
      (race.run schedule).Fair (builds ++ race.builds schedule) := by
  induction schedule generalizing race builds with
  | nil =>
      rw [Race.builds, List.append_nil]
      exact ⟨.refl race.store, fair⟩
  | cons turn schedule ih =>
      obtain ⟨keeps, fairNext⟩ := fair.step turn
      obtain ⟨keepsRest, fairEnd⟩ := ih fairNext
      rw [Race.builds, ← List.append_assoc]
      exact ⟨keeps.trans keepsRest, fairEnd⟩

end Fair

end Race

end RowMapping.Registry
