import Adhdev.OutgoingReceipts.FreshOnce

/-! # A stored receipt only advances

Where no record is corrupted, every record is the receipt of its message, and a write
publishes a first receipt or the next revision of the one that is there.
-/

namespace Adhdev.OutgoingReceipts

open Directory Directory

/-- The same attempt, no earlier revision, and the same state where it is final. -/
structure Advances (receipt later : OutgoingReceipt) : Prop where
  attempt : sameOutgoingAttempt receipt later = true
  revision : receipt.revision ≤ later.revision
  final : receipt.state = .submitted ∨ receipt.state = .failed → later.state = receipt.state

theorem Advances.refl (receipt : OutgoingReceipt) : Advances receipt receipt where
  attempt := by simp [sameOutgoingAttempt]
  revision := le_rfl
  final := fun _ => rfl

theorem Advances.trans {first second third : OutgoingReceipt} (earlier : Advances first second)
    (later : Advances second third) : Advances first third where
  attempt := by
    have head := earlier.attempt
    have tail := later.attempt
    simp only [sameOutgoingAttempt, Bool.and_eq_true, decide_eq_true_eq] at head tail ⊢
    obtain ⟨⟨⟨⟨id, session⟩, attempt⟩, generation⟩, digest⟩ := head
    obtain ⟨⟨⟨⟨id', session'⟩, attempt'⟩, generation'⟩, digest'⟩ := tail
    exact ⟨⟨⟨⟨id.trans id', session.trans session'⟩, attempt.trans attempt'⟩,
      generation.trans generation'⟩, digest.trans digest'⟩
  revision := earlier.revision.trans later.revision
  final := fun final => by
    have same := earlier.final final
    exact (later.final (same ▸ final)).trans same

theorem advances_advancedReceipt {current : OutgoingReceipt} (state : ReceiptState)
    (submitted : current.state ≠ .submitted) (failed : current.state ≠ .failed) :
    Advances current (advancedReceipt current state) where
  attempt := by simp [sameOutgoingAttempt, advancedReceipt]
  revision := Nat.le_succ _
  final := fun final => (final.elim submitted failed).elim

section Uncorrupted

variable {filename : String → String} {directory : Directory} {process : Nat}
  {operation : Operation} {phase : Phase}

def Relies (slot : Slot) (operation : Operation) : Phase → Prop
  | .absent => slot.record = none
  | .linkingInvalid => False
  | .quarantining => False
  | .checkingAcceptance => slot.record = none
  | .checkingAdvance current => slot.record = some (.fields current)
  | .publishing receipt _ => isReceipt receipt = true ∧ receipt.messageId = operation.messageId ∧
      ∀ current, slot.record = some (.fields current) → Advances current receipt
  | _ => True

structure SlotSound (messageId : String) (slot : Slot) : Prop where
  record : ∀ bytes, slot.record = some bytes →
    ∃ receipt, bytes = .fields receipt ∧ isReceipt receipt = true ∧ receipt.messageId = messageId
  invalid : slot.invalid = false

structure Uncorrupted (filename : String → String) (directory : Directory) : Prop where
  sound : Sound filename Relies directory
  slots : ∀ messageId, SlotSound messageId (directory.slots (filename messageId))

/-- The records and tombstones are as they were. -/
def SameFiles (directory later : Directory) : Prop :=
  ∀ name, (later.slots name).record = (directory.slots name).record ∧
    (later.slots name).invalid = (directory.slots name).invalid

theorem sameFiles_releases : SameFiles directory
    (directory.releases filename process operation) := by
  intro name
  by_cases same : name = filename operation.messageId
  · subst same
    rw [releases_own]
    exact ⟨rfl, rfl⟩
  · rw [releases_otherSlot _ _ _ same]
    exact ⟨rfl, rfl⟩

theorem sameFiles_continues {next : Continues} :
    SameFiles directory (directory.continues filename process operation next).2 := by
  cases next with
  | answers answer => exact sameFiles_releases
  | does phase => exact fun _ => ⟨rfl, rfl⟩

theorem sameFiles_ends : SameFiles directory (directory.ends filename process) := by
  rw [ends]
  split
  · exact fun _ => ⟨rfl, rfl⟩
  · exact sameFiles_releases

theorem SlotSound.read {messageId : String} {slot : Slot} (sound : SlotSound messageId slot)
    {bytes : RecordBytes} (stored : slot.record = some bytes) : ∃ receipt, bytes = .fields receipt ∧
      (readOutgoingReceipt bytes).filter (·.messageId = messageId) = some receipt := by
  obtain ⟨receipt, rfl, valid, named⟩ := sound.record bytes stored
  refine ⟨receipt, rfl, ?_⟩
  simp [readOutgoingReceipt, valid, named]

/-- Records stay, or the next revision of what is there is published. -/
structure Progress (filename : String → String) (directory later : Directory) : Prop where
  invalid : ∀ name, (later.slots name).invalid = (directory.slots name).invalid
  record : ∀ name, (later.slots name).record = (directory.slots name).record ∨
    ∃ receipt, (later.slots name).record = some (.fields receipt) ∧ isReceipt receipt = true ∧
      filename receipt.messageId = name ∧
      ∀ current, (directory.slots name).record = some (.fields current) → Advances current receipt

variable {later : Directory}

theorem SameFiles.progress (same : SameFiles directory later) :
    Progress filename directory later where
  invalid := fun name => (same name).2
  record := fun name => .inl (same name).1

theorem Progress.slots (injective : Function.Injective filename)
    (progress : Progress filename directory later)
    (sound : ∀ messageId, SlotSound messageId (directory.slots (filename messageId)))
    (messageId : String) : SlotSound messageId (later.slots (filename messageId)) where
  record := by
    intro bytes stored
    rcases progress.record (filename messageId) with same | ⟨receipt, published, valid, named, -⟩
    · exact (sound messageId).record bytes (same ▸ stored)
    · cases published.symm.trans stored
      exact ⟨receipt, rfl, valid, injective named⟩
  invalid := (progress.invalid _).trans (sound messageId).invalid

theorem Progress.advances (progress : Progress filename directory later) {name : String}
    {receipt : OutgoingReceipt} (stored : (directory.slots name).record = some (.fields receipt)) :
    ∃ next, (later.slots name).record = some (.fields next) ∧ Advances receipt next := by
  rcases progress.record name with same | ⟨next, published, -, -, advances⟩
  · exact ⟨receipt, same.trans stored, .refl receipt⟩
  · exact ⟨next, published, advances receipt stored⟩

theorem relies_afterRead {slot : Slot} {prior : Option OutgoingReceipt}
    (does : afterRead operation prior = .does phase)
    (read : slot.record = prior.map .fields) : Relies slot operation phase := by
  rcases afterRead_does does with ⟨rfl, rfl⟩ | ⟨current, rfl, rfl⟩
  · exact read
  · exact read

theorem uncorrupted_phaseStep (uncorrupted : Uncorrupted filename directory)
    (doing : (directory.processes process).activity = some (operation, phase)) :
    Sound filename Relies (directory.phaseStep filename process operation phase).2 ∧
      Progress filename directory (directory.phaseStep filename process operation phase).2 := by
  obtain ⟨held, relies⟩ := uncorrupted.sound process operation phase doing
  have slotSound := uncorrupted.slots operation.messageId
  refine ⟨uncorrupted.sound.phaseStep doing ?_, ?_⟩
  · cases phase with
    | reading =>
      rw [phaseStep]
      cases stored : (directory.slotOf filename operation).record with
      | none => exact .inr ⟨.absent, does_activity .., held, stored⟩
      | some bytes =>
        obtain ⟨receipt, rfl, read⟩ := slotSound.read stored
        simp only [read]
        exact continues_holds held fun phase does => relies_afterRead does stored
    | absent =>
      refine continues_holds held fun phase does => ?_
      rw [slotOf, slotSound.invalid] at does
      exact relies_afterRead does relies
    | linkingInvalid | quarantining => exact relies.elim
    | checkingAcceptance =>
      refine continues_holds held fun phase does => ?_
      obtain ⟨receipt, rfl, valid, named⟩ := checkAcceptance_does does
      refine ⟨valid, named, fun current stored => ?_⟩
      cases relies.symm.trans stored
    | checkingAdvance current =>
      refine continues_holds held fun phase does => ?_
      obtain ⟨state, rfl, valid, submitted, failed⟩ := checkAdvance_does does
      obtain ⟨receipt, same, -, named⟩ := slotSound.record _ relies
      cases same
      refine ⟨valid, named, fun other stored => ?_⟩
      cases relies.symm.trans stored
      exact advances_advancedReceipt state submitted failed
    | publishing receipt fresh =>
      refine .inr ⟨.answering receipt fresh, does_activity .., ?_, trivial⟩
      simpa [phaseStep, slotOf] using held
    | answering receipt fresh => exact .inl (releases_activity ..)
  · cases phase with
    | reading =>
      rw [phaseStep]
      split
      · exact SameFiles.progress fun _ => ⟨rfl, rfl⟩
      split
      · exact SameFiles.progress sameFiles_continues
      · exact SameFiles.progress fun _ => ⟨rfl, rfl⟩
    | absent | checkingAcceptance | checkingAdvance current => exact sameFiles_continues.progress
    | linkingInvalid | quarantining => exact relies.elim
    | publishing receipt fresh =>
      refine ⟨fun name => ?_, fun name => ?_⟩
      · by_cases same : name = filename operation.messageId
        · simp [phaseStep, same]
        · rw [phaseStep_otherSlot same]
      by_cases same : name = filename operation.messageId
      · subst same
        refine .inr ⟨receipt, by simp [phaseStep], relies.1, ?_, relies.2.2⟩
        exact congrArg filename relies.2.1
      · exact .inl (by rw [phaseStep_otherSlot same])
    | answering receipt fresh => exact sameFiles_releases.progress

def corrupts : StoreInput → Bool
  | .corrupt .. => true
  | _ => false

theorem uncorrupted_step (uncorrupted : Uncorrupted filename directory) {input : StoreInput}
    (honest : corrupts input = false) :
    Sound filename Relies ((storeMachine filename).next directory input) ∧
      Progress filename directory ((storeMachine filename).next directory input) := by
  cases input with
  | call process operation =>
    refine ⟨uncorrupted.sound.begins process operation fun _ => trivial, SameFiles.progress ?_⟩
    intro name
    change ((directory.begins filename process operation).slots name).record = _ ∧
      ((directory.begins filename process operation).slots name).invalid = _
    rw [begins]
    split_ifs
    · by_cases same : name = filename operation.messageId
      · subst same
        rw [does_slots, changeSlot_own]
        exact ⟨rfl, rfl⟩
      · rw [does_slots, changeSlot_other _ _ same]
        exact ⟨rfl, rfl⟩
    · exact ⟨rfl, rfl⟩
  | fileStep process =>
    change Sound filename Relies (directory.fileStep filename process).2 ∧
      Progress filename directory (directory.fileStep filename process).2
    rw [fileStep]
    split
    · exact ⟨uncorrupted.sound, SameFiles.progress fun _ => ⟨rfl, rfl⟩⟩
    · rename_i doing
      exact uncorrupted_phaseStep uncorrupted doing
  | fails process => exact ⟨uncorrupted.sound.ends process, sameFiles_ends.progress⟩
  | crash process => exact ⟨uncorrupted.sound.crash process, SameFiles.progress sameFiles_ends⟩
  | corrupt name bytes => cases honest

theorem uncorrupted_initial : Uncorrupted filename {} where
  sound := Sound.initially
  slots := fun _ => ⟨fun _ stored => (by cases stored), rfl⟩

theorem advances_runFrom (injective : Function.Injective filename) (inputs : List StoreInput)
    (honest : ∀ input ∈ inputs, corrupts input = false)
    (uncorrupted : Uncorrupted filename directory) :
    Uncorrupted filename ((storeMachine filename).runFrom directory inputs) ∧
      ∀ name receipt, (directory.slots name).record = some (.fields receipt) →
        ∃ later, (((storeMachine filename).runFrom directory inputs).slots name).record =
            some (.fields later) ∧ Advances receipt later := by
  induction inputs generalizing directory with
  | nil => exact ⟨uncorrupted, fun _ receipt stored => ⟨receipt, stored, .refl receipt⟩⟩
  | cons input inputs induction =>
    obtain ⟨sound, progress⟩ := uncorrupted_step uncorrupted (honest input List.mem_cons_self)
    have next : Uncorrupted filename ((storeMachine filename).next directory input) :=
      ⟨sound, progress.slots injective uncorrupted.slots⟩
    obtain ⟨last, advances⟩ := induction (List.forall_mem_cons.mp honest).2 next
    refine ⟨last, fun name receipt stored => ?_⟩
    obtain ⟨middle, isMiddle, first⟩ := progress.advances stored
    obtain ⟨later, isLater, rest⟩ := advances name middle isMiddle
    exact ⟨later, isLater, first.trans rest⟩

end Uncorrupted

/-- Acceptances answer fresh at most once for a message, and where no record is corrupted a stored
receipt keeps its attempt, does not go back in its revision and stays in a final state. -/
theorem durable_send_fresh_at_most_once (filename : String → String)
    (injective : Function.Injective filename) :
    (∀ inputs messageId, (((storeMachine filename).steps inputs).flatMap
      (freshAnswers filename messageId)).length ≤ 1) ∧
    ∀ earlier later, (∀ input ∈ earlier ++ later, corrupts input = false) → ∀ messageId receipt,
        (((storeMachine filename).run earlier).slots (filename messageId)).record =
          some (.fields receipt) →
        ∃ next, (((storeMachine filename).run (earlier ++ later)).slots
          (filename messageId)).record =
          some (.fields next) ∧ Advances receipt next := by
  refine ⟨fun inputs messageId => fresh_at_most_once filename messageId inputs, ?_⟩
  intro earlier later honest messageId receipt stored
  obtain ⟨uncorrupted, -⟩ := advances_runFrom injective earlier
    (fun input member => honest input (List.mem_append_left _ member)) uncorrupted_initial
  rw [Machine.run, Machine.runFrom_append]
  exact (advances_runFrom injective later
    (fun input member => honest input (List.mem_append_right _ member)) uncorrupted).2 _ receipt
      stored

/-- Two processes accept the same message, and the one that is refused the lock asks again. -/
def acceptedTwice : List StoreInput :=
  [.call 0 (.accept "message" "session" "digest" "attempt" "generation"),
    .call 1 (.accept "message" "session" "digest" "other" "generation"),
    .fileStep 0, .fileStep 0, .fileStep 0, .fileStep 0, .fileStep 0,
    .call 1 (.accept "message" "session" "digest" "other" "generation"), .fileStep 1]

theorem fresh_at_most_once_acceptedTwice :
    (((storeMachine id).steps acceptedTwice).flatMap (freshAnswers id "message")).length ≤ 1 ∧
      ((storeMachine id).run acceptedTwice).slots "message" ≠ {} :=
  ⟨(durable_send_fresh_at_most_once id Function.injective_id).1 acceptedTwice "message",
    by decide⟩

end Adhdev.OutgoingReceipts
