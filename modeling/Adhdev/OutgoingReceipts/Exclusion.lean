import Adhdev.OutgoingReceipts.Store

/-! # Operations under the lock of their file

A step of one process touches the files of its own operation, and no other operation on
those files is under way.
-/

namespace Adhdev.OutgoingReceipts

namespace Directory

section Fields

variable {filename : String → String} (directory : Directory) (process : Nat)
    (operation : Operation)

@[simp] theorem does_slots (activity : Option (Operation × Phase)) :
    (directory.does process activity).slots = directory.slots := rfl

@[simp] theorem does_activity (activity : Option (Operation × Phase)) :
    ((directory.does process activity).processes process).activity = activity := by
  simp [does, changeProcess]

variable {other : Nat}

@[simp] theorem does_other (differs : other ≠ process) (activity : Option (Operation × Phase)) :
    (directory.does process activity).processes other = directory.processes other := by
  simp [does, changeProcess, differs]

@[simp] theorem remembers_slots (receipt : OutgoingReceipt) :
    (directory.remembers process receipt).slots = directory.slots := rfl

@[simp] theorem remembers_other (differs : other ≠ process) (receipt : OutgoingReceipt) :
    (directory.remembers process receipt).processes other = directory.processes other := by
  simp [remembers, changeProcess, differs]

@[simp] theorem changeSlot_processes (change : Slot → Slot) :
    (directory.changeSlot filename operation change).processes = directory.processes := rfl

@[simp] theorem changeSlot_own (change : Slot → Slot) :
    (directory.changeSlot filename operation change).slots (filename operation.messageId) =
      change (directory.slots (filename operation.messageId)) := by
  simp [changeSlot, slotOf]

variable {name : String}

@[simp] theorem changeSlot_other (differs : name ≠ filename operation.messageId)
    (change : Slot → Slot) :
    (directory.changeSlot filename operation change).slots name = directory.slots name := by
  simp [changeSlot, differs]

@[simp] theorem releases_activity :
    ((directory.releases filename process operation).processes process).activity = none := by
  simp [releases]

@[simp] theorem releases_other (differs : other ≠ process) :
    (directory.releases filename process operation).processes other =
      directory.processes other := by
  simp [releases, differs]

@[simp] theorem releases_own :
    (directory.releases filename process operation).slots (filename operation.messageId) =
      { directory.slots (filename operation.messageId) with lockedBy := none } := by
  simp [releases]

@[simp] theorem releases_otherSlot (differs : name ≠ filename operation.messageId) :
    (directory.releases filename process operation).slots name = directory.slots name := by
  simp [releases, differs]

@[simp] theorem continues_other (differs : other ≠ process) (next : Continues) :
    (directory.continues filename process operation next).2.processes other =
      directory.processes other := by
  cases next <;> simp [continues, differs]

@[simp] theorem continues_otherSlot (differs : name ≠ filename operation.messageId)
    (next : Continues) :
    (directory.continues filename process operation next).2.slots name = directory.slots name := by
  cases next <;> simp [continues, differs]

@[simp] theorem corrupts_own (name : String) (bytes : RecordBytes) :
    (directory.corrupts name bytes).slots name =
      { directory.slots name with record := (directory.slots name).record.map fun _ => bytes } := by
  simp [corrupts]

@[simp] theorem corrupts_other {name other : String} (differs : other ≠ name)
    (bytes : RecordBytes) :
    (directory.corrupts name bytes).slots other = directory.slots other := by
  simp [corrupts, differs]

end Fields

variable {filename : String → String} {directory : Directory} {process : Nat}
  {operation : Operation} {phase : Phase}

theorem phaseStep_otherSlot {name : String} (differs : name ≠ filename operation.messageId) :
    (directory.phaseStep filename process operation phase).2.slots name = directory.slots name := by
  cases phase with
  | reading =>
    rw [phaseStep]
    split
    · rfl
    split
    · simp [differs]
    · rfl
  | _ => simp [phaseStep, differs]

theorem phaseStep_other {other : Nat} (differs : other ≠ process) :
    (directory.phaseStep filename process operation phase).2.processes other =
      directory.processes other := by
  cases phase with
  | reading =>
    rw [phaseStep]
    split
    · simp [differs]
    split <;> simp [differs]
  | _ => simp [phaseStep, differs]

theorem continues_own (next : Continues) :
    ((directory.continues filename process operation next).2.processes process).activity = none ∨
      ∃ phase, next = .does phase ∧
        ((directory.continues filename process operation next).2.processes process).activity =
          some (operation, phase) ∧
        (directory.continues filename process operation next).2.slots = directory.slots := by
  cases next with
  | answers answer => exact .inl (releases_activity ..)
  | does phase => exact .inr ⟨phase, rfl, does_activity .., rfl⟩

def Sound (filename : String → String) (Holds : Slot → Operation → Phase → Prop)
    (directory : Directory) : Prop :=
  ∀ process operation phase, (directory.processes process).activity = some (operation, phase) →
    (directory.slotOf filename operation).lockedBy = some process ∧
      Holds (directory.slotOf filename operation) operation phase

section Sound

variable {Holds : Slot → Operation → Phase → Prop} {later : Directory}

theorem Sound.initially : Sound filename Holds {} := fun _ _ _ doing => by cases doing

theorem continues_holds {next : Continues}
    (held : (directory.slotOf filename operation).lockedBy = some process)
    (holds : ∀ phase, next = .does phase →
      Holds (directory.slotOf filename operation) operation phase) :
    ((directory.continues filename process operation next).2.processes process).activity = none ∨
      ∃ phase,
        ((directory.continues filename process operation next).2.processes process).activity =
          some (operation, phase) ∧
        ((directory.continues filename process operation next).2.slotOf filename
          operation).lockedBy = some process ∧
        Holds ((directory.continues filename process operation next).2.slotOf filename operation)
          operation phase := by
  rcases continues_own next with idle | ⟨phase, isNext, running, slots⟩
  · exact .inl idle
  refine .inr ⟨phase, running, ?_⟩
  rw [slotOf, slots]
  exact ⟨held, holds phase isNext⟩

section

variable (sound : Sound filename Holds directory)
include sound

theorem Sound.change (operation : Operation) (unlocked : ∀ other, other ≠ process →
      (directory.slotOf filename operation).lockedBy ≠ some other) (slots : ∀ name ≠ filename
      operation.messageId, later.slots name = directory.slots name) (processes : ∀ other ≠ process,
      later.processes other = directory.processes other) (own : (later.processes process).activity
      = none ∨ ∃ next, (later.processes process).activity = some (operation, next) ∧
      (later.slotOf filename operation).lockedBy = some process ∧ Holds
      (later.slotOf filename operation) operation next) : Sound filename Holds later := by
  intro other doing phase isDoing
  by_cases same : other = process
  · subst same
    rcases own with idle | ⟨next, running, held⟩
    · rw [idle] at isDoing
      cases isDoing
    · cases running.symm.trans isDoing
      exact held
  rw [processes other same] at isDoing
  have held := sound other doing phase isDoing
  have apart : filename doing.messageId ≠ filename operation.messageId := by
    intro sameFile
    rw [slotOf, sameFile] at held
    exact unlocked other same held.1
  rw [slotOf, slots _ apart]
  exact held

theorem Sound.apart (doing : (directory.processes process).activity = some (operation, phase))
    {other : Nat} {otherOperation : Operation} {otherPhase : Phase} (differs : other ≠ process)
    (otherDoing : (directory.processes other).activity = some (otherOperation, otherPhase)) :
    filename otherOperation.messageId ≠ filename operation.messageId := by
  intro same
  have held := (sound process operation phase doing).1
  have otherHeld := (sound other otherOperation otherPhase otherDoing).1
  rw [slotOf, same] at otherHeld
  exact differs (Option.mem_unique otherHeld held)

theorem Sound.phaseStep (doing : (directory.processes process).activity = some (operation, phase))
    (own : ((directory.phaseStep filename process operation phase).2.processes process).activity =
      none ∨ ∃ next, ((directory.phaseStep filename process operation phase).2.processes
      process).activity = some (operation, next) ∧ ((directory.phaseStep filename process operation
      phase).2.slotOf filename operation).lockedBy = some process ∧ Holds ((directory.phaseStep
      filename process operation phase).2.slotOf filename operation) operation next) : Sound
    filename Holds (directory.phaseStep filename process operation phase).2 := by
  refine sound.change operation (fun other differs held => ?_) (fun _ => phaseStep_otherSlot)
    (fun _ => phaseStep_other) own
  exact differs (Option.some.inj (held.symm.trans (sound process operation phase doing).1))

theorem Sound.ends (process : Nat) : Sound filename Holds (directory.ends filename process) := by
  rw [Directory.ends]
  split
  · exact sound
  rename_i operation phase doing
  refine sound.change operation (fun other differs held => ?_) (fun _ => releases_otherSlot _ _ _)
    (fun _ => releases_other _ _ _) (.inl (releases_activity ..))
  exact differs (Option.some.inj (held.symm.trans (sound process operation phase doing).1))

theorem Sound.begins (process : Nat) (operation : Operation)
    (starts : ∀ slot, Holds slot operation .reading) : Sound filename Holds
    (directory.begins filename process operation) := by
  rw [Directory.begins]
  split_ifs with free
  · refine sound.change operation (fun other _ held => ?_) (fun _ differs => ?_)
      (fun _ differs => does_other _ _ differs _) ?_
    · cases free.2.symm.trans held
    · rw [does_slots, changeSlot_other _ _ differs]
    · refine .inr ⟨.reading, does_activity .., ?_, starts _⟩
      rw [slotOf, does_slots, changeSlot_own]
  · exact sound

theorem Sound.crash (process : Nat) : Sound filename Holds
    ((directory.ends filename process).changeProcess process fun _ => {}) := by
  intro other operation phase doing
  by_cases same : other = process
  · simp [changeProcess, same] at doing
  have unchanged : (((directory.ends filename process).changeProcess process fun _ => {}).processes
      other) = (directory.ends filename process).processes other := by
    simp [changeProcess, same]
  rw [unchanged] at doing
  exact sound.ends process other operation phase doing

end

end Sound

end Directory

end Adhdev.OutgoingReceipts
