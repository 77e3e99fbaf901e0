import Adhdev.OutgoingReceipts.Exclusion

/-! # A send is fresh once

Once a receipt is published its file or its tombstone stays, so no later acceptance is
fresh. Where no record is corrupted, a stored receipt only advances.
-/

namespace Adhdev.OutgoingReceipts

open Directory Directory

section Continuations

variable {operation : Operation} {phase : Phase}

theorem afterRead_does {prior : Option OutgoingReceipt}
    (does : afterRead operation prior = .does phase) :
    (phase = .checkingAcceptance ∧ prior = none) ∨
      ∃ current, phase = .checkingAdvance current ∧ prior = some current := by
  cases operation <;> cases prior <;> simp only [afterRead] at does
  · cases does
    exact .inl ⟨rfl, rfl⟩
  · split_ifs at does
  · cases does
  · split_ifs at does
    cases does
    exact .inr ⟨_, rfl, rfl⟩
  · cases does
  · cases does

theorem writes_does {receipt : OutgoingReceipt} {fresh : Bool}
    (does : writes receipt fresh = .does phase) :
    phase = .publishing receipt fresh ∧ isReceipt receipt = true := by
  rw [writes] at does
  split_ifs at does with valid
  cases does
  exact ⟨rfl, valid⟩

theorem checkAcceptance_does {unverified : Bool}
    (does : checkAcceptance operation unverified = .does phase) :
    ∃ receipt, phase = .publishing receipt !unverified ∧ isReceipt receipt = true ∧
      receipt.messageId = operation.messageId := by
  cases operation with
  | accept messageId sessionId inputDigest attemptId generation =>
    obtain ⟨rfl, valid⟩ := writes_does does
    exact ⟨_, rfl, valid, rfl⟩
  | advance expected state | get messageId => cases does

theorem checkAdvance_does {current : OutgoingReceipt} {unverified : Bool}
    (does : checkAdvance operation current unverified = .does phase) :
    ∃ state, phase = .publishing (advancedReceipt current state) false ∧
      isReceipt (advancedReceipt current state) = true ∧ current.state ≠ .submitted ∧
      current.state ≠ .failed := by
  cases operation with
  | accept | get messageId => cases does
  | advance expected state =>
    simp only [checkAdvance] at does
    split_ifs at does with unverified open'
    obtain ⟨rfl, valid⟩ := writes_does does
    exact ⟨state, rfl, valid, fun submitted => open' (.inl submitted),
      fun failed => open' (.inr (.inl failed))⟩

end Continuations

section Publication

variable {filename : String → String} {directory : Directory} {process : Nat}
  {operation : Operation} {phase : Phase}

def Published (slot : Slot) : Prop := slot.record.isSome = true ∨ slot.invalid = true

def Knows (slot : Slot) (operation : Operation) : Phase → Prop
  | .absent => slot.record = none
  | .checkingAcceptance => slot.record = none
  | .quarantining => slot.invalid = true
  | .publishing receipt fresh => fresh = true → ¬ Published slot ∧
      receipt.messageId = operation.messageId
  | .answering receipt fresh => slot.record.isSome = true ∧
      (fresh = true → receipt.messageId = operation.messageId)
  | _ => True

theorem knows_afterRead {slot : Slot} {prior : Option OutgoingReceipt}
    (does : afterRead operation prior = .does phase) (absent : prior = none → slot.record = none) :
    Knows slot operation phase := by
  rcases afterRead_does does with ⟨rfl, none⟩ | ⟨current, rfl, -⟩
  · exact absent none
  · trivial

theorem sound_phaseStep (sound : Sound filename Knows directory)
    (doing : (directory.processes process).activity = some (operation, phase)) :
    Sound filename Knows (directory.phaseStep filename process operation phase).2 := by
  obtain ⟨held, knows⟩ := sound process operation phase doing
  refine sound.phaseStep doing ?_
  cases phase with
  | reading =>
    rw [phaseStep]
    split
    · rename_i missing
      exact .inr ⟨.absent, does_activity .., held, missing⟩
    split
    · refine continues_holds held fun phase does => knows_afterRead does fun none => ?_
      cases none
    · exact .inr ⟨.linkingInvalid, does_activity .., held, trivial⟩
  | absent => exact continues_holds held fun phase does => knows_afterRead does fun _ => knows
  | linkingInvalid =>
    refine .inr ⟨.quarantining, does_activity .., ?_, ?_⟩
    · simpa [phaseStep, slotOf] using held
    · simp [phaseStep, slotOf, Knows]
  | quarantining =>
    refine continues_holds ?_ fun phase does => knows_afterRead does fun _ => ?_
    · simpa [slotOf] using held
    · simp [slotOf]
  | checkingAcceptance =>
    refine continues_holds held fun phase does => ?_
    obtain ⟨receipt, rfl, -, named⟩ := checkAcceptance_does does
    intro fresh
    refine ⟨?_, named⟩
    rintro (recorded | invalid)
    · rw [knows] at recorded
      cases recorded
    · rw [invalid] at fresh
      cases fresh
  | checkingAdvance current =>
    refine continues_holds held fun phase does => ?_
    obtain ⟨state, rfl, -⟩ := checkAdvance_does does
    exact fun fresh => absurd fresh Bool.false_ne_true
  | publishing receipt fresh =>
    refine .inr ⟨.answering receipt fresh, does_activity .., ?_, ?_, fun isFresh =>
      (knows isFresh).2⟩
    · simpa [phaseStep, slotOf] using held
    · simp [phaseStep, slotOf]
  | answering receipt fresh => exact .inl (releases_activity ..)

theorem knows_corrupt {slot : Slot} {bytes : RecordBytes} (knows : Knows slot operation phase) :
    Knows { slot with record := slot.record.map fun _ => bytes } operation phase := by
  cases phase <;> simp_all [Knows, Published]

theorem sound_corrupts (sound : Sound filename Knows directory) (name : String)
    (bytes : RecordBytes) : Sound filename Knows (directory.corrupts name bytes) := by
  intro process operation phase doing
  have held := sound process operation phase doing
  by_cases same : filename operation.messageId = name
  · subst same
    rw [slotOf, corrupts_own]
    exact ⟨held.1, knows_corrupt held.2⟩
  · rw [slotOf, corrupts_other _ same]
    exact held

theorem sound_next (directory : Directory) (input : StoreInput)
    (sound : Sound filename Knows directory) :
    Sound filename Knows ((storeMachine filename).next directory input) := by
  cases input with
  | call process operation => exact sound.begins process operation fun _ => trivial
  | fileStep process =>
    change Sound filename Knows (directory.fileStep filename process).2
    rw [fileStep]
    split
    · exact sound
    · rename_i doing
      exact sound_phaseStep sound doing
  | fails process => exact sound.ends process
  | crash process => exact sound.crash process
  | corrupt name bytes => exact sound_corrupts sound name bytes

variable {name : String}

theorem published_releases (published : Published (directory.slots name)) :
    Published ((directory.releases filename process operation).slots name) := by
  by_cases same : name = filename operation.messageId
  · subst same
    rw [releases_own]
    exact published
  · rw [releases_otherSlot _ _ _ same]
    exact published

theorem published_continues {next : Continues} (published : Published (directory.slots name)) :
    Published ((directory.continues filename process operation next).2.slots name) := by
  cases next with
  | answers answer => exact published_releases published
  | does phase => exact published

theorem published_phaseStep (sound : Sound filename Knows directory)
    (doing : (directory.processes process).activity = some (operation, phase))
    (published : Published (directory.slots name)) :
    Published ((directory.phaseStep filename process operation phase).2.slots name) := by
  have knows := (sound process operation phase doing).2
  by_cases same : name = filename operation.messageId
  · subst same
    cases phase with
    | reading =>
      rw [phaseStep]
      split
      · exact published
      split
      · exact published_continues published
      · exact published
    | linkingInvalid => exact .inr (by simp [phaseStep])
    | quarantining =>
      refine published_continues (.inr ?_)
      rw [changeSlot_own]
      exact knows
    | publishing receipt fresh => exact .inl (by simp [phaseStep])
    | absent | checkingAcceptance | checkingAdvance current => exact published_continues published
    | answering receipt fresh => exact published_releases published
  · rw [phaseStep_otherSlot same]
    exact published

theorem published_next (sound : Sound filename Knows directory) (input : StoreInput)
    (published : Published (directory.slots name)) :
    Published (((storeMachine filename).next directory input).slots name) := by
  have ending (process : Nat) : Published ((directory.ends filename process).slots name) := by
    rw [ends]
    split
    · exact published
    · exact published_releases published
  cases input with
  | call process operation =>
    change Published ((directory.begins filename process operation).slots name)
    rw [begins]
    split_ifs
    · by_cases same : name = filename operation.messageId
      · subst same
        rw [does_slots, changeSlot_own]
        exact published
      · rw [does_slots, changeSlot_other _ _ same]
        exact published
    · exact published
  | fileStep process =>
    change Published ((directory.fileStep filename process).2.slots name)
    rw [fileStep]
    split
    · exact published
    · rename_i doing
      exact published_phaseStep sound doing published
  | fails process | crash process => exact ending process
  | corrupt other bytes =>
    change Published ((directory.corrupts other bytes).slots name)
    by_cases same : name = other
    · subst same
      rw [corrupts_own]
      exact published.imp (by simp) id
    · rw [corrupts_other _ same]
      exact published

end Publication

section Freshness

variable {filename : String → String} {directory : Directory} {process : Nat}
  {operation : Operation} {phase : Phase}

variable {receipt : OutgoingReceipt}

theorem afterRead_not_fresh {prior : Option OutgoingReceipt} :
    afterRead operation prior ≠ .answers (.accepted receipt true) := by
  cases operation with
  | accept | advance =>
    cases prior with
    | none => simp [afterRead]
    | some current =>
      simp only [afterRead]
      split_ifs <;> simp
  | get => simp [afterRead]

theorem writes_not_fresh {written receipt : OutgoingReceipt} {fresh : Bool} :
    writes written fresh ≠ .answers (.accepted receipt true) := by
  rw [writes]
  split_ifs <;> simp

theorem checkAcceptance_not_fresh {unverified : Bool} :
    checkAcceptance operation unverified ≠ .answers (.accepted receipt true) := by
  cases operation with
  | accept => exact writes_not_fresh
  | advance | get => simp [checkAcceptance]

theorem checkAdvance_not_fresh {current receipt : OutgoingReceipt} {unverified : Bool} :
    checkAdvance operation current unverified ≠ .answers (.accepted receipt true) := by
  cases operation with
  | accept | get => simp [checkAdvance]
  | advance =>
    rw [checkAdvance]
    split_ifs
    · simp
    · simp
    · exact writes_not_fresh

theorem continues_answers {next : Continues} {answer : Answer}
    (answers : (directory.continues filename process operation next).1 = some answer) :
    next = .answers answer := by
  cases next with
  | answers given => exact congrArg _ (Option.some.inj answers)
  | does phase => cases answers

theorem phaseStep_fresh
    (answers : (directory.phaseStep filename process operation phase).1 = some (.accepted receipt
      true)) : phase = .answering receipt true := by
  cases phase with
  | reading =>
    rw [phaseStep] at answers
    split at answers
    · cases answers
    split at answers
    · exact absurd (continues_answers answers) afterRead_not_fresh
    · cases answers
  | absent | quarantining => exact absurd (continues_answers answers) afterRead_not_fresh
  | linkingInvalid | publishing other fresh => cases answers
  | checkingAcceptance => exact absurd (continues_answers answers) checkAcceptance_not_fresh
  | checkingAdvance current => exact absurd (continues_answers answers) checkAdvance_not_fresh
  | answering other fresh =>
    cases operation with
    | accept =>
      simp only [phaseStep, answerOf, Option.some.injEq, Answer.accepted.injEq] at answers
      rw [answers.1, answers.2]
    | advance | get => simp [phaseStep, answerOf] at answers

def freshAnswers (filename : String → String) (messageId : String)
    (step : Machine.Step (storeMachine filename)) : List OutgoingReceipt :=
  match step.output.1 with
  | some (.accepted receipt true) => if receipt.messageId = messageId then [receipt] else []
  | _ => []

variable {step : Machine.Step (storeMachine filename)} {messageId : String}

theorem freshAnswers_eq_nil
    (none : ∀ receipt : OutgoingReceipt, receipt.messageId = messageId → step.output.1 ≠ some
      (.accepted receipt true)) : freshAnswers filename messageId step = [] := by
  rw [freshAnswers]
  split
  · rename_i receipt answered
    rw [if_neg fun same => none receipt same answered]
  · rfl

theorem fresh_step (answered : step.output.1 = some (.accepted receipt true)) :
    ∃ process operation, step.input = .fileStep process ∧
      (step.before.processes process).activity = some (operation, .answering receipt true) := by
  obtain ⟨before, input⟩ := step
  cases input with
  | fileStep process =>
    change (before.fileStep filename process).1 = _ at answered
    rw [fileStep] at answered
    split at answered
    · cases answered
    rename_i operation phase doing
    cases phaseStep_fresh answered
    exact ⟨process, operation, rfl, doing⟩
  | call | fails | crash | corrupt => cases answered

/-- The message is published, and no acceptance is about to answer that it is fresh. -/
structure Settled (filename : String → String) (name : String) (directory : Directory) : Prop where
  sound : Sound filename Knows directory
  published : Published (directory.slots name)
  answered : ∀ process operation receipt,
    (directory.processes process).activity = some (operation, .answering receipt true) →
      filename operation.messageId ≠ name

theorem phaseStep_answering {other : Operation}
    (doing : ((directory.phaseStep filename process operation phase).2.processes
      process).activity = some (other, .answering receipt true)) :
    other = operation ∧ phase = .publishing receipt true := by
  have read {middle : Directory} {next : Continues}
      (none : ∀ phase, next = .does phase → phase ≠ .answering receipt true)
      (isDoing : ((middle.continues filename process operation next).2.processes process).activity =
        some (other, .answering receipt true)) :
      other = operation ∧ phase = .publishing receipt true := by
    rcases continues_own next with idle | ⟨phase, isNext, running, -⟩
    · cases idle.symm.trans isDoing
    · cases running.symm.trans isDoing
      exact absurd rfl (none _ isNext)
  have reads {prior : Option OutgoingReceipt} (phase : Phase)
      (does : afterRead operation prior = .does phase) : phase ≠ .answering receipt true := by
    rcases afterRead_does does with ⟨rfl, -⟩ | ⟨current, rfl, -⟩
    · exact nofun
    · exact nofun
  cases phase with
  | reading =>
    rw [phaseStep] at doing
    split at doing
    · cases (does_activity ..).symm.trans doing
    split at doing
    · exact read reads doing
    · cases (does_activity ..).symm.trans doing
  | absent | quarantining => exact read reads doing
  | linkingInvalid => cases (does_activity ..).symm.trans doing
  | checkingAcceptance =>
    refine read (fun phase does same => ?_) doing
    obtain ⟨receipt, rfl, -⟩ := checkAcceptance_does does
    cases same
  | checkingAdvance current =>
    refine read (fun phase does same => ?_) doing
    obtain ⟨state, rfl, -⟩ := checkAdvance_does does
    cases same
  | publishing written fresh =>
    cases (does_activity ..).symm.trans doing
    exact ⟨rfl, rfl⟩
  | answering written fresh => cases (releases_activity ..).symm.trans doing

theorem Settled.next {name : String} (settled : Settled filename name directory)
    (input : StoreInput) :
    Settled filename name ((storeMachine filename).next directory input) := by
  refine ⟨sound_next directory input settled.sound, published_next settled.sound input
    settled.published, ?_⟩
  intro process operation receipt doing
  have ending (other : Nat) (doing : ((directory.ends filename other).processes process).activity =
      some (operation, .answering receipt true)) : filename operation.messageId ≠ name := by
    rw [ends] at doing
    split at doing
    · exact settled.answered process operation receipt doing
    by_cases same : process = other
    · subst same
      cases (releases_activity ..).symm.trans doing
    · rw [releases_other _ _ _ same] at doing
      exact settled.answered process operation receipt doing
  cases input with
  | call other given =>
    change ((directory.begins filename other given).processes process).activity = _ at doing
    rw [begins] at doing
    split_ifs at doing
    · by_cases same : process = other
      · subst same
        cases (does_activity ..).symm.trans doing
      · rw [does_other _ _ same] at doing
        exact settled.answered process operation receipt doing
    · exact settled.answered process operation receipt doing
  | fileStep other =>
    change ((directory.fileStep filename other).2.processes process).activity = _ at doing
    rw [fileStep] at doing
    split at doing
    · exact settled.answered process operation receipt doing
    rename_i running phase isRunning
    by_cases same : process = other
    · subst same
      obtain ⟨rfl, rfl⟩ := phaseStep_answering doing
      rintro rfl
      exact ((settled.sound process operation _ isRunning).2 rfl).1 settled.published
    · rw [phaseStep_other same] at doing
      exact settled.answered process operation receipt doing
  | fails other => exact ending other doing
  | crash other =>
    by_cases same : process = other
    · subst same
      simp [storeMachine, Machine.next, respond, changeProcess] at doing
    · refine ending other ?_
      simpa [storeMachine, Machine.next, respond, changeProcess, same] using doing
  | corrupt other bytes => exact settled.answered process operation receipt doing

theorem Settled.silent (settled : Settled filename (filename messageId) step.before) :
    freshAnswers filename messageId step = [] := by
  refine freshAnswers_eq_nil fun receipt named answered => ?_
  obtain ⟨process, operation, -, doing⟩ := fresh_step answered
  have same := ((settled.sound process operation _ doing).2.2 rfl).symm.trans named
  exact settled.answered process operation receipt doing (congrArg filename same)

theorem settled_of_fresh (sound : Sound filename Knows step.before)
    (named : receipt.messageId = messageId)
    (answered : step.output.1 = some (.accepted receipt true)) :
    Settled filename (filename messageId) step.after := by
  obtain ⟨process, operation, isInput, doing⟩ := fresh_step answered
  obtain ⟨before, input⟩ := step
  cases isInput
  have knows := (sound process operation _ doing).2
  have same : operation.messageId = messageId := (knows.2 rfl).symm.trans named
  subst same
  have after : (Machine.Step.after (⟨before, .fileStep process⟩ :
      Machine.Step (storeMachine filename))) =
      before.releases filename process operation := by
    change (before.fileStep filename process).2 = _
    rw [fileStep, doing]
    rfl
  refine ⟨sound_next before (.fileStep process) sound, ?_, ?_⟩
  · exact published_next sound (.fileStep process) (.inl knows.1)
  intro other otherOperation otherReceipt otherDoing
  rw [after] at otherDoing
  by_cases isSame : other = process
  · subst isSame
    cases (releases_activity ..).symm.trans otherDoing
  · rw [releases_other _ _ _ isSame] at otherDoing
    exact sound.apart doing isSame otherDoing

theorem fresh_at_most_once (filename : String → String) (messageId : String)
    (inputs : List StoreInput) :
    (((storeMachine filename).steps inputs).flatMap (freshAnswers filename messageId)).length ≤
      1 := by
  refine Machine.length_flatMap_stepsFrom_le_one (Settled filename (filename messageId))
    (Sound filename Knows) sound_next (fun step settled =>
      ⟨settled.silent, settled.next step.input⟩)
    (fun step sound => ?_) inputs Sound.initially
  by_cases fresh : ∃ receipt : OutgoingReceipt, receipt.messageId = messageId ∧
      step.output.1 = some (.accepted receipt true)
  · obtain ⟨receipt, named, answered⟩ := fresh
    refine .inr ⟨?_, settled_of_fresh sound named answered⟩
    rw [freshAnswers, answered]
    simp [named]
  · exact .inl (freshAnswers_eq_nil fun receipt named answered => fresh ⟨receipt, named, answered⟩)

end Freshness

end Adhdev.OutgoingReceipts
