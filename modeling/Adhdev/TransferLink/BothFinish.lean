import Adhdev.TransferLink.ExchangeRuns

/-! # Both sessions finish

When nothing is left to do, both sessions are finished and the receiver is complete.
-/

namespace Adhdev.TransferLink

open Octets List Option Bool

section Both

variable {setup : LinkSetup} {resume : List Nat} {exchange : Exchange}
  {returned executed delivered : Nat} {said heard : List FrameBody}

theorem delivered_all {Own : Type} {session : Session Own} (spoken : Spoken setup session said)
    (inside : delivered ≤ said.length) (none : session.sent[delivered]? = none) :
    delivered = said.length := by
  rw [spoken.sent, numbered, getElem?_eq_none_iff, length_mapIdx] at none
  omega

variable {session : ReceiverSession}

theorem ReceiverAt.caught_up {gone actions : List PumpAction}
    (place : ReceiverAt setup resume session delivered heard)
    (walk : pump setup resume = gone ++ actions) (shaped : Shaped actions)
    (isDelivered : delivered = (framesOf gone).length + 1) :
    heard.length = (endedBlocks (framesOf gone)).length + 2 ∨ blockFrames setup resume = [] := by
  obtain ⟨frames, ends⟩ := shaped.ends
  have cut := pump_cut walk
  rw [ends, ← append_assoc] at cut
  have whole := append_cancel_right cut
  cases place with
  | waiting _ _ _ _ _ before => omega
  | receiving taken rest _ _ _ split _ _ after isSaid =>
    have same : taken = framesOf gone := by
      rw [split] at whole
      exact append_inj_left whole (by omega)
    rw [isSaid, length_cons, length_cons, length_acksFor, same]
    exact .inl rfl
  | finished _ _ _ after =>
    rw [whole, length_append] at after
    omega
  | dismissed _ _ nothing => exact .inr nothing

theorem pumpStep_waits {session : SenderSession} (live : session.done = false)
    (shaped : Shaped session.own.actions) (none : SenderSession.pumpStep setup session = none) :
    session.own.ackedBlocks < session.own.sentBlocks := by
  rw [SenderSession.pumpStep, if_neg (by rw [live]; exact false_ne_true)] at none
  cases isActions : session.own.actions with
  | nil =>
    rw [isActions] at shaped
    exact shaped.elim
  | cons action actions =>
    rw [isActions] at none
    cases action with
    | waitForWindow =>
      dsimp only at none
      split_ifs at none with full
      have positive : 0 < windowBlocks := by decide
      omega
    | sendData fileIndex offset length read | sendBlockEnd fileIndex start digest expected =>
      dsimp only at none
      split_ifs at none
    | sendDone =>
      dsimp only at none
      split_ifs at none with fewer
      exact fewer

theorem ReceiverAt.finishes (place : ReceiverAt setup resume session delivered heard)
    (isDelivered : delivered = (blockFrames setup resume).length + 2 ∨ (0 < delivered ∧
      blockFrames setup resume = [])) :
    session.done = true ∧ session.own.receiver.complete = true ∧
      heard.filterMap FrameBody.acked = missingBlocks setup.files resume := by
  rw [← endedBlocks_blockFrames]
  cases place with
  | waiting _ _ _ _ _ before => omega
  | receiving taken rest _ _ _ split some _ after =>
    rcases isDelivered with all | ⟨-, nothing⟩
    · rw [split, length_append] at all
      omega
    · exact absurd nothing some
  | finished done complete _ _ isSaid =>
    refine ⟨done, complete, ?_⟩
    rw [isSaid]
    exact acked_acksFor _
  | dismissed done complete nothing _ isSaid =>
    refine ⟨done, complete, ?_⟩
    rw [isSaid, nothing]
    rfl

theorem agrees_finished {count : Nat} (agrees : Agrees setup resume count exchange)
    (stuck : ∀ progress, exchange.advance setup progress = none) :
    exchange.sender.done = true ∧ exchange.receiver.done = true ∧
      exchange.receiver.own.receiver.complete = true ∧
      acknowledged exchange.receiver = missingBlocks setup.files resume ∧
      exchange.sender.own.ackedBlocks = (missingBlocks setup.files resume).length := by
  obtain ⟨executed, said, heard, sender, receiver, senderSpoken, receiverSpoken, inside, within,
    -⟩ :=
    agrees
  have isDelivered := delivered_all senderSpoken inside (map_eq_none_iff.mp (stuck .toReceiver))
  have isReturned := delivered_all receiverSpoken within (map_eq_none_iff.mp (stuck .toSender))
  have waits := map_eq_none_iff.mp (stuck .pump)
  rw [acknowledged_eq receiverSpoken]
  have counted := congrArg length (endedBlocks_blockFrames setup resume)
  cases sender with
  | waiting _ _ _ _ before _ isSaid =>
    rw [isSaid, length_singleton] at isDelivered
    cases receiver with
    | waiting _ _ _ _ first => omega
    | receiving _ _ _ _ _ _ _ _ _ isHeard | finished _ _ _ _ isHeard | dismissed _ _ _ _ isHeard =>
      rw [isHeard, length_cons] at isReturned
      omega
  | greeted _ _ _ _ before _ isSaid =>
    rw [isSaid, length_singleton] at isDelivered
    cases receiver with
    | waiting _ _ _ _ first => omega
    | receiving _ _ _ _ _ _ _ _ _ isHeard | finished _ _ _ _ isHeard | dismissed _ _ _ _ isHeard =>
      rw [isHeard, length_cons, length_cons] at isReturned
      omega
  | sending gone live greeted isSeq isResume walk shaped isAcked isSent window admitted none
        isExecuted
      isSaid =>
      have fewer := pumpStep_waits live shaped waits
      rw [isSaid, length_cons] at isDelivered
      rcases receiver.caught_up walk shaped isDelivered with caughtUp | nothing
      · omega
      obtain ⟨frames, ends⟩ := shaped.ends
      have cut := pump_cut walk
      rw [ends, ← append_assoc, nothing] at cut
      have empty := (append_eq_nil_iff.mp (append_cancel_right cut).symm).1
      rw [empty] at isSent
      rw [isSent] at fewer
      exact absurd fewer (Nat.not_lt_zero _)
  | finished done isAcked isSent isExecuted isSaid =>
    rw [isSaid, length_cons, length_append, length_singleton] at isDelivered
    exact ⟨done, (receiver.finishes (.inl isDelivered)).1,
      (receiver.finishes (.inl isDelivered)).2.1,
      (receiver.finishes (.inl isDelivered)).2.2, isAcked.trans (isSent.trans counted)⟩
  | dismissed done nothing isAcked isSent isExecuted isSaid =>
    rw [isSaid, length_singleton] at isDelivered
    have finishes := receiver.finishes (.inr ⟨by omega, nothing⟩)
    refine ⟨done, finishes.1, finishes.2.1, finishes.2.2, ?_⟩
    rw [← counted, nothing, isAcked]
    rfl

/-- In every run neither party aborts, the window is kept, each block that the receiver
lacked is acknowledged once, and after a bounded number of steps both have finished. -/
theorem honest_exchange_finishes (honest : setup.Honest) {staged : Nat → Option Octets}
    {claimedBlocks : List Nat} {count : Nat}
    (run : Exchange.Run setup staged claimedBlocks count exchange) :
    let resume := (TransferReceiver.init setup.sha256 setup.files staged claimedBlocks).blocksDone
    let missing := missingBlocks setup.files resume
    exchange.sender.error = none ∧ exchange.receiver.error = none ∧
    exchange.sender.own.sentBlocks ≤ exchange.sender.own.ackedBlocks + windowBlocks ∧
    missing.Nodup ∧ acknowledged exchange.receiver <+: missing ∧
    count ≤ (pump setup resume).length + (blockFrames setup resume).length + missing.length + 5 ∧
    ((∀ progress, exchange.advance setup progress = none) →
      exchange.sender.done = true ∧ exchange.receiver.done = true ∧
      exchange.receiver.own.receiver.complete = true ∧
      acknowledged exchange.receiver = missing ∧
      exchange.sender.own.ackedBlocks = missing.length) := by
  have agrees := agrees_run honest run
  refine ⟨?_, ?_, ?_, missingBlocks_nodup .., ?_, ?_, agrees_finished agrees⟩ <;>
    obtain ⟨executed, said, heard, sender, receiver, senderSpoken, receiverSpoken, inside, within,
      same⟩ := agrees
  · exact senderSpoken.error
  · exact receiverSpoken.error
  · exact sender.window
  · rw [acknowledged_eq receiverSpoken]
    exact receiver.acknowledges
  · have spokenBound := sender.says_part.length_le
    have heardBound := receiver.heard_le
    have executedBound := sender.executed_le
    rw [List.length_cons, List.length_append, List.length_singleton] at spokenBound
    omega

end Both

def twoBytes : LinkSetup where
  transferId := "00112233445566778899aabbccddeeff"
  bindingTag := fun role => List.replicate 32 (if role = .sender then 1 else 2)
  sha256 := fun data => if data = [1, 2] then
    [161, 40, 113, 254, 226, 16, 251, 134, 25, 41, 30, 174, 161, 148, 88, 28,
      189, 37, 49, 228, 178, 55, 89, 210, 37, 246, 128, 105, 35, 246, 50, 34]
    else List.replicate 32 0
  files := [
    { size := 2
      blockHashes := ["a12871fee210fb8619291eaea194581cbd2531e4b23759d225f6806923f63222"] },
    { size := 0, blockHashes := [] }]
  spool := fun index => if index = 0 then [1, 2] else []

theorem twoBytes_honest : twoBytes.Honest where
  digestLength := by
    intro data
    dsimp only [twoBytes]
    split_ifs
    · rfl
    · exact length_replicate
  tagLength := fun _ => length_replicate
  spooled := by
    intro index file isFile
    rcases index with _ | _ | index
    · obtain rfl := some.inj isFile
      rfl
    · obtain rfl := some.inj isFile
      rfl
    · cases isFile
  hashed := by
    intro index file isFile block listed
    rcases index with _ | _ | index
    · obtain rfl := some.inj isFile
      obtain rfl : block = 0 := by
        rw [lt_blockCount_iff] at listed
        dsimp only [blockBytes] at listed
        omega
      decide
    · obtain rfl := some.inj isFile
      exact absurd listed (Nat.not_lt_zero _)
    · cases isFile

theorem run_advances {staged : Nat → Option Octets} {claimedBlocks : List Nat} {count : Nat}
    (run : Exchange.Run setup staged claimedBlocks count exchange)
    (schedule : List Exchange.Progress) {last : Exchange}
    (advances : schedule.foldlM (Exchange.advance setup) exchange = some last) :
    Exchange.Run setup staged claimedBlocks (count + schedule.length) last := by
  induction schedule generalizing exchange count with
  | nil =>
    cases advances
    exact run
  | cons progress schedule induction =>
    rw [List.foldlM_cons, Option.bind_eq_bind, Option.bind_eq_some_iff] at advances
    obtain ⟨next, isNext, advances⟩ := advances
    rw [List.length_cons, Nat.add_comm schedule.length, ← Nat.add_assoc]
    exact induction (run.progress isNext) advances

/-- The greetings, the block and its acknowledgement, the ends of both files and of the transfer. -/
def twoBytesSchedule : List Exchange.Progress :=
  [.toReceiver, .toSender, .toSender, .pump, .pump, .toReceiver, .pump, .toReceiver, .toSender,
    .pump, .toReceiver]

def twoBytesFinished : Exchange :=
  let start := Exchange.start twoBytes (fun _ => none) []
  (twoBytesSchedule.foldlM (Exchange.advance twoBytes) start).getD start

theorem honest_exchange_finishes_twoBytes : twoBytesFinished.receiver.done = true ∧
      acknowledged twoBytesFinished.receiver = missingBlocks twoBytes.files [0, 0] :=
  have advances : twoBytesSchedule.foldlM (Exchange.advance twoBytes)
      (Exchange.start twoBytes (fun _ => none) []) = some twoBytesFinished := rfl
  have whole := honest_exchange_finishes twoBytes_honest (run_advances .start _ advances)
  have finished := whole.2.2.2.2.2.2 fun progress => by cases progress <;> rfl
  ⟨finished.2.1, finished.2.2.2.1⟩

end Adhdev.TransferLink
