import Adhdev.TransferLink.HonestExchange

/-! # Runs of an honest exchange

Where both sessions are after any steps, and that every run ends with both finished.
-/

namespace Adhdev.TransferLink

open Octets List Session SenderSession

/-! ## Blocks that are ended and acknowledged -/

def FrameBody.ended : FrameBody → Option (Nat × Nat)
  | .blockEnd fileIndex offset _ => some (fileIndex, offset)
  | _ => none

def FrameBody.acked : FrameBody → Option (Nat × Nat)
  | .blockAck fileIndex offset => some (fileIndex, offset)
  | _ => none

def endedBlocks (frames : List FrameBody) : List (Nat × Nat) := frames.filterMap FrameBody.ended

def acksFor (frames : List FrameBody) : List FrameBody :=
  (endedBlocks frames).map fun block => .blockAck block.1 block.2

@[simp] theorem endedBlocks_append (left right : List FrameBody) :
    endedBlocks (left ++ right) = endedBlocks left ++ endedBlocks right :=
  filterMap_append

theorem acksFor_append (left right : List FrameBody) :
    acksFor (left ++ right) = acksFor left ++ acksFor right := by
  rw [acksFor, endedBlocks_append, map_append]
  rfl

theorem length_acksFor (frames : List FrameBody) :
    (acksFor frames).length = (endedBlocks frames).length :=
  length_map _

theorem acked_acksFor (frames : List FrameBody) :
    (acksFor frames).filterMap FrameBody.acked = endedBlocks frames := by
  rw [acksFor, filterMap_map]
  exact filterMap_some

theorem acksFor_is_ack {frames : List FrameBody} {index : Nat} {frame : FrameBody}
    (isFrame : (acksFor frames)[index]? = some frame) :
    ∃ fileIndex offset, frame = .blockAck fileIndex offset := by
  rw [acksFor, getElem?_map, Option.map_eq_some_iff] at isFrame
  obtain ⟨block, -, same⟩ := isFrame
  exact ⟨block.1, block.2, same.symm⟩

/-! ## Where the sessions are -/

section Phases

variable (setup : LinkSetup) (resume : List Nat)

def helloOf (role : RoleName) : FrameBody := .hello (setup.computeBindingTag role) role

def blockFrames : List FrameBody := framesOf (pumpFiles setup resume 0)

inductive SenderAt (session : SenderSession) (returned executed : Nat) (said : List FrameBody) :
    Prop
  | waiting (live : session.done = false) (silent : session.helloOk = false)
      (isSeq : session.nextSeq = 0) (own : session.own = {}) (isReturned : returned = 0)
      (isExecuted : executed = 0) (isSaid : said = [helloOf setup .sender])
  | greeted (live : session.done = false) (greeted : session.helloOk = true)
      (isSeq : session.nextSeq = 1) (own : session.own = {}) (isReturned : returned = 1)
      (isExecuted : executed = 0) (isSaid : said = [helloOf setup .sender])
  | sending (gone : List PumpAction) (live : session.done = false)
      (greeted : session.helloOk = true) (isSeq : session.nextSeq = returned)
      (isResume : session.own.resume = some resume)
      (walk : pump setup resume = gone ++ session.own.actions)
      (shaped : Shaped session.own.actions)
      (isAcked : session.own.ackedBlocks + 2 = returned)
      (isSent : session.own.sentBlocks = (endedBlocks (framesOf gone)).length)
      (window : session.own.sentBlocks ≤ session.own.ackedBlocks + windowBlocks)
      (admitted : Admitted session.own.actions →
        session.own.sentBlocks < session.own.ackedBlocks + windowBlocks)
      (none : blockFrames setup resume = [] → session.own.ackedBlocks = 0)
      (isExecuted : executed = gone.length)
      (isSaid : said = helloOf setup .sender :: framesOf gone)
  | finished (done : session.done = true)
      (isAcked : session.own.ackedBlocks = session.own.sentBlocks)
      (isSent : session.own.sentBlocks = (endedBlocks (blockFrames setup resume)).length)
      (isExecuted : executed = (pump setup resume).length)
      (isSaid : said = helloOf setup .sender :: (blockFrames setup resume ++ [.done]))
  | dismissed (done : session.done = true) (nothing : blockFrames setup resume = [])
      (isAcked : session.own.ackedBlocks = 0) (isSent : session.own.sentBlocks = 0)
      (isExecuted : executed ≤ (pump setup resume).length)
      (isSaid : said = [helloOf setup .sender])

inductive ReceiverAt (session : ReceiverSession) (delivered : Nat) (said : List FrameBody) : Prop
  | waiting (live : session.done = false) (silent : session.helloOk = false)
      (isSeq : session.nextSeq = 0) (resumes : session.own.resumeBlocks = resume)
      (expects : Expects setup resume session.own.receiver (blockFrames setup resume))
      (isDelivered : delivered = 0) (isSaid : said = [helloOf setup .receiver])
  | receiving (taken rest : List FrameBody) (live : session.done = false)
      (greeted : session.helloOk = true) (isSeq : session.nextSeq = delivered)
      (walk : blockFrames setup resume = taken ++ rest) (some : blockFrames setup resume ≠ [])
      (expects : Expects setup resume session.own.receiver rest)
      (isDelivered : delivered = taken.length + 1)
      (isSaid : said = helloOf setup .receiver :: .resumeState resume :: acksFor taken)
  | finished (done : session.done = true) (complete : session.own.receiver.complete = true)
      (some : blockFrames setup resume ≠ [])
      (isDelivered : delivered = (blockFrames setup resume).length + 2)
      (isSaid : said =
        helloOf setup .receiver :: .resumeState resume :: acksFor (blockFrames setup resume))
  | dismissed (done : session.done = true) (complete : session.own.receiver.complete = true)
      (nothing : blockFrames setup resume = []) (isDelivered : 0 < delivered)
      (isSaid : said = [helloOf setup .receiver, .resumeState resume, .done])

end Phases

section Steps

variable {setup : LinkSetup} {resume : List Nat} {returned executed delivered : Nat}
  {said : List FrameBody}

theorem pump_cut {gone actions : List PumpAction} (walk : pump setup resume = gone ++ actions) :
    blockFrames setup resume ++ [.done] = framesOf gone ++ framesOf actions := by
  rw [blockFrames, ← framesOf_pump, walk, framesOf_append]

theorem SenderAt.pump {session next : SenderSession}
    (place : SenderAt setup resume session returned executed said)
    (spoken : Spoken setup session said)
    (bounded : session.own.ackedBlocks ≤ session.own.sentBlocks)
    (isNext : pumpStep setup session = some next) :
    ∃ more, SenderAt setup resume next returned (executed + 1) (said ++ more) ∧
      Spoken setup next (said ++ more) := by
  rw [pumpStep] at isNext
  cases place with
  | waiting live silent isSeq own | greeted live greeted isSeq own =>
    rw [live, if_neg Bool.false_ne_true, own] at isNext
    cases isNext
  | finished done | dismissed done =>
    rw [if_pos done] at isNext
    cases isNext
  | sending gone live greeted isSeq isResume walk shaped isAcked isSent window admitted none
        isExecuted
      isSaid =>
      rw [if_neg (by rw [live]; exact Bool.false_ne_true)] at isNext
      cases isActions : session.own.actions with
      | nil =>
        rw [isActions] at shaped
        exact shaped.elim
      | cons action actions =>
        rw [isActions] at isNext walk shaped admitted
        have step : TransferLink.pump setup resume = (gone ++ [action]) ++ actions := by
          rw [walk, append_assoc]
          rfl
        have counted : executed + 1 = (gone ++ [action]).length := by
          rw [isExecuted, length_append, length_singleton]
        cases action with
        | waitForWindow =>
          dsimp only at isNext
          split_ifs at isNext with full
          obtain rfl := Option.some.inj isNext
          refine ⟨[], .sending (gone ++ [.waitForWindow]) live greeted isSeq isResume step shaped
            isAcked ?_ window (fun _ => not_le.mp full) none counted ?_, ?_⟩
          · rw [framesOf_append]
            exact isSent.trans (congrArg _ (congrArg _ (append_nil _).symm))
          · rw [isSaid, framesOf_append, append_nil]
            exact congrArg _ (append_nil _).symm
          · rw [append_nil]
            exact ⟨spoken.sent, spoken.outSeq, spoken.error⟩
        | sendData fileIndex offset length read =>
          dsimp only at isNext
          rw [if_neg (not_not.mpr shaped.1)] at isNext
          obtain rfl := Option.some.inj isNext
          have sent := spoken_sendFrame spoken (.data fileIndex offset read)
          refine ⟨[.data fileIndex offset read],
            .sending (gone ++ [.sendData fileIndex offset length read]) live greeted isSeq isResume
              step shaped.2 isAcked ?_ window admitted none counted ?_, ?_⟩
          · rw [framesOf_append, endedBlocks_append]
            exact isSent.trans (congrArg _ (append_nil _).symm)
          · rw [isSaid, framesOf_append]
            rfl
          · exact ⟨sent.sent, sent.outSeq, sent.error⟩
        | sendBlockEnd fileIndex start digest expected =>
          dsimp only at isNext
          rw [if_neg (not_not.mpr shaped.1)] at isNext
          obtain rfl := Option.some.inj isNext
          have sent := spoken_sendFrame spoken (.blockEnd fileIndex start (ofHex digest.toList))
          refine ⟨[.blockEnd fileIndex start (ofHex digest.toList)],
            .sending (gone ++ [.sendBlockEnd fileIndex start digest expected]) live greeted isSeq
              isResume step shaped.2.2 isAcked ?_ (admitted trivial)
              (fun again => absurd again shaped.2.1) none counted ?_, ?_⟩
          · rw [framesOf_append, endedBlocks_append, length_append, ← isSent]
            rfl
          · rw [isSaid, framesOf_append]
            rfl
          · exact ⟨sent.sent, sent.outSeq, sent.error⟩
        | sendDone =>
          dsimp only at isNext
          split_ifs at isNext with fewer
          obtain rfl := Option.some.inj isNext
          obtain rfl : actions = [] := shaped
          have sent := spoken_sendFrame spoken .done
          have all : blockFrames setup resume = framesOf gone := append_cancel_right (pump_cut walk)
          rw [append_nil] at step
          refine ⟨[.done], .finished ?_ ?_ ?_ (step ▸ counted) ?_, ?_⟩
          · rw [finish]
            split_ifs with done
            · exact done
            · rfl
          · rw [finish]
            split_ifs <;> exact le_antisymm bounded (not_lt.mp fewer)
          · rw [finish, all]
            split_ifs <;> exact isSent
          · rw [isSaid, all, cons_append]
          · rw [finish]
            split_ifs <;> exact ⟨sent.sent, sent.outSeq, sent.error⟩

theorem SenderAt.says_part {session : SenderSession}
    (place : SenderAt setup resume session returned executed said) :
    said <+: helloOf setup .sender :: (blockFrames setup resume ++ [.done]) := by
  cases place with
  | waiting _ _ _ _ _ _ isSaid | greeted _ _ _ _ _ _ isSaid | dismissed _ _ _ _ _ isSaid =>
        exact ⟨_, by rw [isSaid]; rfl⟩
  | sending gone _ _ _ _ walk _ _ _ _ _ _ _ isSaid =>
    exact ⟨framesOf session.own.actions, by rw [isSaid, pump_cut walk]; rfl⟩
  | finished _ _ _ _ isSaid => exact ⟨[], by rw [isSaid, append_nil]⟩

variable {session : ReceiverSession} {body : FrameBody}

theorem ReceiverAt.heard {index : Nat} (place : ReceiverAt setup resume session delivered said)
    (isBody : said[index]? = some body) :
    (index = 0 ∧ body = helloOf setup .receiver) ∨ (index = 1 ∧ body = .resumeState resume) ∨
      (2 ≤ index ∧ blockFrames setup resume ≠ [] ∧
        ∃ fileIndex offset, body = .blockAck fileIndex offset) ∨
      (index = 2 ∧ body = .done ∧ blockFrames setup resume = []) := by
  have acks : ∀ frames : List FrameBody,
      (helloOf setup .receiver :: .resumeState resume :: acksFor frames)[index]? = some body →
      (index = 0 ∧ body = helloOf setup .receiver) ∨ (index = 1 ∧ body = .resumeState resume) ∨
        (2 ≤ index ∧ ∃ fileIndex offset, body = .blockAck fileIndex offset) := by
    intro frames isBody
    rcases index with _ | _ | index
    · exact .inl ⟨rfl, (Option.some.inj isBody).symm⟩
    · exact .inr (.inl ⟨rfl, (Option.some.inj isBody).symm⟩)
    · exact .inr (.inr ⟨Nat.le_add_left .., acksFor_is_ack isBody⟩)
  cases place with
  | waiting _ _ _ _ _ _ isSaid =>
    rw [isSaid] at isBody
    obtain ⟨first, same⟩ := List.getElem?_eq_some_iff.mp isBody
    obtain rfl : index = 0 := by
      rw [length_singleton] at first
      omega
    exact .inl ⟨rfl, same.symm⟩
  | receiving taken _ _ _ _ _ some _ _ isSaid =>
    rw [isSaid] at isBody
    rcases acks taken isBody with first | second | ⟨after, ack⟩
    · exact .inl first
    · exact .inr (.inl second)
    · exact .inr (.inr (.inl ⟨after, some, ack⟩))
  | finished _ _ some _ isSaid =>
    rw [isSaid] at isBody
    rcases acks _ isBody with first | second | ⟨after, ack⟩
    · exact .inl first
    · exact .inr (.inl second)
    · exact .inr (.inr (.inl ⟨after, some, ack⟩))
  | dismissed _ _ nothing _ isSaid =>
    rw [isSaid] at isBody
    rcases index with _ | _ | _ | index
    · exact .inl ⟨rfl, (Option.some.inj isBody).symm⟩
    · exact .inr (.inl ⟨rfl, (Option.some.inj isBody).symm⟩)
    · exact .inr (.inr (.inr ⟨rfl, (Option.some.inj isBody).symm, nothing⟩))
    · cases isBody

theorem counts_all (counts : TransferReceiver.Counts setup.files resume) :
    ((resume.zip setup.files).all fun entry => entry.1 ≤ blockCount entry.2.size) = true := by
  rw [all_eq_true]
  intro entry member
  obtain ⟨index, isEntry⟩ := mem_iff_getElem?.mp member
  rw [getElem?_zip_eq_some] at isEntry
  exact decide_eq_true (counts.2 index entry.2 entry.1 isEntry.2 isEntry.1)

theorem SenderAt.receive (honest : setup.Honest) {session : SenderSession}
    {receiver : ReceiverSession} {heard : List FrameBody}
    (counts : TransferReceiver.Counts setup.files resume)
    (place : SenderAt setup resume session returned executed said)
    (spoken : Spoken setup session said) (peer : ReceiverAt setup resume receiver delivered heard)
    (isBody : heard[returned]? = some body) :
    SenderAt setup resume (session.receive setup ⟨setup.transferId, returned, body⟩) (returned + 1)
        executed said ∧
      Spoken setup (session.receive setup ⟨setup.transferId, returned, body⟩) said := by
  have hears := peer.heard isBody
  cases place with
  | waiting live silent isSeq own isReturned isExecuted isSaid =>
    obtain rfl : body = helloOf setup .receiver := by
      rcases hears with ⟨-, isHello⟩ | ⟨second, -⟩ | ⟨after, -⟩ | ⟨third, -⟩
      · exact isHello
      · omega
      · omega
      · omega
    rw [receive, helloOf,
      onRaw_hello honest live (isSeq.trans isReturned.symm) silent
        (show RoleName.sender.peer = .receiver from rfl)]
    exact ⟨.greeted live rfl (by dsimp only [id]; omega) own (by omega) isExecuted isSaid,
      spoken.sent, spoken.outSeq, spoken.error⟩
  | greeted live greeted isSeq own isReturned isExecuted isSaid =>
    obtain rfl : body = .resumeState resume := by
      rcases hears with ⟨first, -⟩ | ⟨-, isResume⟩ | ⟨after, -⟩ | ⟨third, -⟩
      · omega
      · exact isResume
      · omega
      · omega
    have taken : onFrame setup { session with nextSeq := returned + 1 }
        (.resumeState resume) = .ok { session with
          nextSeq := returned + 1
          own := { session.own with
            resume := some resume
            actions := TransferLink.pump setup resume } } := by
      rw [onFrame]
      dsimp only
      rw [own, if_pos rfl, if_pos ⟨counts.1, counts_all counts⟩]
    rw [receive, onRaw_next live (isSeq.trans isReturned.symm) greeted
      (fun code abort => by cases abort) taken, own]
    refine ⟨.sending [] live greeted rfl rfl rfl (shaped_pump honest resume) ?_ rfl
      (Nat.zero_le _) (fun _ => (by decide : 0 < 0 + windowBlocks)) (fun _ => rfl) isExecuted
        isSaid, spoken.sent, spoken.outSeq, spoken.error⟩
    rw [isReturned]
  | sending gone live greeted isSeq isResume walk shaped isAcked isSent window admitted none
        isExecuted
      isSaid =>
      rcases hears with ⟨first, -⟩ | ⟨second, -⟩ | ⟨-, some, fileIndex, offset, rfl⟩ |
        ⟨third, rfl, nothing⟩
      · omega
      · omega
      · have taken : onFrame setup { session with nextSeq := returned + 1 }
            (.blockAck fileIndex offset) = .ok { session with
              nextSeq := returned + 1
              own := { session.own with ackedBlocks := session.own.ackedBlocks + 1 } } := rfl
        rw [receive, onRaw_next live isSeq greeted (fun code abort => by cases abort) taken]
        refine ⟨.sending gone live greeted rfl isResume walk shaped ?_ isSent ?_ ?_
          (fun nothing => absurd nothing some) isExecuted isSaid, spoken.sent,
          spoken.outSeq, spoken.error⟩
        · dsimp only
          omega
        · dsimp only
          omega
        · intro isAdmitted
          have fewer := admitted isAdmitted
          dsimp only
          omega
      · have taken : onFrame setup { session with nextSeq := returned + 1 } .done =
            .ok { session with nextSeq := returned + 1, done := true } := by
          rw [onFrame, finish, if_neg (by rw [live]; exact Bool.false_ne_true)]
        rw [receive, onRaw_next live isSeq greeted (fun code abort => by cases abort) taken]
        have none : framesOf gone = [] := by
          obtain ⟨frames, ends⟩ := shaped.ends
          have cut := pump_cut walk
          rw [nothing, ends, ← append_assoc] at cut
          have empty := append_cancel_right cut
          exact (append_eq_nil_iff.mp empty.symm).1
        refine ⟨.dismissed rfl nothing ?_ ?_ ?_ ?_, spoken.sent, spoken.outSeq, spoken.error⟩
        · dsimp only
          omega
        · rw [none] at isSent
          exact isSent
        · rw [isExecuted, walk, length_append]
          exact Nat.le_add_right ..
        · rw [isSaid, none]
  | finished done isAcked isSent isExecuted isSaid =>
    rw [SenderSession.receive, onRaw_done done]
    exact ⟨.finished done isAcked isSent isExecuted isSaid, spoken⟩
  | dismissed done nothing isAcked isSent isExecuted isSaid =>
    rw [SenderSession.receive, onRaw_done done]
    exact ⟨.dismissed done nothing isAcked isSent isExecuted isSaid, spoken⟩

theorem onHelloOk_complete (session : ReceiverSession) (live : session.done = false)
    (complete : session.own.receiver.complete = true) : ReceiverSession.onHelloOk setup session =
      { (session.sendFrame setup (.resumeState session.own.resumeBlocks)).sendFrame setup .done with
        done := true } := by
  have stillLive : ¬session.done = true := by
    rw [live]
    exact Bool.false_ne_true
  exact (if_pos complete).trans (if_neg stillLive)

theorem onHelloOk_open (session : ReceiverSession)
    (incomplete : session.own.receiver.complete = false) : ReceiverSession.onHelloOk setup session =
      session.sendFrame setup (.resumeState session.own.resumeBlocks) := by
  have more : ¬session.own.receiver.complete = true := by
    rw [incomplete]
    exact Bool.false_ne_true
  exact if_neg more

theorem ReceiverAt.receive (honest : setup.Honest) {sender : SenderSession} {heard : List FrameBody}
    (place : ReceiverAt setup resume session delivered said) (spoken : Spoken setup session said)
    (peer : SenderAt setup resume sender returned executed heard)
    (isBody : heard[delivered]? = some body) :
    ∃ more, ReceiverAt setup resume (session.receive setup ⟨setup.transferId, delivered, body⟩)
        (delivered + 1) (said ++ more) ∧
      Spoken setup (session.receive setup ⟨setup.transferId, delivered, body⟩) (said ++ more) := by
  obtain ⟨unsaid, whole⟩ := peer.says_part
  have known : (helloOf setup .sender :: (blockFrames setup resume ++ [.done]))[delivered]? =
      some body := by
    obtain ⟨inside, -⟩ := List.getElem?_eq_some_iff.mp isBody
    rw [← whole, getElem?_append_left inside]
    exact isBody
  cases place with
  | waiting live silent isSeq resumes expects isDelivered isSaid =>
    rw [isDelivered] at known
    obtain rfl : body = helloOf setup .sender := (Option.some.inj known).symm
    rw [ReceiverSession.receive, helloOf,
      onRaw_hello honest live (isSeq.trans isDelivered.symm) silent
        (show RoleName.receiver.peer = .sender from rfl)]
    have greeted : Spoken setup { session with nextSeq := delivered + 1, helloOk := true } said :=
      ⟨spoken.sent, spoken.outSeq, spoken.error⟩
    have first := spoken_sendFrame greeted (.resumeState resume)
    cases isFrames : blockFrames setup resume with
    | nil =>
      rw [isFrames] at expects
      have second := spoken_sendFrame first .done
      rw [onHelloOk_complete { session with nextSeq := delivered + 1, helloOk := true } live
        expects.complete, resumes]
      refine ⟨[.resumeState resume, .done], .dismissed rfl expects.complete isFrames
        (Nat.succ_pos _) ?_, ?_⟩
      · rw [isSaid]
        rfl
      · rw [append_assoc] at second
        exact ⟨second.sent, second.outSeq, second.error⟩
    | cons frame frames =>
      have some : blockFrames setup resume ≠ [] := by
        rw [isFrames]
        exact cons_ne_nil _ _
      have waits := expects
      rw [isFrames] at waits
      rw [onHelloOk_open { session with nextSeq := delivered + 1, helloOk := true }
        waits.not_complete, resumes]
      refine ⟨[.resumeState resume], .receiving [] (blockFrames setup resume) live rfl rfl rfl
        some expects ?_ ?_, first⟩
      · rw [isDelivered]
        rfl
      · rw [isSaid]
        rfl
  | receiving taken rest live greeted isSeq walk some expects isDelivered isSaid =>
    rw [isDelivered, getElem?_cons_succ, walk, append_assoc,
      getElem?_append_right le_rfl, Nat.sub_self] at known
    cases rest with
    | nil =>
      obtain rfl : body = .done := (Option.some.inj known).symm
      rw [append_nil] at walk
      have finishes : ReceiverSession.onFrame setup { session with nextSeq := delivered + 1 }
          .done =
          .ok { session with nextSeq := delivered + 1, done := true } := by
        rw [ReceiverSession.onFrame, if_pos expects.complete, finish,
          if_neg (by rw [live]; exact Bool.false_ne_true)]
      rw [ReceiverSession.receive, onRaw_next live isSeq greeted
        (fun code abort => by cases abort) finishes]
      refine ⟨[], .finished rfl expects.complete some ?_ ?_, ?_⟩
      · rw [isDelivered, walk]
      · rw [isSaid, append_nil, walk]
      · rw [append_nil]
        exact ⟨spoken.sent, spoken.outSeq, spoken.error⟩
    | cons frame rest =>
      obtain rfl : body = frame := (Option.some.inj known).symm
      have further : blockFrames setup resume = (taken ++ [body]) ++ rest := by
        rw [walk, append_assoc]
        rfl
      have counted : delivered + 1 = (taken ++ [body]).length + 1 := by
        rw [isDelivered, length_append, length_singleton]
      cases expects.taken honest with
      | @data fileIndex offset payload next isTaken after =>
        have takes : ReceiverSession.onFrame setup { session with nextSeq := delivered + 1 }
            (.data fileIndex offset payload) = .ok { session with
              nextSeq := delivered + 1
              own := { session.own with receiver := next } } := by
          rw [ReceiverSession.onFrame]
          dsimp only
          rw [isTaken]
        rw [ReceiverSession.receive, onRaw_next live isSeq greeted
          (fun code abort => by cases abort) takes]
        refine ⟨[], .receiving (taken ++ [.data fileIndex offset payload]) rest live greeted rfl
          further some after counted ?_, ?_⟩
        · rw [isSaid, append_nil, acksFor_append]
          exact congrArg _ (congrArg _ (append_nil _).symm)
        · rw [append_nil]
          exact ⟨spoken.sent, spoken.outSeq, spoken.error⟩
      | @blockEnd fileIndex offset payload next outcome length isTaken after =>
        have takes : ReceiverSession.onFrame setup { session with nextSeq := delivered + 1 }
            (.blockEnd fileIndex offset payload) =
            .ok (sendFrame setup { session with
              nextSeq := delivered + 1
              own := { session.own with receiver := next } } (.blockAck fileIndex offset)) := by
          rw [ReceiverSession.onFrame, if_neg (not_not.mpr length)]
          dsimp only
          rw [isTaken]
        have held : Spoken setup { session with
            nextSeq := delivered + 1
            own := { session.own with receiver := next } } said :=
          ⟨spoken.sent, spoken.outSeq, spoken.error⟩
        rw [ReceiverSession.receive, onRaw_next live isSeq greeted
          (fun code abort => by cases abort) takes]
        refine ⟨[.blockAck fileIndex offset],
          .receiving (taken ++ [.blockEnd fileIndex offset payload]) rest live greeted rfl
            further some after counted ?_, spoken_sendFrame held _⟩
        rw [isSaid, acksFor_append]
        rfl
  | finished done complete some isDelivered isSaid =>
    rw [getElem?_eq_none (by
      rw [isDelivered, length_cons, length_append, length_singleton])] at known
    cases known
  | dismissed done complete nothing isDelivered isSaid =>
    rw [ReceiverSession.receive, onRaw_done done]
    refine ⟨[], .dismissed done complete nothing (Nat.succ_pos _) ?_, ?_⟩
    · rw [append_nil]
      exact isSaid
    · rw [append_nil]
      exact spoken

end Steps

/-! ## Both sessions -/

/-- Where both are after so many steps that are not repetitions. -/
def Agrees (setup : LinkSetup) (resume : List Nat) (count : Nat) (exchange : Exchange) : Prop :=
  ∃ executed spoken heard,
    SenderAt setup resume exchange.sender exchange.returned executed spoken ∧
    ReceiverAt setup resume exchange.receiver exchange.delivered heard ∧
    Spoken setup exchange.sender spoken ∧ Spoken setup exchange.receiver heard ∧
    exchange.delivered ≤ spoken.length ∧ exchange.returned ≤ heard.length ∧
    count = executed + exchange.delivered + exchange.returned

section Both

variable {setup : LinkSetup} {resume : List Nat} {count : Nat} {exchange next : Exchange}

variable {session : ReceiverSession}

variable {delivered returned executed : Nat}

theorem ReceiverAt.length_le {heard said : List FrameBody} {sender : SenderSession}
    (place : ReceiverAt setup resume session delivered heard)
    (peer : SenderAt setup resume sender returned executed said)
    (inside : delivered ≤ said.length) :
    heard.length ≤ (endedBlocks (said.drop 1)).length + 2 ∨ blockFrames setup resume = [] := by
  have ⟨unsaid, whole⟩ := peer.says_part
  cases place with
  | waiting _ _ _ _ _ _ isSaid =>
    rw [isSaid, length_singleton]
    exact .inl (by omega)
  | receiving taken rest _ _ _ walk _ _ isDelivered isSaid =>
    have cut : taken <+: said.drop 1 := by
      cases said with
      | nil =>
        rw [length_nil] at inside
        omega
      | cons hello said =>
        rw [cons_append, cons.injEq, walk, append_assoc] at whole
        rw [length_cons] at inside
        rw [drop_one, tail_cons]
        exact prefix_of_prefix_length_le (prefix_append taken (rest ++ [.done]))
          ⟨unsaid, whole.2⟩ (by omega)
    obtain ⟨more, isMore⟩ := cut
    rw [isSaid, length_cons, length_cons, length_acksFor, ← isMore, endedBlocks_append,
      length_append]
    exact .inl (by omega)
  | finished _ _ _ isDelivered isSaid =>
    have all : said = helloOf setup .sender :: (blockFrames setup resume ++ [.done]) := by
      apply List.IsPrefix.eq_of_length_le ⟨unsaid, whole⟩
      rw [length_cons, length_append, length_singleton]
      omega
    rw [isSaid, length_cons, length_cons, length_acksFor, all, drop_one,
      tail_cons, endedBlocks_append, length_append]
    exact .inl (by omega)
  | dismissed _ _ nothing => exact .inr nothing

theorem acked_le_sent {sender : SenderSession} {receiver : ReceiverSession}
    {said heard : List FrameBody} (place : SenderAt setup resume sender returned executed said)
    (peer : ReceiverAt setup resume receiver delivered heard) (inside : delivered ≤ said.length)
    (within : returned ≤ heard.length) (live : sender.done = false) :
    sender.own.ackedBlocks ≤ sender.own.sentBlocks := by
  cases place with
  | waiting _ _ _ own | greeted _ _ _ own => rw [own]
  | sending gone live greeted isSeq isResume walk shaped isAcked isSent window admitted none
        isExecuted
      isSaid =>
      have place : SenderAt setup resume sender returned executed said :=
        .sending gone live greeted isSeq isResume walk shaped isAcked isSent window admitted
          none isExecuted isSaid
      rcases peer.length_le place inside with bound | nothing
      · rw [isSaid, drop_one, tail_cons] at bound
        omega
      · rw [none nothing]
        exact Nat.zero_le _
  | finished done =>
    rw [live] at done
    cases done
  | dismissed done =>
    rw [live] at done
    cases done

theorem agrees_start (setup : LinkSetup) (staged : Nat → Option Octets) (claimedBlocks : List Nat) :
    Agrees setup (TransferReceiver.init setup.sha256 setup.files staged claimedBlocks).blocksDone 0
      (Exchange.start setup staged claimedBlocks) := by
  refine ⟨0, [helloOf setup .sender], [helloOf setup .receiver],
    .waiting rfl rfl rfl rfl rfl rfl rfl,
    .waiting rfl rfl rfl rfl (init_expects setup staged claimedBlocks) rfl rfl, ?_, ?_,
    Nat.zero_le _, Nat.zero_le _, rfl⟩
  · exact ⟨rfl, rfl, rfl⟩
  · exact ⟨rfl, rfl, rfl⟩

theorem pumpStep_live {session next : SenderSession}
    (isNext : pumpStep setup session = some next) : session.done = false := by
  rw [pumpStep] at isNext
  cases isDone : session.done with
  | false => rfl
  | true =>
    rw [isDone, if_pos rfl] at isNext
    cases isNext

theorem agrees_advance (honest : setup.Honest) (counts : TransferReceiver.Counts setup.files resume)
    {progress : Exchange.Progress} (agrees : Agrees setup resume count exchange)
    (isNext : exchange.advance setup progress = some next) :
    Agrees setup resume (count + 1) next := by
  obtain ⟨executed, said, heard, sender, receiver, senderSpoken, receiverSpoken, inside, within,
    same⟩ :=
    agrees
  cases progress with
  | pump =>
    rw [Exchange.advance, Option.map_eq_some_iff] at isNext
    obtain ⟨session, stepped, rfl⟩ := isNext
    have bounded := acked_le_sent sender receiver inside within (pumpStep_live stepped)
    obtain ⟨more, after, spoken⟩ := sender.pump senderSpoken bounded stepped
    refine ⟨executed + 1, said ++ more, heard, after, receiver, spoken, receiverSpoken, ?_, within,
      ?_⟩
    · rw [length_append]
      exact Nat.le_add_right_of_le inside
    · dsimp only
      omega
  | toReceiver =>
    rw [Exchange.advance, Option.map_eq_some_iff] at isNext
    obtain ⟨frame, isFrame, rfl⟩ := isNext
    obtain ⟨body, isBody, rfl⟩ := frame_of_spoken senderSpoken isFrame
    obtain ⟨more, after, spoken⟩ := receiver.receive honest receiverSpoken sender isBody
    have listed := (List.getElem?_eq_some_iff.mp isBody).1
    refine ⟨executed, said, heard ++ more, sender, after, senderSpoken, spoken, listed, ?_, ?_⟩
    · rw [length_append]
      exact Nat.le_add_right_of_le within
    · dsimp only
      omega
  | toSender =>
    rw [Exchange.advance, Option.map_eq_some_iff] at isNext
    obtain ⟨frame, isFrame, rfl⟩ := isNext
    obtain ⟨body, isBody, rfl⟩ := frame_of_spoken receiverSpoken isFrame
    obtain ⟨after, spoken⟩ := sender.receive honest counts senderSpoken receiver isBody
    have listed := (List.getElem?_eq_some_iff.mp isBody).1
    refine ⟨executed, said, heard, after, receiver, spoken, receiverSpoken, inside, listed, ?_⟩
    dsimp only
    omega

variable {said : List FrameBody}

theorem SenderAt.repeated {session : SenderSession} {returned executed index : Nat}
    (place : SenderAt setup resume session returned executed said) (earlier : index < returned)
    (body : FrameBody) : session.receive setup ⟨setup.transferId, index, body⟩ = session := by
  cases place with
  | waiting _ _ _ _ isReturned => omega
  | greeted _ _ isSeq _ isReturned | sending _ _ _ isSeq => exact onRaw_earlier (by omega)
  | finished done | dismissed done => exact onRaw_done done _

theorem ReceiverAt.repeated {delivered index : Nat}
    (place : ReceiverAt setup resume session delivered said) (earlier : index < delivered)
    (body : FrameBody) : session.receive setup ⟨setup.transferId, index, body⟩ = session := by
  cases place with
  | waiting _ _ _ _ _ isDelivered => omega
  | receiving _ _ _ _ isSeq => exact onRaw_earlier (by omega)
  | finished done | dismissed done => exact onRaw_done done _

theorem agrees_repeated (agrees : Agrees setup resume count exchange)
    (isRepeated : Exchange.Repeated setup exchange next) : next = exchange := by
  obtain ⟨executed, said, heard, sender, receiver, senderSpoken, receiverSpoken, -⟩ := agrees
  cases isRepeated with
  | toReceiver earlier isFrame =>
    obtain ⟨body, -, rfl⟩ := frame_of_spoken senderSpoken isFrame
    rw [receiver.repeated earlier body]
  | toSender earlier isFrame =>
    obtain ⟨body, -, rfl⟩ := frame_of_spoken receiverSpoken isFrame
    rw [sender.repeated earlier body]

theorem agrees_run (honest : setup.Honest) {staged : Nat → Option Octets} {claimedBlocks : List Nat}
    (run : Exchange.Run setup staged claimedBlocks count exchange) :
    Agrees setup (TransferReceiver.init setup.sha256 setup.files staged claimedBlocks).blocksDone
      count
      exchange := by
  induction run with
  | start => exact agrees_start ..
  | progress run isNext induction =>
    exact agrees_advance honest TransferReceiver.init_counts induction isNext
  | repeated run isRepeated induction =>
    rw [agrees_repeated induction isRepeated]
    exact induction

/-! ## What follows -/

def missingBlocks (files : List ContentFile) (resume : List Nat) : List (Nat × Nat) :=
  (List.range files.length).flatMap fun index =>
    let first := resume[index]?.getD 0
    let size := (files[index]?.map (·.size)).getD 0
    (List.range' first (blockCount size - first)).map fun block => (index, block * blockBytes)

def acknowledged (session : ReceiverSession) : List (Nat × Nat) :=
  session.sent.filterMap fun frame => frame.body.acked

theorem endedBlocks_flatMap {Item : Type} (items : List Item) (actions : Item → List PumpAction) :
    endedBlocks (framesOf (items.flatMap actions)) =
      items.flatMap fun item => endedBlocks (framesOf (actions item)) := by
  induction items with
  | nil => rfl
  | cons item items induction =>
    rw [flatMap_cons, flatMap_cons, framesOf_append, endedBlocks_append, induction]

theorem endedBlocks_blockRest {fileIndex : Nat} {file : ContentFile} {block left fill : Nat} :
    endedBlocks (blockRest setup fileIndex file block left fill) =
      [(fileIndex, block * blockBytes)] := by
  have pieces : ∀ pieces : List (Nat × Nat),
      endedBlocks (pieces.map (pieceFrame setup fileIndex)) = [] := by
    intro pieces
    induction pieces with
    | nil => rfl
    | cons piece pieces induction => exact induction
  rw [blockRest, endedBlocks_append, pieces]
  rfl

theorem endedBlocks_blockFrames (setup : LinkSetup) (resume : List Nat) :
    endedBlocks (blockFrames setup resume) = missingBlocks setup.files resume := by
  rw [blockFrames, pumpFiles, endedBlocks_flatMap, missingBlocks, range_eq_range', Nat.sub_zero]
  apply flatMap_congr
  intro index member
  rw [mem_range'_1] at member
  obtain ⟨file, isFile⟩ : ∃ file, setup.files[index]? = some file :=
    ⟨_, getElem?_eq_getElem (by omega)⟩
  rw [framesOf_pumpFile isFile, laterBlocks, endedBlocks_flatMap, isFile, map_eq_flatMap]
  apply flatMap_congr
  intro block listed
  rw [mem_range'_1] at listed
  rw [framesOf_pumpBlock (by omega), endedBlocks_blockRest]

theorem missingBlocks_nodup (files : List ContentFile) (resume : List Nat) :
    (missingBlocks files resume).Nodup := by
  have positive := blockBytes_pos
  rw [missingBlocks, nodup_flatMap]
  constructor
  · intro index _
    apply List.Nodup.map _ nodup_range'
    intro left right same
    exact Nat.eq_of_mul_eq_mul_right positive (Prod.mk.inj same).2
  apply List.Pairwise.imp _ nodup_range
  intro left right different block inLeft inRight
  obtain ⟨_, -, rfl⟩ := mem_map.mp inLeft
  obtain ⟨_, -, same⟩ := mem_map.mp inRight
  exact different (Prod.mk.inj same).1.symm

theorem acknowledged_eq (spoken : Spoken setup session said) :
    acknowledged session = said.filterMap FrameBody.acked := by
  have bodies : (numbered setup said).map (·.body) = said := by
    apply ext_getElem?
    intro index
    rw [numbered, getElem?_map, getElem?_mapIdx, Option.map_map]
    exact congrFun Option.map_id _
  rw [acknowledged, spoken.sent]
  conv => rhs; rw [← bodies]
  rw [filterMap_map]
  rfl

theorem ReceiverAt.acknowledges {delivered : Nat}
    (place : ReceiverAt setup resume session delivered said) :
    said.filterMap FrameBody.acked <+: missingBlocks setup.files resume := by
  rw [← endedBlocks_blockFrames]
  cases place with
  | waiting _ _ _ _ _ _ isSaid | dismissed _ _ _ _ isSaid =>
    rw [isSaid]
    exact nil_prefix
  | receiving taken rest _ _ _ walk _ _ _ isSaid =>
    rw [isSaid, walk, endedBlocks_append]
    exact ⟨endedBlocks rest, congrArg (· ++ endedBlocks rest) (acked_acksFor taken)⟩
  | finished _ _ _ _ isSaid =>
    rw [isSaid]
    exact ⟨[], (append_nil _).trans (acked_acksFor _)⟩

theorem SenderAt.window {session : SenderSession} {returned executed : Nat}
    (place : SenderAt setup resume session returned executed said) :
    session.own.sentBlocks ≤ session.own.ackedBlocks + windowBlocks := by
  cases place with
  | waiting _ _ _ own | greeted _ _ _ own =>
    rw [own]
    exact Nat.zero_le _
  | sending _ _ _ _ _ _ _ _ _ window => exact window
  | finished _ isAcked =>
    rw [isAcked]
    exact Nat.le_add_right ..
  | dismissed _ _ _ isSent =>
    rw [isSent]
    exact Nat.zero_le _

theorem SenderAt.executed_le {session : SenderSession} {returned executed : Nat}
    (place : SenderAt setup resume session returned executed said) :
    executed ≤ (TransferLink.pump setup resume).length := by
  cases place with
  | waiting _ _ _ _ _ isExecuted | greeted _ _ _ _ _ isExecuted => exact isExecuted ▸ Nat.zero_le _
  | sending gone _ _ _ _ walk _ _ _ _ _ _ isExecuted =>
    rw [isExecuted, walk, length_append]
    exact Nat.le_add_right ..
  | finished _ _ _ isExecuted => exact isExecuted.le
  | dismissed _ _ _ _ isExecuted => exact isExecuted

theorem ReceiverAt.heard_le {delivered : Nat}
    (place : ReceiverAt setup resume session delivered said) :
    said.length ≤ (missingBlocks setup.files resume).length + 3 := by
  rw [← endedBlocks_blockFrames]
  cases place with
  | waiting _ _ _ _ _ _ isSaid =>
    rw [isSaid, length_singleton]
    omega
  | receiving taken rest _ _ _ walk _ _ _ isSaid =>
    rw [isSaid, length_cons, length_cons, length_acksFor, walk, endedBlocks_append, length_append]
    omega
  | finished _ _ _ _ isSaid =>
    rw [isSaid, length_cons, length_cons, length_acksFor]
    omega
  | dismissed _ _ _ _ isSaid =>
    rw [isSaid]
    exact Nat.le_add_left ..

end Both

end Adhdev.TransferLink
