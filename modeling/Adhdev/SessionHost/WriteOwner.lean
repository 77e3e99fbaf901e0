import Adhdev.SessionHost.InputStamps

/-! # The write owner

Who owns the writing of a session keeps it until it gives it up or the writing is taken.
-/

namespace Adhdev.SessionHost

open List Option Bool KeyedMap

variable {Details Termination : Type}

/-- Does the operation end the ownership of the client, or can it? A daemon that attaches
replaces the other daemons that are attached. -/
def Operation.mayEnd (sessionId clientId : String) : Operation Details Termination → Bool
  | .restore record => record.sessionId = sessionId
  | .attach payload _ | .attachIfIncarnation payload _ _ => payload.sessionId = sessionId &&
      payload.clientType = .daemon && payload.clientId ≠ clientId
  | .detach session client _ | .releaseWrite session client _ =>
    session = sessionId && client = clientId
  | .acquireWrite session client _ force _ => session = sessionId && force && client ≠ clientId
  | .delete session => session = sessionId
  | .restart _ => true
  | _ => false

namespace SessionHostRegistry

variable {registry later : SessionHostRegistry Details Termination}
variable {record changed : SessionHostRecord Details Termination} {sessionId clientId : String}

def WrittenBy (registry : SessionHostRegistry Details Termination) (sessionId clientId : String) :
    Prop :=
  ∃ record, registry.find sessionId = some record ∧
    record.writeOwner.map (·.clientId) = some clientId

theorem find_store (wanted : String) : (registry.store record).find wanted =
    if record.sessionId = wanted then some record else registry.find wanted :=
  lookup_insertEntry (fun _ _ => Iff.rfl) wanted

theorem find_storeMinted (wanted : String) : (registry.storeMinted record).find wanted =
    if record.sessionId = wanted then some { record with inputEpoch := some registry.nextEpoch }
    else registry.find wanted :=
  lookup_insertEntry (fun _ _ => Iff.rfl) wanted

/-- A write of one session's record, with or without a new epoch. -/
theorem WrittenBy.stored (written : registry.WrittenBy sessionId clientId)
    (isLater : later = registry.store record ∨ later = registry.storeMinted record)
    (keeps : record.sessionId = sessionId →
      record.writeOwner.map (·.clientId) = some clientId) :
    later.WrittenBy sessionId clientId := by
  obtain ⟨before, found, owns⟩ := written
  by_cases same : record.sessionId = sessionId
  · rcases isLater with rfl | rfl
    · exact ⟨record, by rw [find_store, if_pos same], keeps same⟩
    · exact ⟨{ record with inputEpoch := some registry.nextEpoch },
        by rw [find_storeMinted, if_pos same], keeps same⟩
  rcases isLater with rfl | rfl
  · exact ⟨before, by rw [find_store, if_neg same, found], owns⟩
  · exact ⟨before, by rw [find_storeMinted, if_neg same, found], owns⟩

theorem WrittenBy.updated (written : registry.WrittenBy sessionId clientId) {wanted : String}
    {change : SessionHostRecord Details Termination → SessionHostRecord Details Termination}
    (performed : registry.update wanted change = .ok later)
    (named : ∀ record, (change record).sessionId = record.sessionId)
    (keeps : wanted = sessionId → ∀ record, record.writeOwner.map (·.clientId) = some clientId →
      (change record).writeOwner.map (·.clientId) = some clientId) :
    later.WrittenBy sessionId clientId := by
  rw [update] at performed
  cases required : registry.requireSession wanted with
  | error fault =>
    rw [required] at performed
    cases performed
  | ok record =>
    rw [required] at performed
    obtain rfl := Except.ok.inj performed
    have found := requireSession_ok required
    refine written.stored (.inl rfl) fun same => ?_
    have isWanted : wanted = sessionId := by
      rw [← same, named, (find_some found).2]
    obtain ⟨before, isBefore, owns⟩ := written
    rw [← isWanted, found] at isBefore
    cases isBefore
    exact keeps isWanted record owns

theorem WrittenBy.storedWithEpoch (written : registry.WrittenBy sessionId clientId)
    (found : registry.find record.sessionId = some record) {inputSeq : Option Int} :
    (registry.storeWithEpoch { record with inputSeq }).WrittenBy sessionId clientId := by
  have keeps (same : record.sessionId = sessionId) :
      record.writeOwner.map (·.clientId) = some clientId := by
    obtain ⟨before, isBefore, owns⟩ := written
    rw [← same, found] at isBefore
    cases isBefore
    exact owns
  rw [storeWithEpoch]
  split
  · exact written.stored (.inl rfl) keeps
  · exact written.stored (.inr rfl) keeps

theorem attachClient_keeps {payload : AttachSessionPayload} {now : Int}
    (stays : payload.clientType = .daemon → payload.clientId = clientId)
    (owns : record.writeOwner.map (·.clientId) = some clientId) :
    (record.attachClient payload now).writeOwner.map (·.clientId) = some clientId := by
  obtain ⟨owner, isOwner, rfl⟩ := map_eq_some_iff.mp owns
  have stays' : ¬ ((record.attachedClients.filter fun client =>
      payload.clientType = .daemon && client.type = .daemon &&
        client.clientId ≠ payload.clientId).any (·.clientId = owner.clientId)) = true := by
    rw [List.any_eq_true]
    rintro ⟨client, member, same⟩
    simp only [mem_filter, and_eq_true, decide_eq_true_eq] at member same
    exact member.2.2 (same.trans (stays member.2.1.1).symm)
  rw [SessionHostRecord.attachClient]
  dsimp only
  rw [isOwner, any_some, if_neg stays', map_some]

theorem writtenBy_attachClient {payload : AttachSessionPayload} {now : Int}
    (written : registry.WrittenBy sessionId clientId)
    (goesOn : (payload.sessionId = sessionId && payload.clientType = .daemon &&
      payload.clientId ≠ clientId) = false)
    (attached : registry.attachClient payload now = .ok later) :
    later.WrittenBy sessionId clientId := by
  refine written.updated attached (fun _ => rfl) fun same record => attachClient_keeps ?_
  intro isDaemon
  simpa [same, isDaemon] using goesOn

section Runs

variable (buildRuntimeKey : Details → List String → String)

theorem writtenBy_perform (written : registry.WrittenBy sessionId clientId)
    {operation : Operation Details Termination}
    (goesOn : operation.mayEnd sessionId clientId = false)
    (performed : registry.perform buildRuntimeKey operation = .ok later) :
    later.WrittenBy sessionId clientId := by
  cases operation with
  | create payload generatedId now =>
    rw [perform, createSession] at performed
    split_ifs at performed with known
    obtain rfl := Except.ok.inj performed
    refine written.stored (.inr rfl) fun same => ?_
    obtain ⟨before, found, -⟩ := written
    rw [show (payload.sessionId.filter (· ≠ "")).getD generatedId = sessionId from same,
      found] at known
    exact absurd rfl known
  | restore record =>
    have other : record.sessionId ≠ sessionId := of_decide_eq_false goesOn
    obtain rfl := Except.ok.inj performed
    rw [restoreSession]
    split
    · exact written.stored (.inl rfl) fun same => absurd same other
    · exact written.stored (.inr rfl) fun same => absurd same other
  | attach payload now => exact writtenBy_attachClient written goesOn performed
  | attachIfIncarnation payload expected now =>
    rw [perform, attachClientIfIncarnation] at performed
    cases required : registry.requireSession payload.sessionId with
    | error fault =>
      rw [required] at performed
      cases performed
    | ok record =>
      rw [required] at performed
      dsimp only [bind, Except.bind] at performed
      split at performed
      · exact writtenBy_attachClient written goesOn performed
      · cases performed
  | detach session client now | releaseWrite session client now =>
    refine written.updated performed (fun _ => rfl) fun same record owns => ?_
    obtain ⟨owner, isOwner, rfl⟩ := map_eq_some_iff.mp owns
    have other : ¬ owner.clientId = client := by
      simp only [Operation.mayEnd, and_eq_false_iff, decide_eq_false_iff_not] at goesOn
      exact fun same' => goesOn.elim (absurd same) (absurd same'.symm)
    simp [SessionHostRecord.detachClient, SessionHostRecord.releaseWrite, isOwner, other]
  | changeDetails session change now | markStarted session pid now
  | setLifecycle session lifecycle now | stop session lifecycle termination now =>
    exact written.updated performed (fun _ => rfl) fun _ _ => id
  | input session | inputState session =>
    cases required : registry.requireSession session with
    | error fault =>
      simp only [perform, recordInput, getInputState, required] at performed
      cases performed
    | ok record =>
      simp only [perform, recordInput, getInputState, required] at performed
      obtain rfl := Except.ok.inj performed
      have found := requireSession_ok required
      exact written.storedWithEpoch ((find_some found).2 ▸ found)
  | acquireWrite session client ownerType force now =>
    rw [perform, acquireWrite] at performed
    cases required : registry.requireSession session with
    | error fault =>
      rw [required] at performed
      cases performed
    | ok record =>
      rw [required] at performed
      dsimp only [bind, Except.bind] at performed
      split at performed
      · cases performed
      rename_i free
      obtain rfl := Except.ok.inj performed
      refine written.stored (.inl rfl) fun same => ?_
      have found := requireSession_ok required
      obtain rfl : session = sessionId := (find_some found).2.symm.trans same
      obtain ⟨before, isBefore, owns⟩ := written
      obtain rfl := mem_unique found isBefore
      obtain ⟨owner, isOwner, rfl⟩ := map_eq_some_iff.mp owns
      by_cases own : client = owner.clientId
      · rw [own, map_some]
      · have unforced : force = false := by simpa [Operation.mayEnd, own] using goesOn
        simp [isOwner, unforced, Ne.symm own] at free
  | delete session =>
    have other : ¬ session = sessionId := of_decide_eq_false goesOn
    obtain rfl := Except.ok.inj performed
    obtain ⟨before, found, owns⟩ := written
    refine ⟨before, ?_, owns⟩
    have filtered := @lookup_filter (SessionHostRecord Details Termination) _ _
      SessionHostRecord.sessionId registry.sessions.entries (· ≠ session) sessionId
    exact filtered.trans ((if_pos (decide_eq_true (Ne.symm other))).trans found)
  | restart lifetimeId => cases goesOn

/-- In every state of a run that neither takes the writing nor lets the owner go. -/
theorem owner_keeps_writing {operations : List (Operation Details Termination)}
    (goesOn : ∀ operation ∈ operations, operation.mayEnd sessionId clientId = false)
    (written : registry.WrittenBy sessionId clientId) :
    ∀ state ∈ registry.states buildRuntimeKey operations, state.WrittenBy sessionId clientId := by
  induction operations generalizing registry with
  | nil =>
    intro state member
    rwa [mem_singleton.mp member]
  | cons operation operations induction =>
    obtain ⟨first, rest⟩ := forall_mem_cons.mp goesOn
    rw [states, forall_mem_cons]
    refine ⟨written, induction rest ?_⟩
    rw [after]
    cases performed : registry.perform buildRuntimeKey operation with
    | error fault => exact written
    | ok later => exact writtenBy_perform buildRuntimeKey written first performed

def ownedByAgent : SessionHostRegistry Unit Unit :=
  ((start "l").after (fun _ _ => "k") (.create ⟨some "s", some "agent", none, ()⟩ "" 1)).after
    (fun _ _ => "k") (.acquireWrite "s" "agent" .agent false 2)

theorem owner_keeps_writing_unforced : ownedByAgent.WrittenBy "s" "agent" ∧
    ∀ state ∈ ownedByAgent.states (fun _ _ => "k")
      [.acquireWrite "s" "user" .user false 3, .input "s", .detach "s" "user" 4],
    state.WrittenBy "s" "agent" :=
  ⟨⟨_, rfl, rfl⟩, owner_keeps_writing (fun _ _ => "k") (by decide) ⟨_, rfl, rfl⟩⟩

end Runs

end SessionHostRegistry

end Adhdev.SessionHost
