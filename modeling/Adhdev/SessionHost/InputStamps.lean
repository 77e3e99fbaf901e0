import Adhdev.SessionHost.Registry

/-! # Input stamps

No two accepted inputs of a session have one epoch and one number.
-/

namespace Adhdev.SessionHost

open List Option Bool KeyedMap

variable {Details Termination : Type}

/-! ## Epochs -/

theorem colon_not_mem_toString (number : Nat) : ':' ∉ (toString number).toList := by
  intro member
  rw [Nat.toString_eq_repr, Nat.toList_repr] at member
  have digit := Nat.isDigit_of_mem_toDigits (by decide) (by decide) member
  exact absurd digit (by decide)

theorem append_mark_inj {mark : Char} {before other after rest : List Char}
    (notAfter : mark ∉ after)
    (notRest : mark ∉ rest) (same : before ++ mark :: after = other ++ mark :: rest) :
    before = other ∧ after = rest := by
  rcases append_eq_append_iff.mp same with ⟨middle, shape, tail⟩ | ⟨middle, shape, tail⟩
  · cases middle with
    | nil =>
      rw [append_nil] at shape
      exact ⟨shape.symm, (cons.inj tail).2⟩
    | cons head middle =>
      rw [cons_append] at tail
      refine absurd ?_ notAfter
      rw [(cons.inj tail).2]
      exact mem_append_right _ (.head _)
  cases middle with
  | nil =>
    rw [append_nil] at shape
    exact ⟨shape, (cons.inj tail).2.symm⟩
  | cons head middle =>
    rw [cons_append] at tail
    refine absurd ?_ notRest
    rw [(cons.inj tail).2]
    exact mem_append_right _ (.head _)

namespace SessionHostRegistry

theorem epochOf_inj {lifetime other : String} {counter next : Nat}
    (same : epochOf lifetime counter = epochOf other next) : lifetime = other ∧ counter = next := by
  have characters := congrArg String.toList same
  simp only [epochOf, String.toList_append] at characters
  have marked : lifetime.toList ++ ':' :: (toString counter).toList =
      other.toList ++ ':' :: (toString next).toList := by
    simpa using characters
  obtain ⟨sameLifetime, sameDigits⟩ := append_mark_inj (colon_not_mem_toString counter)
    (colon_not_mem_toString next) marked
  exact ⟨String.toList_inj.mp sameLifetime, Nat.repr_inj.mp (String.toList_inj.mp sameDigits)⟩

/-! ## What an operation can do -/

def Holds (registry : SessionHostRegistry Details Termination) (stamp : InputStamp) : Prop :=
  ∃ record ∈ registry.sessions, record.stamp? = some stamp

/-- Every record has a number and an epoch. -/
def Complete (registry : SessionHostRegistry Details Termination) : Prop :=
  ∀ record ∈ registry.sessions, ∃ stamp, record.stamp? = some stamp

end SessionHostRegistry

def SameCounter (one two : InputStamp) : Prop :=
  one.sessionId = two.sessionId ∧ one.inputEpoch = two.inputEpoch

variable {record : SessionHostRecord Details Termination} {stamp : InputStamp}

theorem stamp?_eq_some : record.stamp? = some stamp ↔
      record.sessionId = stamp.sessionId ∧ record.inputEpoch = some stamp.inputEpoch ∧
        record.inputSeq = some stamp.inputSeq := by
  obtain ⟨sessionId, inputEpoch, inputSeq⟩ := stamp
  rw [SessionHostRecord.stamp?]
  cases record.inputEpoch with
  | none => simp
  | some epoch =>
    cases record.inputSeq with
    | none => simp
    | some seq => simp

namespace SessionHostRegistry

variable {registry after : SessionHostRegistry Details Termination}

theorem holds_unique {one two : InputStamp} (holdsOne : registry.Holds one)
    (holdsTwo : registry.Holds two) (same : one.sessionId = two.sessionId) : one = two := by
  obtain ⟨record, member, stamped⟩ := holdsOne
  obtain ⟨other, otherMember, otherStamped⟩ := holdsTwo
  have sameId : record.sessionId = other.sessionId := by
    rw [(stamp?_eq_some.mp stamped).1, (stamp?_eq_some.mp otherStamped).1, same]
  rw [eq_of_key member otherMember sameId, otherStamped] at stamped
  exact (some.inj stamped).symm

/-- A counter goes on from where it was, or counts in an epoch that has just been minted. -/
structure Grows (registry after : SessionHostRegistry Details Termination) : Prop where
  lifetime : after.lifetimeId = registry.lifetimeId
  counter : registry.epochCounter ≤ after.epochCounter
  complete : after.Complete
  held : ∀ stamp, after.Holds stamp →
    (∃ earlier, registry.Holds earlier ∧ SameCounter earlier stamp ∧
      earlier.inputSeq ≤ stamp.inputSeq) ∨
    ∃ counter, registry.epochCounter < counter ∧ counter ≤ after.epochCounter ∧
      stamp.inputEpoch = epochOf registry.lifetimeId counter

theorem Grows.same (complete : registry.Complete) : Grows registry registry where
  lifetime := rfl
  counter := le_refl _
  complete := complete
  held := fun stamp holds => .inl ⟨stamp, holds, ⟨rfl, rfl⟩, le_refl _⟩

variable {sessionId : String}

theorem find_some (found : registry.find sessionId = some record) :
    record ∈ registry.sessions ∧ record.sessionId = sessionId :=
  ⟨mem_of_lookup found, label_of_lookup found⟩

theorem requireSession_ok (required : registry.requireSession sessionId = .ok record) :
    registry.find sessionId = some record := by
  rw [requireSession] at required
  cases found : registry.find sessionId with
  | none =>
    rw [found] at required
    cases required
  | some found' =>
    rw [found] at required
    exact congrArg some (Except.ok.inj required)

section

variable (complete : registry.Complete)
include complete

theorem grows_store {stamp earlier : InputStamp} (stamped : record.stamp? = some stamp)
    (holds : registry.Holds earlier) (same : SameCounter earlier stamp)
    (ordered : earlier.inputSeq ≤ stamp.inputSeq) : Grows registry (registry.store record) where
  lifetime := rfl
  counter := le_refl _
  complete := by
    intro other member
    rcases mem_set.mp member with rfl | ⟨old, -⟩
    · exact ⟨stamp, stamped⟩
    · exact complete other old
  held := by
    rintro held ⟨other, member, otherStamped⟩
    rcases mem_set.mp member with rfl | ⟨old, -⟩
    · rw [stamped] at otherStamped
      obtain rfl := some.inj otherStamped
      exact .inl ⟨earlier, holds, same, ordered⟩
    · exact .inl ⟨held, ⟨other, old, otherStamped⟩, ⟨rfl, rfl⟩, le_refl _⟩

theorem grows_storeMinted {inputSeq : Int} (counted : record.inputSeq = some inputSeq) : Grows
    registry (registry.storeMinted record) where
  lifetime := rfl
  counter := Nat.le_succ _
  complete := by
    intro other member
    rcases mem_set.mp member with rfl | ⟨old, -⟩
    · exact ⟨⟨record.sessionId, registry.nextEpoch, inputSeq⟩,
        stamp?_eq_some.mpr ⟨rfl, rfl, counted⟩⟩
    · exact complete other old
  held := by
    rintro held ⟨other, member, otherStamped⟩
    rcases mem_set.mp member with rfl | ⟨old, -⟩
    · have epoch := (stamp?_eq_some.mp otherStamped).2.1
      exact .inr ⟨registry.epochCounter + 1, Nat.lt_succ_self _, le_refl _, (some.inj epoch).symm⟩
    · exact .inl ⟨held, ⟨other, old, otherStamped⟩, ⟨rfl, rfl⟩, le_refl _⟩

theorem grows_deleteSession (sessionId : String) : Grows registry
    (registry.deleteSession sessionId) where
  lifetime := rfl
  counter := le_refl _
  complete := fun record member => complete record (mem_keepWhere.mp member).1
  held := by
    rintro held ⟨record, member, stamped⟩
    exact .inl ⟨held, ⟨record, (mem_keepWhere.mp member).1, stamped⟩, ⟨rfl, rfl⟩, le_refl _⟩

theorem grows_update {change : SessionHostRecord Details Termination → SessionHostRecord Details
      Termination} (updated : registry.update sessionId change = .ok after) (keeps : ∀ record,
      (change record).stamp? = record.stamp?) : Grows registry after := by
  rw [update] at updated
  cases required : registry.requireSession sessionId with
  | error error =>
    rw [required] at updated
    cases updated
  | ok record =>
    rw [required] at updated
    obtain rfl := Except.ok.inj updated
    have member := (find_some (requireSession_ok required)).1
    obtain ⟨stamp, stamped⟩ := complete record member
    exact grows_store complete ((keeps record).trans stamped) ⟨record, member, stamped⟩ ⟨rfl, rfl⟩
      le_rfl

theorem grows_restoreSession (record : SessionHostRecord Details Termination) : Grows registry
    (registry.restoreSession record) := by
  rw [restoreSession]
  split
  · rename_i same
    rw [sameLifetime] at same
    cases found : registry.find record.sessionId with
    | none =>
      rw [found] at same
      cases same
    | some live =>
      rw [found] at same
      dsimp only at same
      rw [and_eq_true, and_eq_true, decide_eq_true_eq, decide_eq_true_eq] at same
      obtain ⟨⟨-, sameEpoch⟩, ordered⟩ := same
      obtain ⟨member, sameId⟩ := find_some found
      obtain ⟨earlier, stamped⟩ := complete live member
      obtain ⟨earlierId, earlierEpoch, earlierSeq⟩ := stamp?_eq_some.mp stamped
      rw [earlierSeq, getD_some] at ordered
      have restored : ({ record with inputSeq := some (record.inputSeq.getD 0) } :
          SessionHostRecord Details Termination).stamp? =
            some ⟨record.sessionId, earlier.inputEpoch, record.inputSeq.getD 0⟩ :=
        stamp?_eq_some.mpr ⟨rfl, sameEpoch.trans earlierEpoch, rfl⟩
      exact grows_store complete restored ⟨live, member, stamped⟩
        ⟨earlierId.symm.trans sameId, rfl⟩ ordered
  · exact grows_storeMinted complete rfl

theorem grows_storeWithEpoch (member : record ∈ registry.sessions) {earlier : InputStamp}
    (stamped : record.stamp? = some earlier) {inputSeq : Int}
    (ordered : earlier.inputSeq ≤ inputSeq) : Grows registry
    (registry.storeWithEpoch { record with inputSeq := some inputSeq }) := by
  obtain ⟨sameId, sameEpoch, -⟩ := stamp?_eq_some.mp stamped
  have hasEpoch : record.inputEpoch.isSome = true := by
    rw [sameEpoch]
    rfl
  have counted : ({ record with inputSeq := some inputSeq } :
      SessionHostRecord Details Termination).stamp? =
        some ⟨record.sessionId, earlier.inputEpoch, inputSeq⟩ :=
    stamp?_eq_some.mpr ⟨rfl, sameEpoch, rfl⟩
  rw [storeWithEpoch, if_pos hasEpoch]
  exact grows_store complete counted ⟨record, member, stamped⟩ ⟨sameId.symm, rfl⟩ ordered

theorem grows_acquireWrite {sessionId clientId : String} {ownerType : SessionOwnerType}
    {force : Bool} {now : Int} (acquired : registry.acquireWrite sessionId clientId ownerType force
      now = .ok after) : Grows registry after := by
  rw [acquireWrite] at acquired
  cases required : registry.requireSession sessionId with
  | error error =>
    rw [required] at acquired
    cases acquired
  | ok record =>
    rw [required] at acquired
    dsimp only [bind, Except.bind] at acquired
    split at acquired
    · cases acquired
    obtain rfl := Except.ok.inj acquired
    have member := (find_some (requireSession_ok required)).1
    obtain ⟨stamp, stamped⟩ := complete record member
    exact grows_store complete stamped ⟨record, member, stamped⟩ ⟨rfl, rfl⟩ le_rfl

theorem grows_attachClientIfIncarnation {payload : AttachSessionPayload}
    {expected : Option ExpectedIncarnation} {now : Int}
    (attached : registry.attachClientIfIncarnation payload expected now = .ok after) :
    Grows registry after := by
  rw [attachClientIfIncarnation] at attached
  cases required : registry.requireSession payload.sessionId with
  | error error =>
    rw [required] at attached
    cases attached
  | ok record =>
    rw [required] at attached
    dsimp only [bind, Except.bind] at attached
    split at attached
    · exact grows_update complete attached fun _ => rfl
    · cases attached

theorem recordInput_ok (recorded : registry.recordInput sessionId = .ok after) : Grows registry
    after ∧ ∃ earlier, registry.Holds earlier ∧ earlier.sessionId = sessionId ∧ after.Holds
    { earlier with inputSeq := earlier.inputSeq + 1 } ∧ (after.find sessionId).bind
    SessionHostRecord.stamp? = some { earlier with inputSeq := earlier.inputSeq + 1 } := by
  rw [recordInput] at recorded
  cases required : registry.requireSession sessionId with
  | error error =>
    rw [required] at recorded
    cases recorded
  | ok record =>
    rw [required] at recorded
    obtain ⟨member, isId⟩ := find_some (requireSession_ok required)
    obtain ⟨earlier, stamped⟩ := complete record member
    obtain ⟨sameId, sameEpoch, sameSeq⟩ := stamp?_eq_some.mp stamped
    obtain rfl := Except.ok.inj recorded
    rw [sameSeq, getD_some]
    have hasEpoch : record.inputEpoch.isSome = true := by
      rw [sameEpoch]
      rfl
    have counted : ({ record with inputSeq := some (earlier.inputSeq + 1) } :
        SessionHostRecord Details Termination).stamp? =
          some { earlier with inputSeq := earlier.inputSeq + 1 } :=
      stamp?_eq_some.mpr ⟨sameId, sameEpoch, rfl⟩
    refine ⟨grows_storeWithEpoch complete member stamped (by omega), earlier,
      ⟨record, member, stamped⟩, sameId.symm.trans isId, ?_, ?_⟩
    · rw [storeWithEpoch, if_pos hasEpoch]
      exact ⟨_, mem_set.mpr (.inl rfl), counted⟩
    · rw [storeWithEpoch, if_pos hasEpoch, find, store]
      dsimp only [KeyedMap.set]
      rw [KeyedMap.lookup_insertEntry (fun _ _ => Iff.rfl), if_pos isId, bind_some, counted]

end

section Perform

variable (buildRuntimeKey : Details → List String → String)

variable {operation : Operation Details Termination}

theorem perform_grows (complete : registry.Complete) (stays : lifetimes [operation] = [])
    (performed : registry.perform buildRuntimeKey operation = .ok after) :
    Grows registry after := by
  cases operation with
  | create payload generatedId now =>
    rw [perform, createSession] at performed
    split at performed
    · cases performed
    · obtain rfl := Except.ok.inj performed
      exact grows_storeMinted complete rfl
  | restore record =>
    obtain rfl := Except.ok.inj performed
    exact grows_restoreSession complete record
  | attach payload now | detach sessionId clientId now | releaseWrite sessionId clientId now
  | changeDetails sessionId change now | markStarted sessionId pid now
  | setLifecycle sessionId lifecycle now | stop sessionId lifecycle termination now =>
        exact grows_update complete performed fun _ => rfl
  | attachIfIncarnation payload expected now =>
    exact grows_attachClientIfIncarnation complete performed
  | input sessionId => exact (recordInput_ok complete performed).1
  | inputState sessionId =>
    rw [perform, getInputState] at performed
    cases required : registry.requireSession sessionId with
    | error error =>
      rw [required] at performed
      cases performed
    | ok record =>
      rw [required] at performed
      obtain rfl := Except.ok.inj performed
      have member := (find_some (requireSession_ok required)).1
      obtain ⟨stamp, stamped⟩ := complete record member
      apply grows_storeWithEpoch complete member stamped
      rw [(stamp?_eq_some.mp stamped).2.2, getD_some]
  | acquireWrite sessionId clientId ownerType force now =>
    exact grows_acquireWrite complete performed
  | delete sessionId =>
    obtain rfl := Except.ok.inj performed
    exact grows_deleteSession complete sessionId
  | restart lifetimeId => cases stays

/-! ## Runs -/

structure Tracked (used : List String) (seen : InputStamp → Prop)
    (registry : SessionHostRegistry Details Termination) : Prop where
  complete : registry.Complete
  live : registry.lifetimeId ∈ used
  here : ∀ stamp, registry.Holds stamp → seen stamp
  minted : ∀ stamp, registry.Holds stamp →
    ∃ counter ≤ registry.epochCounter, stamp.inputEpoch = epochOf registry.lifetimeId counter
  past : ∀ stamp, seen stamp → ∃ lifetime ∈ used, ∃ counter,
    stamp.inputEpoch = epochOf lifetime counter ∧
      (lifetime = registry.lifetimeId → counter ≤ registry.epochCounter)
  bound : ∀ stamp, seen stamp → ∀ held, registry.Holds held → SameCounter stamp held →
    stamp.inputSeq ≤ held.inputSeq

variable {used : List String} {seen : InputStamp → Prop}

theorem holds_start {lifetimeId : String}
    (holds : (start lifetimeId : SessionHostRegistry Details Termination).Holds stamp) : False := by
  obtain ⟨record, member, -⟩ := holds
  cases member

theorem tracked_start {lifetimeId : String} (fresh : lifetimeId ∉ used)
    (past : ∀ stamp, seen stamp → ∃ lifetime ∈ used, ∃ counter,
      stamp.inputEpoch = epochOf lifetime counter) :
    Tracked (lifetimeId :: used) seen
      (start lifetimeId : SessionHostRegistry Details Termination) where
  complete := fun _ member => absurd member not_mem_nil
  live := .head _
  here := fun _ holds => (holds_start holds).elim
  minted := fun _ holds => (holds_start holds).elim
  past := by
    intro stamp isSeen
    obtain ⟨lifetime, member, counter, epoch⟩ := past stamp isSeen
    refine ⟨lifetime, .tail _ member, counter, epoch, ?_⟩
    rintro rfl
    exact absurd member fresh
  bound := fun _ _ _ holds => (holds_start holds).elim

theorem Tracked.grows (tracked : Tracked used seen registry) (grown : Grows registry after) :
    Tracked used (fun stamp => seen stamp ∨ after.Holds stamp) after := by
  have minted : ∀ stamp, after.Holds stamp →
      ∃ counter ≤ after.epochCounter, stamp.inputEpoch = epochOf after.lifetimeId counter := by
    intro stamp holds
    rw [grown.lifetime]
    rcases grown.held stamp holds with ⟨earlier, held, same, -⟩ | ⟨counter, -, below, epoch⟩
    · obtain ⟨counter, below, epoch⟩ := tracked.minted earlier held
      exact ⟨counter, below.trans grown.counter, same.2.symm.trans epoch⟩
    · exact ⟨counter, below, epoch⟩
  refine ⟨grown.complete, grown.lifetime ▸ tracked.live, fun _ holds => .inr holds, minted, ?_, ?_⟩
  · rintro stamp (isSeen | holds)
    · obtain ⟨lifetime, member, counter, epoch, below⟩ := tracked.past stamp isSeen
      refine ⟨lifetime, member, counter, epoch, fun same => ?_⟩
      exact (below (same.trans grown.lifetime)).trans grown.counter
    · obtain ⟨counter, below, epoch⟩ := minted stamp holds
      exact ⟨after.lifetimeId, grown.lifetime ▸ tracked.live, counter, epoch, fun _ => below⟩
  rintro stamp (isSeen | holds) held heldAfter same
  · rcases grown.held held heldAfter with ⟨earlier, before, sameEarlier, ordered⟩ | fresh
    · have sameBefore : SameCounter stamp earlier :=
        ⟨same.1.trans sameEarlier.1.symm, same.2.trans sameEarlier.2.symm⟩
      exact (tracked.bound stamp isSeen earlier before sameBefore).trans ordered
    -- An epoch that has just been minted has not been seen.
    obtain ⟨next, above, -, minted⟩ := fresh
    obtain ⟨lifetime, -, counter, epoch, below⟩ := tracked.past stamp isSeen
    obtain ⟨isLifetime, isCounter⟩ := epochOf_inj (epoch.symm.trans (same.2.trans minted))
    have notAbove := below isLifetime
    omega
  · rw [holds_unique holds heldAfter same.1]

theorem lifetimes_cons (operation : Operation Details Termination)
    (operations : List (Operation Details Termination)) :
    lifetimes (operation :: operations) = lifetimes [operation] ++ lifetimes operations := by
  cases operation <;> rfl

theorem Tracked.step (tracked : Tracked used seen registry)
    (operation : Operation Details Termination)
    (fresh : ∀ lifetime ∈ lifetimes [operation], lifetime ∉ used) :
    Tracked (lifetimes [operation] ++ used)
      (fun stamp => seen stamp ∨ (registry.after buildRuntimeKey operation).Holds stamp)
      (registry.after buildRuntimeKey operation) := by
  by_cases stays : lifetimes [operation] = []
  · rw [stays, nil_append, SessionHostRegistry.after]
    cases performed : registry.perform buildRuntimeKey operation with
    | error error => exact tracked.grows (.same tracked.complete)
    | ok next =>
      exact tracked.grows (perform_grows buildRuntimeKey tracked.complete stays performed)
  cases operation with
  | restart lifetimeId =>
    apply tracked_start (fresh lifetimeId (.head _))
    rintro stamp (isSeen | holds)
    · obtain ⟨lifetime, member, counter, epoch, -⟩ := tracked.past stamp isSeen
      exact ⟨lifetime, member, counter, epoch⟩
    · exact (holds_start holds).elim
  | _ => exact absurd rfl stays

theorem Tracked.accepted (tracked : Tracked used seen registry)
    (isAccepted : registry.accepted operation = some stamp) :
    (registry.after buildRuntimeKey operation).Holds stamp ∧
      ∀ earlier, seen earlier → SameCounter earlier stamp → earlier.inputSeq < stamp.inputSeq := by
  cases operation with
  | input sessionId =>
    rw [SessionHostRegistry.accepted] at isAccepted
    rw [SessionHostRegistry.after, perform]
    cases recorded : registry.recordInput sessionId with
    | error error =>
      rw [recorded] at isAccepted
      cases isAccepted
    | ok next =>
      rw [recorded] at isAccepted
      obtain ⟨-, before, held, -, heldAfter, isStamp⟩ := recordInput_ok tracked.complete recorded
      obtain rfl := mem_unique isStamp isAccepted
      refine ⟨heldAfter, ?_⟩
      intro earlier isSeen same
      have ordered := tracked.bound earlier isSeen before held same
      dsimp only
      omega
  | _ => cases isAccepted

theorem fresh_cons {operation : Operation Details Termination}
    {operations : List (Operation Details Termination)} {used : List String}
    (distinct : (lifetimes (operation :: operations)).Nodup)
    (fresh : ∀ lifetime ∈ lifetimes (operation :: operations), lifetime ∉ used) :
    (lifetimes operations).Nodup ∧ (∀ lifetime ∈ lifetimes [operation], lifetime ∉ used) ∧
      ∀ lifetime ∈ lifetimes operations, lifetime ∉ lifetimes [operation] ++ used := by
  rw [lifetimes_cons] at distinct fresh
  obtain ⟨-, restDistinct, apart⟩ := nodup_append.mp distinct
  refine ⟨restDistinct, fun lifetime listed => fresh lifetime (mem_append_left _ listed), ?_⟩
  intro lifetime listed already
  rcases mem_append.mp already with now | before
  · exact apart lifetime now lifetime listed rfl
  · exact fresh lifetime (mem_append_right _ listed) before

theorem states_bound (operations : List (Operation Details Termination)) :
    ∀ {used : List String} {seen : InputStamp → Prop}
      {registry : SessionHostRegistry Details Termination},
      Tracked used seen registry → (lifetimes operations).Nodup →
      (∀ lifetime ∈ lifetimes operations, lifetime ∉ used) →
      ∀ state ∈ registry.states buildRuntimeKey operations, ∀ stamp, seen stamp →
        ∀ held, state.Holds held → SameCounter stamp held → stamp.inputSeq ≤ held.inputSeq := by
  induction operations with
  | nil =>
    intro used seen registry tracked _ _ state member
    rw [mem_singleton.mp member]
    exact tracked.bound
  | cons operation operations induction =>
    intro used seen registry tracked distinct fresh state member stamp isSeen
    obtain ⟨restDistinct, hereFresh, restFresh⟩ := fresh_cons distinct fresh
    rcases mem_cons.mp member with rfl | later
    · exact tracked.bound stamp isSeen
    · exact induction (tracked.step buildRuntimeKey operation hereFresh) restDistinct restFresh
        state later stamp (.inl isSeen)

theorem run_tracked (operations : List (Operation Details Termination)) :
    ∀ {used : List String} {seen : InputStamp → Prop}
      {registry : SessionHostRegistry Details Termination},
      Tracked used seen registry → (lifetimes operations).Nodup →
      (∀ lifetime ∈ lifetimes operations, lifetime ∉ used) →
      ((registry.stamps buildRuntimeKey operations).Pairwise fun earlier later =>
        SameCounter earlier later → earlier.inputSeq < later.inputSeq) ∧
      (∀ later ∈ registry.stamps buildRuntimeKey operations, ∀ earlier, seen earlier →
        SameCounter earlier later → earlier.inputSeq < later.inputSeq) ∧
      (registry.states buildRuntimeKey operations).Pairwise fun earlier later =>
        ∀ one two, earlier.Holds one → later.Holds two → SameCounter one two →
          one.inputSeq ≤ two.inputSeq := by
  induction operations with
  | nil =>
    intro used seen registry _ _ _
    exact ⟨.nil, fun _ member => absurd member not_mem_nil, pairwise_singleton _ _⟩
  | cons operation operations induction =>
    intro used seen registry tracked distinct fresh
    obtain ⟨restDistinct, hereFresh, restFresh⟩ := fresh_cons distinct fresh
    have next := tracked.step buildRuntimeKey operation hereFresh
    obtain ⟨stampsOrdered, stampsNew, statesOrdered⟩ := induction next restDistinct restFresh
    rw [stamps, states]
    refine ⟨?_, ?_, ?_⟩
    · apply pairwise_append.mpr
      refine ⟨?_, stampsOrdered, ?_⟩
      · cases registry.accepted operation with
        | none => exact .nil
        | some stamp => exact pairwise_singleton _ _
      intro stamp isAccepted later member
      have held := (tracked.accepted buildRuntimeKey (mem_toList.mp isAccepted)).1
      exact stampsNew later member stamp (.inr held)
    · intro later member earlier isSeen
      rcases mem_append.mp member with now | after
      · exact (tracked.accepted buildRuntimeKey (mem_toList.mp now)).2 earlier isSeen
      · exact stampsNew later after earlier (.inl isSeen)
    apply pairwise_cons.mpr
    refine ⟨?_, statesOrdered⟩
    intro later member one two holdsOne holdsTwo
    exact states_bound buildRuntimeKey operations next restDistinct restFresh later member one
      (.inl (tracked.here one holdsOne)) two holdsTwo

/-- Accepted inputs of one session and epoch have growing numbers, and no counter goes back. -/
theorem input_stamps_unique (lifetimeId : String)
    (operations : List (Operation Details Termination))
    (distinct : (lifetimeId :: lifetimes operations).Nodup) :
    ((start lifetimeId : SessionHostRegistry Details Termination).stamps buildRuntimeKey
        operations).Pairwise (fun earlier later =>
      earlier ≠ later ∧ (SameCounter earlier later → earlier.inputSeq < later.inputSeq)) ∧
    ((start lifetimeId : SessionHostRegistry Details Termination).states buildRuntimeKey
        operations).Pairwise (fun earlier later =>
      ∀ one two, earlier.Holds one → later.Holds two → SameCounter one two →
        one.inputSeq ≤ two.inputSeq) := by
  obtain ⟨fresh, restDistinct⟩ := List.nodup_cons.mp distinct
  have started : Tracked [lifetimeId] (fun _ => False)
      (start lifetimeId : SessionHostRegistry Details Termination) :=
    tracked_start List.not_mem_nil fun _ absurdity => absurdity.elim
  have apart : ∀ lifetime ∈ lifetimes operations, lifetime ∉ [lifetimeId] := by
    intro lifetime listed same
    rw [List.mem_singleton.mp same] at listed
    exact fresh listed
  obtain ⟨ordered, -, never⟩ := run_tracked buildRuntimeKey operations started restDistinct apart
  refine ⟨ordered.imp ?_, never⟩
  intro earlier later grows
  refine ⟨?_, grows⟩
  rintro rfl
  exact absurd (grows ⟨rfl, rfl⟩) (lt_irrefl _)

def sessionOf (inputSeq : Option Int) (inputEpoch : Option String) :
    SessionHostRecord Unit Unit where
  sessionId := "s"
  runtimeKey := "runtime"
  createdAt := 0
  startedAt := none
  lastActivityAt := 0
  osPid := none
  lifecycle := .running
  writeOwner := none
  attachedClients := []
  inputSeq := inputSeq
  inputEpoch := inputEpoch
  termination := none
  details := ()

def restoredAndRestarted : List (Operation Unit Unit) :=
  [.restore (sessionOf (some 4) (some "old:1")), .input "s",
    .restore (sessionOf (some 4) (some "a:1")),
    .input "s", .restart "b", .restore (sessionOf (some 5) (some "a:1")), .input "s"]

theorem input_stamps_unique_restored :
    ((start "a" : SessionHostRegistry Unit Unit).stamps (fun _ _ => "runtime")
        restoredAndRestarted = [⟨"s", "a:1", 5⟩, ⟨"s", "a:2", 5⟩, ⟨"s", "b:1", 6⟩]) ∧
    ((start "a" : SessionHostRegistry Unit Unit).stamps (fun _ _ => "runtime")
      restoredAndRestarted).Pairwise (fun earlier later =>
        earlier ≠ later ∧ (SameCounter earlier later → earlier.inputSeq < later.inputSeq)) :=
  ⟨by decide, (input_stamps_unique (fun _ _ => "runtime") "a" restoredAndRestarted (by decide)).1⟩

end Perform

end SessionHostRegistry

end Adhdev.SessionHost
