import Adhdev.OwnerDecisions.Rewrites

/-! # The coordinator's knowledge follows the owner's answer

The messages about an item reach the coordinator in the order of their revisions, the current
revision says what the delivery says, and an answer taken back without a message leaves nothing
with the coordinator.
-/

namespace Adhdev.OwnerDecisions

open List Option Bool

/-! ## What the coordinator knows -/

def Message.about (itemId : String) (message : Message) : Bool :=
  message.messageId.itemId = itemId

def Coordinator.reached (coordinator : Coordinator) (itemId : String) : List Message :=
  coordinator.submitted.filter (Message.about itemId)

def Coordinator.given (coordinator : Coordinator) (itemId : String) : List Message :=
  (coordinator.submitted ++ coordinator.queue).filter (Message.about itemId)

def World.flying (world : World) : List Message := world.inFlight.map (·.message)

def StatesAnswer (language : Language) (itemId : String) (decision : MissionDecision)
    (message : Message) : Prop :=
  ∃ kind, kind ≠ .undone ∧ message.text = decisionText language itemId decision kind

/-- The last message states the current answer, or undoes it where there is none. -/
def Informed (language : Language) (itemId : String) (decision : MissionDecision)
    (last : Option Message) : Prop :=
  if decision.answer = none then ∀ message, last = some message → message.text = undoneText itemId
  else ∃ message, last = some message ∧ StatesAnswer language itemId decision message

structure Quiet (world : World) (itemId : String) (item : MissionItem)
    (decision : MissionDecision) : Prop where
  found : world.items itemId = some item
  hasDecision : item.decision = some decision
  answerable : item.state = .openItem ∨ item.state = .answered
  notSending : ∀ send ∈ world.inFlight, send.itemId ≠ itemId
  settled : ∀ delivery, decision.delivery = some delivery →
    delivery.state ≠ .pending ∧ delivery.state ≠ .queued

def KnowledgeFollows (language : Language) (world : World) (itemId : String) : Prop :=
  ∀ item decision, Quiet world itemId item decision →
    Informed language itemId decision (world.coordinator.reached itemId).getLast?

def SentWasSubmitted (world : World) : Prop :=
  ∀ itemId decision delivery, world.items.decision itemId = some decision →
    decision.delivery = some delivery → delivery.state = .sent →
    delivery.messageId ∈ world.coordinator.submitted.map (·.messageId)

/-! ## The condition -/

def HoldsNothing (itemId : String) (flying : List Message) (coordinator : Coordinator) : Prop :=
  (∀ message ∈ flying ++ coordinator.queue, message.about itemId →
    message.text = undoneText itemId) ∧
  ∀ last, (coordinator.reached itemId).getLast? = some last → last.text = undoneText itemId

def InOrder (coordinator : Coordinator) (message : Message) : Prop :=
  ∀ earlier ∈ coordinator.given message.messageId.itemId,
    earlier.messageId.revision ≤ message.messageId.revision

/-- A step about the item that keeps the coordinator's knowledge: an answer is taken back without
a message only where the coordinator holds none, and a message is given in its turn. -/
def Keeps (itemId : String) (world : World) : Event → Prop
  | .answer req actor _ =>
    req.itemId = itemId → SilentUndo world.items req actor →
      HoldsNothing itemId world.flying world.coordinator
  | .senderDelivers index _ _ =>
    ∀ send, world.inFlight[index]? = some send → send.message.about itemId →
      InOrder world.coordinator send.message
  | _ => True

def KeptRun (language : Language) (meshId itemId : String) : World → List Event → Prop
  | _, [] => True
  | world, event :: events =>
    Keeps itemId world event ∧
      KeptRun language meshId itemId (step language meshId world event) events

/-! ## Every delivery is armed for its revision -/

structure Armed (itemId : String) (decision : MissionDecision) : Prop where
  ofRevision : ∀ delivery, decision.delivery = some delivery →
    delivery.messageId.itemId = itemId ∧ delivery.messageId.revision = decision.revision
  answering : decision.answer ≠ none → ∃ delivery kind, decision.delivery = some delivery ∧
    delivery.kind = some kind ∧ kind ≠ .undone
  undoing : decision.answer = none → ∀ delivery, decision.delivery = some delivery →
    delivery.kind = some .undone
  notAcked : ∀ delivery, decision.delivery = some delivery → delivery.state ≠ .acked

namespace Armed

variable {itemId : String} {decision later : MissionDecision} {silently : Prop}

theorem rewrites (armed : Armed itemId decision)
    (rewritten : Rewrites itemId silently decision later) : Armed itemId later := by
  cases rewritten with
  | kept => exact armed
  | reminded time => exact ⟨armed.ofRevision, armed.answering, armed.undoing, armed.notAcked⟩
  | answered answer kind stating =>
    refine ⟨?_, fun _ => ⟨_, kind, rfl, rfl, stating⟩, ?_, ?_⟩
    · rintro delivery ⟨⟩
      exact ⟨rfl, rfl⟩
    · rintro ⟨⟩
    · rintro delivery ⟨⟩ ⟨⟩
  | undone =>
    refine ⟨?_, ?_, ?_, ?_⟩
    · rintro delivery ⟨⟩
      exact ⟨rfl, rfl⟩
    · intro answered
      exact absurd rfl answered
    · rintro - delivery ⟨⟩
      rfl
    · rintro delivery ⟨⟩ ⟨⟩
  | silenced allowed =>
    refine ⟨?_, ?_, ?_, ?_⟩
    · rintro delivery ⟨⟩
    · intro answered
      exact absurd rfl answered
    · rintro - delivery ⟨⟩
    · rintro delivery ⟨⟩

structure Advances (delivery next : MissionDecisionDelivery) : Prop where
  itemId : next.messageId.itemId = delivery.messageId.itemId
  revision : next.messageId.revision = delivery.messageId.revision
  kind : next.kind = delivery.kind
  notAcked : next.state ≠ .acked

theorem advances {delivery next : MissionDecisionDelivery} (armed : Armed itemId decision)
    (has : decision.delivery = some delivery) (moves : Advances delivery next) :
    Armed itemId { decision with delivery := some next } := by
  obtain ⟨sameItem, sameRevision⟩ := armed.ofRevision delivery has
  refine ⟨?_, ?_, ?_, ?_⟩
  · rintro other ⟨⟩
    exact ⟨moves.itemId.trans sameItem, moves.revision.trans sameRevision⟩
  · intro answered
    obtain ⟨other, kind, otherHas, kindIs, stating⟩ := armed.answering answered
    rw [has] at otherHas
    cases otherHas
    exact ⟨next, kind, rfl, moves.kind.trans kindIs, stating⟩
  · rintro unanswered other ⟨⟩
    exact moves.kind.trans (armed.undoing unanswered delivery has)
  · rintro other ⟨⟩
    exact moves.notAcked

end Armed

open Armed (Advances)

theorem attempted_advances (language : Language) (delivery : MissionDecisionDelivery)
    (nowMs : Int) (result : DecisionSendResult) :
    Advances delivery (attempted language delivery nowMs result) := by
  unfold attempted
  split
  · exact ⟨rfl, rfl, rfl, by simp⟩
  · split <;> exact ⟨rfl, rfl, rfl, by simp⟩

theorem confirmed_advances (delivery : MissionDecisionDelivery) (receipt : DecisionReceiptState) :
    Advances delivery (confirmed delivery receipt) := by
  unfold confirmed
  split <;> exact ⟨rfl, rfl, rfl, by simp⟩

/-! ## What the messages about an item say -/

structure Told (language : Language) (itemId : String) (flying : List Message)
    (coordinator : Coordinator) (decision : MissionDecision) : Prop where
  bounded : ∀ message ∈ flying ++ (coordinator.submitted ++ coordinator.queue),
    message.about itemId → message.messageId.revision ≤ decision.revision
  current : ∀ message ∈ flying ++ (coordinator.submitted ++ coordinator.queue),
    message.about itemId → message.messageId.revision = decision.revision →
    decision.delivery ≠ none ∧ message.text = formatDecisionDelivery language itemId decision
  ordered : (coordinator.given itemId).Pairwise fun earlier later =>
    earlier.messageId.revision ≤ later.messageId.revision
  silent : decision.delivery = none → HoldsNothing itemId flying coordinator

namespace Told

variable {language : Language} {itemId : String} {flying fewer : List Message}
variable {coordinator : Coordinator} {decision later : MissionDecision} {silently : Prop}

section

variable (told : Told language itemId flying coordinator decision)
include told

theorem sameWords (revision : later.revision = decision.revision)
    (delivery : later.delivery = none ↔ decision.delivery = none)
    (words : formatDecisionDelivery language itemId later = formatDecisionDelivery language itemId
      decision) : Told language itemId flying coordinator later where
  bounded message member concerns := revision ▸ told.bounded message member concerns
  current message member concerns same := by
    obtain ⟨armed, text⟩ := told.current message member concerns (same.trans revision)
    exact ⟨fun none => armed (delivery.mp none), text.trans words.symm⟩
  ordered := told.ordered
  silent none := told.silent (delivery.mp none)

theorem advances {delivery next : MissionDecisionDelivery}
    (has : decision.delivery = some delivery) (moves : Advances delivery next) : Told language
    itemId flying coordinator { decision with delivery := some next } := by
  refine told.sameWords rfl (by simp [has]) ?_
  have sameKind : (some next).bind (fun delivery => delivery.kind) =
      decision.delivery.bind fun delivery => delivery.kind := by simp [has, moves.kind]
  unfold formatDecisionDelivery
  rw [sameKind]
  cases (decision.delivery.bind fun delivery => delivery.kind).getD .answered <;> rfl

theorem nextRevision (revision : later.revision = decision.revision + 1)
    (silent : later.delivery = none → HoldsNothing itemId flying coordinator) : Told language
    itemId flying coordinator later where
  bounded message member concerns := by
    have := told.bounded message member concerns
    omega
  current message member concerns same := by
    have := told.bounded message member concerns
    omega
  ordered := told.ordered
  silent := silent

theorem rewrites (rewritten : Rewrites itemId silently decision later)
    (holds : silently → HoldsNothing itemId flying coordinator) : Told language itemId flying
    coordinator later := by
  cases rewritten with
  | kept => exact told
  | reminded time =>
    refine told.sameWords rfl Iff.rfl ?_
    unfold formatDecisionDelivery
    dsimp only
    cases (decision.delivery.bind fun delivery => delivery.kind).getD .answered <;> rfl
  | answered answer kind stating | undone => exact told.nextRevision rfl (by rintro ⟨⟩)
  | silenced allowed => exact told.nextRevision rfl fun _ => holds allowed

theorem fewerFlying (subset : ∀ message ∈ fewer, message ∈ flying) : Told language itemId fewer
    coordinator decision where
  bounded message member concerns := by
    refine told.bounded message ?_ concerns
    rw [mem_append] at member ⊢
    exact member.imp_left (subset message)
  current message member concerns same := by
    refine told.current message ?_ concerns same
    rw [mem_append] at member ⊢
    exact member.imp_left (subset message)
  ordered := told.ordered
  silent none := by
    obtain ⟨waiting, last⟩ := told.silent none
    refine ⟨fun message member concerns => waiting message ?_ concerns, last⟩
    rw [mem_append] at member ⊢
    exact member.imp_left (subset message)

theorem begins {message : Message} (stating : message.about itemId → message.messageId.revision =
      decision.revision ∧ decision.delivery ≠ none ∧ message.text = formatDecisionDelivery language
      itemId decision) : Told language itemId (flying ++ [message]) coordinator decision where
  bounded other member concerns := by
    rw [append_assoc, singleton_append, mem_append, mem_cons] at member
    rcases member with before | rfl | given
    · exact told.bounded other (mem_append_left _ before) concerns
    · exact (stating concerns).1.le
    · exact told.bounded other (mem_append_right _ given) concerns
  current other member concerns same := by
    rw [append_assoc, singleton_append, mem_append, mem_cons] at member
    rcases member with before | rfl | given
    · exact told.current other (mem_append_left _ before) concerns same
    · exact (stating concerns).2
    · exact told.current other (mem_append_right _ given) concerns same
  ordered := told.ordered
  silent none := by
    obtain ⟨waiting, last⟩ := told.silent none
    refine ⟨fun other member concerns => ?_, last⟩
    rw [append_assoc, singleton_append, mem_append, mem_cons] at member
    rcases member with before | rfl | queued
    · exact waiting other (mem_append_left _ before) concerns
    · exact absurd none (stating concerns).2.1
    · exact waiting other (mem_append_right _ queued) concerns

theorem movesOn {next : Coordinator} (known : ∀ message ∈ next.submitted ++ next.queue, message ∈
      flying ++ (coordinator.submitted ++ coordinator.queue)) (ordered :
      (next.given itemId).Pairwise fun earlier later => earlier.messageId.revision ≤
      later.messageId.revision) (silent : HoldsNothing itemId flying coordinator → HoldsNothing
      itemId flying next) : Told language itemId flying next decision := by
  have before : ∀ message ∈ flying ++ (next.submitted ++ next.queue),
      message ∈ flying ++ (coordinator.submitted ++ coordinator.queue) := by
    intro message member
    rcases mem_append.mp member with flies | given
    · exact mem_append_left _ flies
    · exact known message given
  exact
    { bounded := fun message member => told.bounded message (before message member)
      current := fun message member => told.current message (before message member)
      ordered
      silent := fun none => silent (told.silent none) }

end

end Told

/-! ## The coordinator takes, types and drops -/

section Coordinator

variable {itemId : String} {flying : List Message} {coordinator : Coordinator}

theorem getLast?_filter_append (p : Message → Bool) (messages : List Message) (message : Message) :
    ((messages ++ [message]).filter p).getLast? =
      if p message then some message else (messages.filter p).getLast? := by
  rw [filter_append]
  cases holds : p message <;> simp [holds]

theorem holdsNothing_typed {queue : List Message} {accepted : List DecisionMessageId}
    {message : Message} (holds : HoldsNothing itemId flying coordinator)
    (known : message ∈ flying ++ coordinator.queue)
    (rest : ∀ other ∈ queue, other ∈ coordinator.queue) : HoldsNothing itemId flying
      { submitted := coordinator.submitted ++ [message], queue, accepted } := by
  refine ⟨fun other member concerns => holds.1 other ?_ concerns, fun last isLast => ?_⟩
  · exact mem_append.mpr ((mem_append.mp member).imp_right (rest other))
  rw [Coordinator.reached, getLast?_filter_append] at isLast
  split at isLast
  · rename_i concerns
    cases isLast
    exact holds.1 message known concerns
  · exact holds.2 last isLast

theorem holdsNothing_queued {queue : List Message} {accepted : List DecisionMessageId}
    (holds : HoldsNothing itemId flying coordinator)
    (known : ∀ other ∈ queue, other ∈ flying ++ coordinator.queue) :
    HoldsNothing itemId flying { submitted := coordinator.submitted, queue, accepted } := by
  refine ⟨fun other member concerns => ?_, holds.2⟩
  rcases mem_append.mp member with flies | queued
  · exact holds.1 other (mem_append_left _ flies) concerns
  · exact holds.1 other (known other queued) concerns

theorem take_given (message : Message) (types : Bool) :
    ((coordinator.take message types).1.submitted ++ (coordinator.take message types).1.queue) =
      (coordinator.submitted ++ coordinator.queue) ++ [message] := by
  unfold Coordinator.take
  dsimp only
  split
  · rename_i typed
    simp [typed.2]
  · simp

variable {decision : MissionDecision} {language : Language}

theorem Told.takes {message : Message} (told : Told language itemId flying coordinator decision)
    (flies : message ∈ flying) (inTurn : message.about itemId → InOrder coordinator message)
    (types : Bool) : Told language itemId flying (coordinator.take message types).1 decision := by
  refine told.movesOn ?_ ?_ ?_
  · intro other member
    rw [take_given, mem_append, mem_singleton] at member
    rcases member with given | rfl
    · exact mem_append_right _ given
    · exact mem_append_left _ flies
  · rw [Coordinator.given, take_given, filter_append, pairwise_append]
    refine ⟨told.ordered, (pairwise_singleton _ message).filter _, ?_⟩
    intro earlier before later member
    rw [mem_filter, mem_singleton] at member
    obtain ⟨rfl, concerns⟩ := member
    have ofItem : later.messageId.itemId = itemId := by simpa [Message.about] using concerns
    exact inTurn concerns earlier (by rwa [ofItem])
  intro holds
  unfold Coordinator.take
  dsimp only
  split
  · exact holdsNothing_typed holds (mem_append_left _ flies) fun other member => member
  refine holdsNothing_queued holds fun other member => ?_
  rcases mem_append.mp member with queued | last
  · exact mem_append_right _ queued
  · rw [mem_singleton.mp last]
    exact mem_append_left _ flies

theorem typeQueued_given : coordinator.typeQueued.submitted ++ coordinator.typeQueued.queue =
      coordinator.submitted ++ coordinator.queue := by
  unfold Coordinator.typeQueued
  split
  · rfl
  · rename_i head rest queued
    simp [queued]

theorem Told.typesQueued (told : Told language itemId flying coordinator decision) :
    Told language itemId flying coordinator.typeQueued decision := by
  refine told.movesOn ?_ ?_ ?_
  · intro other member
    rw [typeQueued_given] at member
    exact mem_append_right _ member
  · rw [Coordinator.given, typeQueued_given]
    exact told.ordered
  intro holds
  unfold Coordinator.typeQueued
  split
  · exact holds
  rename_i head rest queued
  refine holdsNothing_typed holds ?_ ?_
  · exact mem_append_right _ (queued ▸ mem_cons_self)
  · exact fun other member => queued ▸ mem_cons_of_mem head member

theorem Told.dropsQueued (told : Told language itemId flying coordinator decision)
    (messageId : DecisionMessageId) :
    Told language itemId flying (coordinator.dropQueued messageId) decision := by
  refine told.movesOn ?_ ?_ ?_
  · intro other member
    refine mem_append_right _ ?_
    exact mem_append.mpr ((mem_append.mp member).imp_right mem_of_mem_filter)
  · refine told.ordered.sublist (List.Sublist.filter _ ?_)
    exact (List.Sublist.refl _).append filter_sublist
  intro holds
  exact holdsNothing_queued holds fun other member =>
    mem_append_right _ (mem_of_mem_filter member)

end Coordinator

end Adhdev.OwnerDecisions
