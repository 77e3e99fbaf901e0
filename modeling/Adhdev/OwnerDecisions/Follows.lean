import Adhdev.OwnerDecisions.Knowledge

/-! # Runs of decisions and deliveries -/

namespace Adhdev.OwnerDecisions

open List Coordinator

open Armed (Advances)

def Coordinator.hasSubmitted (coordinator : Coordinator) (messageId : DecisionMessageId) : Prop :=
  messageId ∈ coordinator.submitted.map (·.messageId)

/-! ## Deliveries move on -/

section Progress

variable {coordinator : Coordinator} {items : MissionItems} {itemId : String}

/-- Some deliveries moved on within their revision, to `sent` only once they were submitted. -/
def Progress (coordinator : Coordinator) (before after : MissionItems) : Prop :=
  ∀ itemId decision, after.decision itemId = some decision →
    before.decision itemId = some decision ∨
      ∃ earlier delivery next, before.decision itemId = some earlier ∧
        earlier.delivery = some delivery ∧ Advances delivery next ∧
        (next.state = .sent → coordinator.hasSubmitted next.messageId) ∧
        decision = { earlier with delivery := some next }

theorem progress_same : Progress coordinator items items :=
  fun _ _ after => .inl after

theorem progress_updateDelivery {decision : MissionDecision}
    {delivery next : MissionDecisionDelivery} (found : items.decision itemId = some decision)
    (has : decision.delivery = some delivery) (moves : Advances delivery next)
    (sent : next.state = .sent → coordinator.hasSubmitted next.messageId) :
    Progress coordinator items (items.updateDelivery itemId next) := by
  intro other later after
  unfold MissionItems.updateDelivery at after
  split at after
  · exact .inl after
  rename_i item there
  by_cases same : other = itemId
  · subst same
    have itemHas : item.decision = some decision := by
      simpa [MissionItems.decision, there] using found
    rw [updateItem_decision, itemHas] at after
    cases after
    exact .inr ⟨decision, delivery, next, found, has, moves, sent, rfl⟩
  · rw [updateItem_decision_other _ same] at after
    exact .inl after

def TellsTruth (coordinator : Coordinator) (messageId : DecisionMessageId) :
    DecisionSendResult → Prop
  | .ok duplicate queued sessionId wireMessageId =>
    ((queued || duplicate) && present sessionId && present wireMessageId) = true ∨
      coordinator.hasSubmitted messageId
  | .failed _ _ => True

variable {messageId : DecisionMessageId}

theorem finishDelivery_progress (language : Language) {result : DecisionSendResult}
    (truth : TellsTruth coordinator messageId result) (nowMs : Int) :
    Progress coordinator items (finishDelivery language items itemId messageId nowMs result) := by
  unfold finishDelivery
  split
  · exact progress_same
  rename_i delivery found
  obtain ⟨decision, hasDecision, hasDelivery⟩ := Option.bind_eq_some_iff.mp found
  split
  · exact progress_same
  rename_i same
  rw [not_not] at same
  refine progress_updateDelivery hasDecision hasDelivery
    (attempted_advances language delivery nowMs result) ?_
  unfold attempted
  split
  · rintro ⟨⟩
  split
  · rintro ⟨⟩
  rename_i notLater
  intro
  exact same ▸ truth.resolve_left notLater

def ReceiptTrue (coordinator : Coordinator) (messageId : DecisionMessageId)
    (outcome : CheckOutcome) : Prop :=
  ∀ receipt, outcome = .receipt receipt → receipt = .submitted ∨ receipt = .seen →
    coordinator.hasSubmitted messageId

theorem receiptTrue_of_truthful {outcome : CheckOutcome}
    (truthful : outcome.truthful coordinator messageId = true) :
    ReceiptTrue coordinator messageId outcome := by
  rintro receipt rfl (rfl | rfl) <;>
    simpa [CheckOutcome.truthful, bearsOut, hasSubmitted] using truthful

theorem finishConfirm_progress {outcome : CheckOutcome}
    (truth : ReceiptTrue coordinator messageId outcome) :
    Progress coordinator items (finishConfirm items itemId messageId outcome) := by
  unfold finishConfirm
  split
  · exact progress_same
  rename_i receipt
  split
  · exact progress_same
  split
  · exact progress_same
  rename_i delivery found
  obtain ⟨decision, hasDecision, hasDelivery⟩ := Option.bind_eq_some_iff.mp found
  split
  · exact progress_same
  rename_i same
  rw [not_or, not_not] at same
  refine progress_updateDelivery hasDecision hasDelivery (confirmed_advances delivery receipt) ?_
  unfold confirmed
  split
  · rename_i delivered
    intro
    exact same.1 ▸ truth receipt rfl delivered
  · rintro ⟨⟩

end Progress

theorem wireMessageId_ne_empty (meshId : String) (messageId : DecisionMessageId) :
    wireMessageId meshId messageId ≠ "" := by
  simp [wireMessageId, ToString.toString]

/-! ## Honest worlds -/

/-- What the sender and the checker answered is true, and so is what was marked sent. -/
structure Honest (world : World) : Prop where
  armed : ∀ itemId decision, world.items.decision itemId = some decision → Armed itemId decision
  sent : SentWasSubmitted world
  results : ∀ send ∈ world.inFlight, ∀ result, send.result = some result →
    TellsTruth world.coordinator send.message.messageId result
  receipts : ∀ check ∈ world.checks, ∀ outcome, check.outcome = some outcome →
    ReceiptTrue world.coordinator check.messageId outcome

namespace Honest

variable {world : World} {language : Language} {meshId : String}

def Keeping (coordinator next : Coordinator) : Prop :=
  ∀ messageId, coordinator.hasSubmitted messageId → next.hasSubmitted messageId

theorem tellsTruth_keeping {coordinator next : Coordinator} (keeping : Keeping coordinator next)
    {messageId : DecisionMessageId} {result : DecisionSendResult}
    (truth : TellsTruth coordinator messageId result) : TellsTruth next messageId result := by
  cases result with
  | ok duplicate queued sessionId wireMessageId => exact truth.imp_right (keeping messageId)
  | failed code error => trivial

section

variable (honest : Honest world)
include honest

theorem withCoordinator {next : Coordinator} (keeping : Keeping world.coordinator next) : Honest
    { world with coordinator := next } where
  armed := honest.armed
  sent itemId decision delivery found has sent :=
    keeping _ (honest.sent itemId decision delivery found has sent)
  results send member result is := tellsTruth_keeping keeping (honest.results send member result is)
  receipts check member outcome is receipt found delivered :=
    keeping _ (honest.receipts check member outcome is receipt found delivered)

theorem withFlights {flights : List SendInFlight} (results : ∀ send ∈ flights, send ∈
      world.inFlight ∨ ∀ result, send.result = some result → TellsTruth world.coordinator
      send.message.messageId result) : Honest { world with inFlight := flights } where
  armed := honest.armed
  sent := honest.sent
  results send member result is := by
    rcases results send member with before | truth
    · exact honest.results send before result is
    · exact truth result is
  receipts := honest.receipts

theorem withChecks {checks : List ReceiptCheck} (receipts : ∀ check ∈ checks, check ∈ world.checks
      ∨ ∀ outcome, check.outcome = some outcome → ReceiptTrue world.coordinator check.messageId
      outcome) : Honest { world with checks := checks } where
  armed := honest.armed
  sent := honest.sent
  results := honest.results
  receipts check member outcome is := by
    rcases receipts check member with before | truth
    · exact honest.receipts check before outcome is
    · exact truth outcome is

theorem progress {items : MissionItems} (progress : Progress world.coordinator world.items items) :
    Honest { world with items := items } where
  armed itemId decision after := by
    rcases progress itemId decision after with
      before | ⟨earlier, delivery, next, before, has, moves, _, rfl⟩
    · exact honest.armed itemId decision before
    · exact (honest.armed itemId earlier before).advances has moves
  sent itemId decision delivery after hasDelivery isSent := by
    rcases progress itemId decision after with
      before | ⟨earlier, _, next, before, _, _, sent, rfl⟩
    · exact honest.sent itemId decision delivery before hasDelivery isSent
    · cases hasDelivery
      exact sent isSent
  results := honest.results
  receipts := honest.receipts

theorem rewrites {items : MissionItems} {silently : String → Prop}
    (rewrites : ∀ itemId, BecomesRewrite itemId (silently itemId) world.items items) : Honest
    { world with items := items } where
  armed itemId decision after := by
    obtain ⟨earlier, before, rewritten⟩ := rewrites itemId decision after
    exact (honest.armed itemId earlier before).rewrites rewritten
  sent itemId decision delivery after hasDelivery isSent := by
    obtain ⟨earlier, before, rewritten⟩ := rewrites itemId decision after
    cases rewritten with
    | kept => exact honest.sent itemId decision delivery before hasDelivery isSent
    | reminded time => exact honest.sent itemId earlier delivery before hasDelivery isSent
    | answered answer kind stating | undone =>
      cases hasDelivery
      cases isSent
    | silenced allowed => cases hasDelivery
  results := honest.results
  receipts := honest.receipts

end

theorem take_keeping (coordinator : Coordinator) (message : Message) (types : Bool) :
    Keeping coordinator (coordinator.take message types).1 := by
  intro messageId submitted
  unfold Coordinator.take
  dsimp only
  split
  · unfold hasSubmitted at submitted ⊢
    rw [map_append]
    exact mem_append_left _ submitted
  · exact submitted

theorem take_tellsTruth (coordinator : Coordinator) (message : Message) (types : Bool)
    (meshId : String) (session : CoordinatorSession) :
    TellsTruth (coordinator.take message types).1 message.messageId
      (.ok false (coordinator.take message types).2 (some session.id)
        (some (wireMessageId meshId message.messageId))) := by
  unfold Coordinator.take
  dsimp only
  split
  · refine .inr ?_
    simp [hasSubmitted]
  · refine .inl ?_
    simp [present, session.named, wireMessageId_ne_empty]

section

variable (honest : Honest world)
include honest

theorem senderDelivers (meshId : String) (index : Nat) (types : Bool)
    (session : CoordinatorSession) : Honest (OwnerDecisions.senderDelivers meshId world index types
      session) := by
  unfold OwnerDecisions.senderDelivers
  split
  · rename_i send found
    split
    · exact honest
    dsimp only
    split
    · refine honest.withFlights fun other member => ?_
      rcases mem_or_eq_of_mem_set member with before | rfl
      · exact .inl before
      refine .inr ?_
      rintro result ⟨⟩
      refine .inl ?_
      simp [present, session.named, wireMessageId_ne_empty]
    refine (honest.withCoordinator (take_keeping _ send.message types)).withFlights
      fun other member => ?_
    rcases mem_or_eq_of_mem_set member with before | rfl
    · exact .inl before
    refine .inr ?_
    rintro result ⟨⟩
    exact take_tellsTruth world.coordinator send.message types meshId session
  · exact honest

theorem senderFails (index : Nat) (code error : String) : Honest
    (OwnerDecisions.senderFails world index code error) := by
  unfold OwnerDecisions.senderFails
  split
  · split
    · exact honest
    refine honest.withFlights fun other member => ?_
    rcases mem_or_eq_of_mem_set member with before | rfl
    · exact .inl before
    refine .inr ?_
    rintro result ⟨⟩
    trivial
  · exact honest

theorem sendReturns (language : Language) (index : Nat) : Honest
    (OwnerDecisions.sendReturns language world index) := by
  unfold OwnerDecisions.sendReturns
  split
  · rename_i send found
    split
    · rename_i result is
      have truth := honest.results send (mem_of_getElem? found) result is
      refine (honest.progress (finishDelivery_progress language truth send.nowMs)).withFlights
        fun other member => .inl (mem_of_mem_eraseIdx member)
    · exact honest
  · exact honest

theorem checkerFinds (index : Nat) (outcome : CheckOutcome) : Honest
    (OwnerDecisions.checkerFinds world index outcome) := by
  unfold OwnerDecisions.checkerFinds
  split
  · split
    · exact honest
    rename_i passes
    rw [not_or, not_not] at passes
    refine honest.withChecks fun other member => ?_
    rcases mem_or_eq_of_mem_set member with before | rfl
    · exact .inl before
    refine .inr ?_
    rintro found ⟨⟩
    exact receiptTrue_of_truthful passes.2
  · exact honest

theorem checkReturns (index : Nat) : Honest (OwnerDecisions.checkReturns world index) := by
  unfold OwnerDecisions.checkReturns
  split
  · rename_i check found
    split
    · rename_i outcome is
      have truth := honest.receipts check (mem_of_getElem? found) outcome is
      exact (honest.progress (finishConfirm_progress truth)).withChecks
        fun other member => .inl (mem_of_mem_eraseIdx member)
    · exact honest
  · exact honest

theorem beginDelivery (language : Language) (itemId : String) (nowMs : Int)
    (respectRetryDelay : Bool) : Honest (OwnerDecisions.beginDelivery language world itemId nowMs
      respectRetryDelay) := by
  unfold OwnerDecisions.beginDelivery
  split
  · exact honest
  split
  · exact honest
  split
  · exact honest
  refine honest.withFlights fun other member => ?_
  rcases mem_append.mp member with before | last
  · exact .inl before
  rw [mem_singleton] at last
  subst last
  exact .inr nofun

theorem beginConfirm (language : Language) (itemId : String) : Honest
    (OwnerDecisions.beginConfirm language world itemId) := by
  unfold OwnerDecisions.beginConfirm
  split
  · exact honest
  split
  · exact honest
  split
  · exact honest
  refine honest.withChecks fun other member => ?_
  rcases mem_append.mp member with before | last
  · exact .inl before
  rw [mem_singleton] at last
  subst last
  exact .inr nofun

end

theorem typeQueued_keeping (coordinator : Coordinator) :
    Keeping coordinator coordinator.typeQueued := by
  intro messageId submitted
  unfold typeQueued
  split
  · exact submitted
  unfold hasSubmitted at submitted ⊢
  rw [map_append]
  exact mem_append_left _ submitted

theorem deadlines (honest : Honest world) (language : Language) (nowMs : Int)
    (listed : List String) :
    Honest { world with items := processDecisionDeadlines language world.items nowMs listed } := by
  unfold processDecisionDeadlines
  induction listed generalizing world with
  | nil => exact honest
  | cons itemId listed induction =>
    exact induction (honest.rewrites fun _ => processDeadline_rewrites language nowMs)

theorem step (honest : Honest world) (language : Language) (meshId : String) (event : Event) :
    Honest (OwnerDecisions.step language meshId world event) := by
  cases event with
  | answer req actor nowMs =>
    exact honest.rewrites fun _ => answerMissionDecision_rewrites language req actor nowMs
  | deadlines nowMs listed => exact honest.deadlines language nowMs listed
  | deliver itemId nowMs respectRetryDelay =>
    exact honest.beginDelivery language itemId nowMs respectRetryDelay
  | senderDelivers send types session => exact honest.senderDelivers meshId send types session
  | senderFails send code error => exact honest.senderFails send code error
  | sendReturns send => exact honest.sendReturns language send
  | confirm itemId => exact honest.beginConfirm language itemId
  | checkerFinds check outcome => exact honest.checkerFinds check outcome
  | checkReturns check => exact honest.checkReturns check
  | queueTypes => exact honest.withCoordinator (typeQueued_keeping world.coordinator)
  | queueDrops messageId => exact honest.withCoordinator fun _ submitted => submitted

end Honest

/-! ## Runs that keep the coordinator's knowledge -/

def ToldOf (language : Language) (itemId : String) (world : World) : Prop :=
  ∀ decision, world.items.decision itemId = some decision →
    Told language itemId world.flying world.coordinator decision

section Step

variable {world : World} {language : Language} {itemId : String}

section

variable (told : ToldOf language itemId world)
include told

theorem ToldOf.progress {items : MissionItems} {flights : List SendInFlight}
    {checks : List ReceiptCheck} (progress : Progress world.coordinator world.items items)
    (fewer : ∀ send ∈ flights, send ∈ world.inFlight) : ToldOf language itemId
    { items, inFlight := flights, checks, coordinator := world.coordinator } := by
  have subset : ∀ message ∈ flights.map (·.message), message ∈ world.flying := by
    intro message member
    obtain ⟨send, sending, rfl⟩ := mem_map.mp member
    exact mem_map_of_mem (fewer send sending)
  intro decision after
  rcases progress itemId decision after with
    before | ⟨earlier, delivery, next, before, has, moves, _, rfl⟩
  · exact (told decision before).fewerFlying subset
  · exact ((told earlier before).advances has moves).fewerFlying subset

theorem ToldOf.rewrites {items : MissionItems} {silently : Prop}
    (rewrites : BecomesRewrite itemId silently world.items items)
    (holds : silently → HoldsNothing itemId world.flying world.coordinator) : ToldOf language
    itemId { world with items := items } := by
  intro decision after
  obtain ⟨earlier, before, rewritten⟩ := rewrites decision after
  exact (told earlier before).rewrites rewritten holds

theorem ToldOf.deadlines (nowMs : Int) (listed : List String) : ToldOf language itemId
    { world with items := processDecisionDeadlines language world.items nowMs listed } := by
  unfold processDecisionDeadlines
  induction listed generalizing world with
  | nil => exact told
  | cons head listed induction =>
    exact induction (told.rewrites (processDeadline_rewrites language nowMs) False.elim)

end

theorem flying_set {index : Nat} {send : SendInFlight} {result : Option DecisionSendResult}
    (found : world.inFlight[index]? = some send) :
    (world.inFlight.set index { send with result }).map (·.message) = world.flying := by
  unfold World.flying
  rw [map_set]
  refine ext_getElem? fun other => ?_
  rw [getElem?_set]
  split
  · rename_i same
    subst same
    split
    · simp [found]
    rename_i outside
    simp at outside
    simp [outside]
  · rfl

section

variable (told : ToldOf language itemId world)
include told

theorem ToldOf.beginDelivery (honest : Honest world) (other : String) (nowMs : Int)
    (respectRetryDelay : Bool) : ToldOf language itemId (OwnerDecisions.beginDelivery language
      world other nowMs respectRetryDelay) := by
  unfold OwnerDecisions.beginDelivery
  split
  · exact told
  rename_i sending found
  split
  · exact told
  rename_i delivery has
  split
  · exact told
  intro decision there
  obtain ⟨ofItem, ofRevision⟩ := (honest.armed other sending found).ofRevision delivery has
  have begun : Told language itemId
      (world.flying ++
        [⟨delivery.messageId, formatDecisionDelivery language other sending⟩])
      world.coordinator decision := by
    refine (told decision there).begins fun concerns => ?_
    have same : other = itemId := by simpa [Message.about, ofItem] using concerns
    subst same
    rw [found] at there
    cases there
    exact ⟨ofRevision, by simp [has], rfl⟩
  simpa [World.flying] using begun

theorem ToldOf.senderDelivers (meshId : String) (index : Nat) (types : Bool)
    (session : CoordinatorSession) (inTurn : ∀ send, world.inFlight[index]? = some send →
      send.message.about itemId → InOrder world.coordinator send.message) : ToldOf language itemId
    (OwnerDecisions.senderDelivers meshId world index types session) := by
  unfold OwnerDecisions.senderDelivers
  split
  · rename_i send found
    split
    · exact told
    dsimp only
    split
    · intro decision there
      unfold World.flying
      rw [flying_set found]
      exact told decision there
    intro decision there
    unfold World.flying
    rw [flying_set found]
    exact (told decision there).takes
      (mem_map_of_mem (mem_of_getElem? found)) (inTurn send found) types
  · exact told

theorem ToldOf.step (honest : Honest world) (meshId : String) (event : Event)
    (keeps : Keeps itemId world event) : ToldOf language itemId
    (OwnerDecisions.step language meshId world event) := by
  cases event with
  | answer req actor nowMs =>
    refine told.rewrites (answerMissionDecision_rewrites language req actor nowMs) ?_
    rintro ⟨same, silent⟩
    exact keeps same.symm silent
  | deadlines nowMs listed => exact told.deadlines nowMs listed
  | deliver other nowMs respectRetryDelay =>
    exact told.beginDelivery honest other nowMs respectRetryDelay
  | senderDelivers index types session => exact told.senderDelivers meshId index types session keeps
  | senderFails index code error =>
    show ToldOf language itemId (OwnerDecisions.senderFails world index code error)
    unfold OwnerDecisions.senderFails
    split
    · rename_i send found
      split
      · exact told
      intro decision there
      unfold World.flying
      rw [flying_set found]
      exact told decision there
    · exact told
  | sendReturns index =>
    show ToldOf language itemId (OwnerDecisions.sendReturns language world index)
    unfold OwnerDecisions.sendReturns
    split
    · rename_i send found
      split
      · rename_i result is
        have truth := honest.results send (mem_of_getElem? found) result is
        exact told.progress (finishDelivery_progress language truth send.nowMs)
          fun other member => mem_of_mem_eraseIdx member
      · exact told
    · exact told
  | confirm other =>
    show ToldOf language itemId (OwnerDecisions.beginConfirm language world other)
    unfold OwnerDecisions.beginConfirm
    split
    · exact told
    split
    · exact told
    · split <;> exact told
  | checkerFinds index outcome =>
    show ToldOf language itemId (OwnerDecisions.checkerFinds world index outcome)
    unfold OwnerDecisions.checkerFinds
    split
    · split <;> exact told
    · exact told
  | checkReturns index =>
    show ToldOf language itemId (OwnerDecisions.checkReturns world index)
    unfold OwnerDecisions.checkReturns
    split
    · rename_i check found
      split
      · rename_i outcome is
        have truth := honest.receipts check (mem_of_getElem? found) outcome is
        exact told.progress (finishConfirm_progress truth) fun other member => member
      · exact told
    · exact told
  | queueTypes => exact fun decision there => (told decision there).typesQueued
  | queueDrops messageId => exact fun decision there => (told decision there).dropsQueued messageId

end

end Step

section Run

variable {world : World} {language : Language} {itemId : String}

theorem Honest.run (honest : Honest world) (language : Language) (meshId : String)
    (events : List Event) : Honest (OwnerDecisions.run language meshId world events) := by
  induction events generalizing world with
  | nil => exact honest
  | cons event events induction => exact induction (honest.step language meshId event)

theorem ToldOf.run (told : ToldOf language itemId world) (honest : Honest world) {meshId : String}
    {events : List Event} (kept : KeptRun language meshId itemId world events) :
    ToldOf language itemId (OwnerDecisions.run language meshId world events) := by
  induction events generalizing world with
  | nil => exact told
  | cons event events induction =>
    exact induction (told.step honest meshId event kept.1) (honest.step language meshId event)
      kept.2

/-- Decisions that nobody has answered, and a coordinator that was told nothing. -/
structure Unanswered (world : World) : Prop where
  unanswered : ∀ itemId decision, world.items.decision itemId = some decision →
    decision.answer = none ∧ decision.delivery = none
  noSends : world.inFlight = []
  noChecks : world.checks = []
  untold : world.coordinator = { submitted := [], queue := [], accepted := [] }

theorem Unanswered.honest (unanswered : Unanswered world) : Honest world where
  armed itemId decision found := by
    obtain ⟨noAnswer, noDelivery⟩ := unanswered.unanswered itemId decision found
    exact
      { ofRevision := by simp [noDelivery]
        answering := by simp [noAnswer]
        undoing := by simp [noDelivery]
        notAcked := by simp [noDelivery] }
  sent itemId decision delivery found has := by
    rw [(unanswered.unanswered itemId decision found).2] at has
    cases has
  results := by simp [unanswered.noSends]
  receipts := by simp [unanswered.noChecks]

theorem Unanswered.toldOf (unanswered : Unanswered world) : ToldOf language itemId world := by
  intro decision found
  have nothing : world.flying = [] := by simp [World.flying, unanswered.noSends]
  rw [nothing, unanswered.untold]
  exact
    { bounded := by simp
      current := by simp
      ordered := by simp [given]
      silent := fun _ => ⟨by simp, by simp [reached]⟩ }

variable {decision : MissionDecision}

theorem formatDecisionDelivery_states (armed : Armed itemId decision) {message : Message}
    (text : message.text = formatDecisionDelivery language itemId decision)
    (answered : decision.answer ≠ none) : StatesAnswer language itemId decision message := by
  obtain ⟨delivery, kind, has, isKind, stating⟩ := armed.answering answered
  refine ⟨kind, stating, text.trans ?_⟩
  simp [formatDecisionDelivery, has, isKind]

theorem formatDecisionDelivery_undone (armed : Armed itemId decision)
    {delivery : MissionDecisionDelivery} (has : decision.delivery = some delivery)
    (unanswered : decision.answer = none) :
    formatDecisionDelivery language itemId decision = undoneText itemId := by
  have undone := armed.undoing unanswered delivery has
  have kind : (decision.delivery.bind fun delivery => delivery.kind) = some .undone := by
    rw [has]
    exact undone
  unfold formatDecisionDelivery
  rw [kind]
  rfl

theorem Told.last_current {flying : List Message} {coordinator : Coordinator}
    (told : Told language itemId flying coordinator decision) {own : Message}
    (submitted : own ∈ coordinator.submitted) (concerns : own.about itemId)
    (ofRevision : own.messageId.revision = decision.revision) :
    ∃ last, (coordinator.reached itemId).getLast? = some last ∧
      last.text = formatDecisionDelivery language itemId decision := by
  have reached : own ∈ coordinator.reached itemId := mem_filter.mpr ⟨submitted, concerns⟩
  have nonempty : coordinator.reached itemId ≠ [] := ne_nil_of_mem reached
  refine ⟨_, getLast?_eq_some_getLast nonempty, ?_⟩
  have last := getLast_mem nonempty
  obtain ⟨lastSubmitted, lastConcerns⟩ := mem_filter.mp last
  have known := mem_append_right flying (mem_append_left coordinator.queue lastSubmitted)
  have sorted : (coordinator.reached itemId).Pairwise fun earlier later =>
      earlier.messageId.revision ≤ later.messageId.revision := by
    refine told.ordered.sublist (List.Sublist.filter _ ?_)
    exact sublist_append_left _ _
  have later : own.messageId.revision ≤
      ((coordinator.reached itemId).getLast nonempty).messageId.revision := by
    rw [← dropLast_append_getLast nonempty, mem_append, mem_singleton] at reached
    rcases reached with before | rfl
    · rw [← dropLast_append_getLast nonempty, pairwise_append] at sorted
      exact sorted.2.2 own before _ (.head _)
    · exact le_rfl
  have notLater := told.bounded _ known lastConcerns
  exact (told.current _ known lastConcerns (by omega)).2

theorem ToldOf.follows (told : ToldOf language itemId world) (honest : Honest world) :
    KnowledgeFollows language world itemId := by
  intro item decision quiet
  have found : world.items.decision itemId = some decision := by
    simp [MissionItems.decision, quiet.found, quiet.hasDecision]
  have armed := honest.armed itemId decision found
  have said := told decision found
  unfold Informed
  cases has : decision.delivery with
  | none =>
    split
    · exact (said.silent has).2
    rename_i answered
    obtain ⟨delivery, _, there, _⟩ := armed.answering answered
    rw [has] at there
    cases there
  | some delivery =>
    have sent : delivery.state = .sent := by
      have settled := quiet.settled delivery has
      have notAcked := armed.notAcked delivery has
      cases state : delivery.state <;> simp_all
    obtain ⟨ofItem, ofRevision⟩ := armed.ofRevision delivery has
    obtain ⟨own, submitted, named⟩ :=
      mem_map.mp (honest.sent itemId decision delivery found has sent)
    obtain ⟨last, isLast, text⟩ := said.last_current submitted
      (by simp [Message.about, named, ofItem]) (by rw [named, ofRevision])
    split
    · rename_i unanswered
      intro message isMessage
      rw [isLast] at isMessage
      cases isMessage
      exact text.trans (formatDecisionDelivery_undone armed has unanswered)
    · rename_i answered
      exact ⟨last, isLast, formatDecisionDelivery_states armed text answered⟩

/-- In every run, a revision is marked sent only after its own message was submitted; where the
steps about an item keep the coordinator's knowledge, that knowledge follows the answer. -/
theorem knowledge_follows_answer (language : Language) (meshId : String) (world : World)
    (unanswered : Unanswered world) (events : List Event) :
    SentWasSubmitted (OwnerDecisions.run language meshId world events) ∧
      ∀ itemId, KeptRun language meshId itemId world events →
        KnowledgeFollows language (OwnerDecisions.run language meshId world events) itemId := by
  have honest := unanswered.honest.run language meshId events
  refine ⟨honest.sent, fun itemId kept => ?_⟩
  exact (unanswered.toldOf.run unanswered.honest kept).follows honest

end Run

/-! ## An answer taken back while it is sent -/

def plainLanguage : Language where
  trim := id
  trimEnd := id
  toLowerCase := id
  sliceTo text count := String.ofList (text.toList.take count)
  dateParse _ := none
  toISOString _ := ""

def ownerActor : DecisionActor := { answeredBy := .owner, via := .dashboard, ingress := none }

def openDecision : MissionDecision where
  question := "Merge now?"
  options := [⟨"a", "Yes"⟩, ⟨"b", "No"⟩]
  recommended := none
  allowFreeText := false
  dueAt := none
  onDue := .remind
  answer := none
  delivery := none
  answerRevision := none
  remindedAt := none

def oneDecision : World where
  items itemId :=
    if itemId = "merge" then
      some
        { kind := .decision
          state := .openItem
          dedupeKey := none
          decision := some openDecision }
    else none
  inFlight := []
  checks := []
  coordinator := { submitted := [], queue := [], accepted := [] }

def optionRequest (optionId : String) : DecisionAnswerRequest where
  itemId := "merge"
  optionId := some optionId
  text := none
  interpretedFrom := none
  undo := false
  expectedRevision := none

def answersAndSends : List Event :=
  [.answer (optionRequest "a") ownerActor 0, .deliver "merge" 0 false,
    .senderDelivers 0 true ⟨"coordinator", by decide⟩, .sendReturns 0]

/-- The answer is taken back before the coordinator has the message that is being sent. -/
def undoesWhileSending : List Event :=
  [.answer (optionRequest "a") ownerActor 0, .deliver "merge" 0 false,
    .answer { optionRequest "a" with undo := true } ownerActor 0,
    .senderDelivers 0 true ⟨"coordinator", by decide⟩, .sendReturns 0]

theorem oneDecision_unanswered : Unanswered oneDecision where
  unanswered itemId decision found := by
    by_cases same : itemId = "merge"
    · subst same
      cases found
      exact ⟨rfl, rfl⟩
    · simp [MissionItems.decision, oneDecision, same] at found
  noSends := rfl
  noChecks := rfl
  untold := rfl

theorem answered_decision_is_known : Unanswered oneDecision ∧
      KeptRun plainLanguage "mesh" "merge" oneDecision answersAndSends ∧
      KnowledgeFollows plainLanguage (run plainLanguage "mesh" oneDecision answersAndSends)
        "merge" := by
  have kept : KeptRun plainLanguage "mesh" "merge" oneDecision answersAndSends := by
    refine ⟨?_, trivial, ?_, trivial, trivial⟩
    · rintro - ⟨item, decision, -, -, undo, -⟩
      cases undo
    intro send found concerns earlier given
    have untold : (run plainLanguage "mesh" oneDecision (answersAndSends.take 2)).coordinator =
        { submitted := [], queue := [], accepted := [] } := by decide
    change earlier ∈ (run plainLanguage "mesh" oneDecision
      (answersAndSends.take 2)).coordinator.given _ at given
    rw [untold] at given
    cases given
  exact ⟨oneDecision_unanswered, kept,
    (knowledge_follows_answer plainLanguage "mesh" oneDecision oneDecision_unanswered
      answersAndSends).2 "merge" kept⟩

theorem undo_while_sending_leaves_answer : Unanswered oneDecision ∧
      ¬ KnowledgeFollows plainLanguage (run plainLanguage "mesh" oneDecision undoesWhileSending)
        "merge" := by
  refine ⟨oneDecision_unanswered, fun follows => ?_⟩
  have quiet : Quiet (run plainLanguage "mesh" oneDecision undoesWhileSending) "merge"
      { kind := .decision
        state := .openItem
        dedupeKey := none
        decision := some { openDecision with answerRevision := some 2 } }
      { openDecision with answerRevision := some 2 } :=
    { found := by decide
      hasDecision := rfl
      answerable := .inl rfl
      notSending := by decide
      settled := nofun }
  have informed := follows _ _ quiet
  have last : ((run plainLanguage "mesh" oneDecision undoesWhileSending).coordinator.reached
      "merge").getLast? =
        some ⟨⟨"merge", 1, 1⟩, "[owner decision merge] Merge now? → a: Yes"⟩ := by decide
  rw [last] at informed
  exact absurd (informed _ rfl) (by decide)

/-- In every run an answer has a delivery of its own revision that states an answer, an answer
taken back has one that says so, and nothing counts as acknowledged. -/
theorem deliveries_armed (language : Language) (meshId : String) (world : World)
    (unanswered : Unanswered world) (events : List Event) (itemId : String)
    (decision : MissionDecision)
    (found : (run language meshId world events).items.decision itemId = some decision) :
    Armed itemId decision :=
  (unanswered.honest.run language meshId events).armed itemId decision found

theorem deliveries_armed_oneDecision :
    (run plainLanguage "mesh" oneDecision answersAndSends).items.decision "merge" ≠ none ∧
      ∀ decision, (run plainLanguage "mesh" oneDecision answersAndSends).items.decision "merge" =
        some decision → Armed "merge" decision := by
  refine ⟨?_, fun decision found => ?_⟩
  · decide
  · exact deliveries_armed plainLanguage "mesh" oneDecision oneDecision_unanswered
      answersAndSends "merge" decision found

end Adhdev.OwnerDecisions
