import Adhdev.OwnerDecisions.Delivery

/-! # What an answer, a deadline and a delivery write

Every write of a decision either arms a delivery of the next revision, takes the answer back
without one, or keeps the revision and what its delivery says.
-/

namespace Adhdev.OwnerDecisions

/-! ## Answers -/

def MissionDecision.answeredWith (decision : MissionDecision) (itemId : String)
    (answer : MissionDecisionAnswer) (kind : DeliveryKind) : MissionDecision :=
  { decision with
    answer := some answer
    answerRevision := some (decision.revision + 1)
    delivery := some (armedDelivery itemId (decision.revision + 1) kind) }

def MissionDecision.undoneWith (decision : MissionDecision)
    (delivery : Option MissionDecisionDelivery) : MissionDecision :=
  { decision with
    answer := none
    answerRevision := some (decision.revision + 1)
    delivery }

inductive Rewrites (itemId : String) (silently : Prop) (decision : MissionDecision) :
    MissionDecision → Prop
  | kept : Rewrites itemId silently decision decision
  | reminded (time : Option String) :
      Rewrites itemId silently decision { decision with remindedAt := time }
  | answered (answer : MissionDecisionAnswer) (kind : DeliveryKind) (stating : kind ≠ .undone) :
      Rewrites itemId silently decision (decision.answeredWith itemId answer kind)
  | undone :
      Rewrites itemId silently decision
        (decision.undoneWith (some (armedDelivery itemId (decision.revision + 1) .undone)))
  | silenced (allowed : silently) : Rewrites itemId silently decision (decision.undoneWith none)

theorem Rewrites.mono {itemId : String} {silently allowed : Prop}
    {decision later : MissionDecision} (rewrites : Rewrites itemId silently decision later)
    (implies : silently → allowed) : Rewrites itemId allowed decision later := by
  cases rewrites with
  | kept => exact .kept
  | reminded time => exact .reminded time
  | answered answer kind stating => exact .answered answer kind stating
  | undone => exact .undone
  | silenced holds => exact .silenced (implies holds)

/-- The undo of an answer that the coordinator, as the delivery has it, was not told. -/
def UndoesSilently (item : MissionItem) (decision : MissionDecision)
    (req : DecisionAnswerRequest) (actor : DecisionActor) : Prop :=
  req.undo ∧ item.state = .answered ∧ decision.answer ≠ none ∧
    ¬ (isTransferDecisionKey item.dedupeKey ∧ (actor.via = .assistant ∨ actor.via = .push)) ∧
    (∀ expected, req.expectedRevision = some expected → expected = decision.revision) ∧
    (coordinatorWasTold decision.delivery = false ∨
      decision.delivery.bind (·.kind) = some .undone)

theorem answerKind_ne_undone (item : MissionItem) (decision : MissionDecision) :
    answerKind item decision ≠ .undone := by
  unfold answerKind
  dsimp only
  split <;> simp

section Item

variable {language : Language} {item : MissionItem} {decision : MissionDecision}
variable {req : DecisionAnswerRequest} {actor : DecisionActor} {nowMs : Int}

def LeavesRewrite (itemId : String) (silently : Prop) (decision : MissionDecision)
    (written : MissionItem) : Prop :=
  ∃ later, written.decision = some later ∧ Rewrites itemId silently decision later

variable {silently : Prop}

theorem leavesRewrite_same {itemId : String} (has : item.decision = some decision) :
    LeavesRewrite itemId silently decision item :=
  ⟨decision, has, .kept⟩

theorem undoAnswer_rewrites (itemId : String) (has : item.decision = some decision) :
    LeavesRewrite itemId
      (item.state = .answered ∧ decision.answer ≠ none ∧
        (coordinatorWasTold decision.delivery = false ∨
          decision.delivery.bind (·.kind) = some .undone))
      decision (undoAnswer itemId item decision).1 := by
  unfold undoAnswer
  split
  · exact leavesRewrite_same has
  rename_i passes
  rw [not_or, not_not] at passes
  cases told : coordinatorWasTold decision.delivery &&
      decide (decision.delivery.bind (·.kind) ≠ some .undone) with
  | true =>
    refine ⟨_, rfl, ?_⟩
    simp only [if_true]
    exact .undone
  | false =>
    refine ⟨_, rfl, ?_⟩
    simp only [Bool.false_eq_true, if_false]
    refine .silenced ⟨passes.1, passes.2, ?_⟩
    rw [Bool.and_eq_false_iff] at told
    rcases told with untold | undone
    · exact .inl untold
    · exact .inr (by simpa using undone)

theorem writeAnswer_rewrites (itemId optionId text interpretedFrom : String)
    (has : item.decision = some decision) : LeavesRewrite itemId silently decision
      (writeAnswer language itemId item decision optionId text interpretedFrom actor nowMs).1 := by
  unfold writeAnswer
  split
  · exact leavesRewrite_same has
  · exact ⟨_, rfl, .answered _ _ (answerKind_ne_undone item decision)⟩

theorem recordAnswer_rewrites (has : item.decision = some decision) :
    LeavesRewrite req.itemId silently decision
      (recordAnswer language item decision req actor nowMs).1 := by
  unfold recordAnswer
  dsimp only
  split
  · exact leavesRewrite_same has
  split
  · exact leavesRewrite_same has
  split
  · exact leavesRewrite_same has
  split
  · exact leavesRewrite_same has
  split
  · exact leavesRewrite_same has
  · exact writeAnswer_rewrites _ _ _ _ has

theorem answerItem_rewrites (has : item.decision = some decision) :
    LeavesRewrite req.itemId (UndoesSilently item decision req actor) decision
      (answerItem language item decision req actor nowMs).1 := by
  unfold answerItem
  split
  · exact leavesRewrite_same has
  rename_i notTransfer
  split
  · exact leavesRewrite_same has
  split
  · exact leavesRewrite_same has
  rename_i fresh
  split
  · rename_i undoes
    obtain ⟨later, written, rewrites⟩ := undoAnswer_rewrites req.itemId has
    refine ⟨later, written, rewrites.mono fun silent => ?_⟩
    refine ⟨undoes, silent.1, silent.2.1, notTransfer, ?_, silent.2.2⟩
    intro expected asked
    simpa [asked] using fresh
  · exact recordAnswer_rewrites has

end Item

/-! ## The store -/

section Store

variable {items : MissionItems} {itemId other : String}

theorem updateItem_decision (item : MissionItem) :
    (items.updateItem itemId item).decision itemId = item.decision := by
  simp [MissionItems.decision, MissionItems.updateItem]

theorem updateItem_decision_other (item : MissionItem) (different : other ≠ itemId) :
    (items.updateItem itemId item).decision other = items.decision other := by
  simp [MissionItems.decision, MissionItems.updateItem, different]

def BecomesRewrite (itemId : String) (silently : Prop) (before after : MissionItems) : Prop :=
  ∀ decision, after.decision itemId = some decision →
    ∃ earlier, before.decision itemId = some earlier ∧ Rewrites itemId silently earlier decision

theorem becomesRewrite_same {silently : Prop} : BecomesRewrite itemId silently items items :=
  fun decision has => ⟨decision, has, .kept⟩

theorem becomesRewrite_updateItem {silently : Prop} {item written : MissionItem}
    {decision : MissionDecision} (found : items itemId = some item)
    (has : item.decision = some decision)
    (leaves : LeavesRewrite itemId silently decision written) :
    BecomesRewrite other (other = itemId ∧ silently) items (items.updateItem itemId written) := by
  intro later after
  by_cases same : other = itemId
  · subst same
    obtain ⟨left, writtenHas, rewrites⟩ := leaves
    rw [updateItem_decision, writtenHas] at after
    cases after
    exact ⟨decision, by simp [MissionItems.decision, found, has],
      rewrites.mono fun silent => ⟨rfl, silent⟩⟩
  · rw [updateItem_decision_other _ same] at after
    exact ⟨later, after, .kept⟩

def SilentUndo (items : MissionItems) (req : DecisionAnswerRequest) (actor : DecisionActor) :
    Prop :=
  ∃ item decision, items req.itemId = some item ∧ item.decision = some decision ∧
    UndoesSilently item decision req actor

theorem answerMissionDecision_rewrites (language : Language) (req : DecisionAnswerRequest)
    (actor : DecisionActor) (nowMs : Int) :
    BecomesRewrite other (other = req.itemId ∧ SilentUndo items req actor) items
      (answerMissionDecision language items req actor nowMs).1 := by
  unfold answerMissionDecision
  dsimp only
  split
  · exact becomesRewrite_same
  rename_i item found
  split
  · exact becomesRewrite_same
  rename_i decision has
  split
  · exact becomesRewrite_same
  obtain ⟨written, leaves, rewrites⟩ :
      LeavesRewrite req.itemId (UndoesSilently item decision req actor) decision
        (answerItem language item decision req actor nowMs).1 := answerItem_rewrites has
  exact becomesRewrite_updateItem found has
    ⟨written, leaves, rewrites.mono fun silent => ⟨item, decision, found, has, silent⟩⟩

theorem processDeadline_rewrites (language : Language) (nowMs : Int) :
    BecomesRewrite other False items (processDeadline language nowMs items itemId) := by
  unfold processDeadline
  split
  · exact becomesRewrite_same
  rename_i item found
  split
  · exact becomesRewrite_same
  rename_i decision has
  dsimp only
  split
  · exact becomesRewrite_same
  split
  · intro later after
    obtain ⟨earlier, before, rewrites⟩ := answerMissionDecision_rewrites language _ _ _ _ after
    refine ⟨earlier, before, rewrites.mono fun silent => ?_⟩
    obtain ⟨-, -, -, -, -, undo, -⟩ := silent
    cases undo
  split
  · exact becomesRewrite_same
  intro later after
  have reminds : BecomesRewrite other (other = itemId ∧ False) items
      (items.updateItem itemId
        { item with
          decision := some
            { decision with remindedAt := some (language.toISOString nowMs) } }) :=
    becomesRewrite_updateItem found has ⟨_, rfl, .reminded _⟩
  obtain ⟨earlier, before, rewrites⟩ := reminds later after
  exact ⟨earlier, before, rewrites.mono fun silent => silent.2⟩

end Store

end Adhdev.OwnerDecisions
