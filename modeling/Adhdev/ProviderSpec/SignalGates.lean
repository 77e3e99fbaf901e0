import Adhdev.ProviderSpec.Conditions

/-! When a signal leaf blocks a transition: the leaf passes, so it is the leaves
under an odd number of `not`s that can hold a session in its state. -/

namespace Adhdev.ProviderSpec

open List Option Bool

variable (frame : Frame)

/-- `any []` fails and `all []` passes on every screen. -/
def FsmCondition.constant : Bool → FsmCondition
  | true => .all []
  | false => .any []

mutual

/-- `chosen` is the guard with a truth value in the place of each signal leaf. -/
def Chooses : FsmCondition → FsmCondition → Prop
  | .signal _, chosen => ∃ value, chosen = .constant value
  | .all children, chosen => ∃ each, ChoosesEach children each ∧ chosen = .all each
  | .any children, chosen => ∃ each, ChoosesEach children each ∧ chosen = .any each
  | .not child, chosen => ∃ one, Chooses child one ∧ chosen = .not one
  | condition, chosen => chosen = condition

def ChoosesEach : List FsmCondition → List FsmCondition → Prop
  | [], chosen => chosen = []
  | child :: children, chosen =>
    ∃ one each, Chooses child one ∧ ChoosesEach children each ∧ chosen = one :: each

end

/-- What a leaf that is no signal finds on the screen. -/
def leafHolds (absence : Option Absence) : FsmCondition → Bool
  | .elapsed elapsedMs => elapsedMs ≤ frame.clock.now - frame.clock.stateEnteredAt
  | .stable condition =>
    condition.stableMs ≤ frame.clock.now -
      (frame.clock.regionLastChangedAt (stableRegionKey condition)).getD frame.clock.stateEnteredAt
  | .sectionAbsent id =>
    MeshShared.trim (sectionText (absentHay frame absence id).sections (some id) "") = ""
  | .regex condition =>
    evaluateRegex frame.engine condition (regexHay frame absence condition.sectionId)
  | .changed condition => evaluateChanged condition frame.hay frame.prevLines
  | .all _ | .any _ | .not _ | .signal _ => false

mutual

/-- The condition comes to `value` by its other leaves, whatever its signal
leaves under an odd number of `not`s say; those under an even number pass. `odd`
is the parity above it. -/
def comesTo (odd value : Bool) (absence : Option Absence) : FsmCondition → Bool
  | .signal _ => value && !odd
  | .not child => comesTo (!odd) (!value) (absence.map Absence.negated) child
  | .all children =>
    if value then eachComesTo odd value absence children
    else someComesTo odd value absence children
  | .any children =>
    if value then someComesTo odd value absence children
    else eachComesTo odd value absence children
  | leaf => leafHolds frame absence leaf == value

def someComesTo (odd value : Bool) (absence : Option Absence) : List FsmCondition → Bool
  | [] => false
  | child :: children => comesTo odd value absence child || someComesTo odd value absence children

def eachComesTo (odd value : Bool) (absence : Option Absence) : List FsmCondition → Bool
  | [] => true
  | child :: children => comesTo odd value absence child && eachComesTo odd value absence children

end

mutual

/-- Its signal leaves all stand under an even number of `not`s. -/
def SignalsEven (odd : Bool) : FsmCondition → Prop
  | .signal _ => odd = false
  | .not child => SignalsEven (!odd) child
  | .all children | .any children => EachSignalsEven odd children
  | _ => True

def EachSignalsEven (odd : Bool) : List FsmCondition → Prop
  | [] => True
  | child :: children => SignalsEven odd child ∧ EachSignalsEven odd children

end

variable {frame} {absence : Option Absence} {odd value : Bool}
variable {children : List FsmCondition}

theorem someComesTo_iff : someComesTo frame odd value absence children = true ↔
      ∃ child ∈ children, comesTo frame odd value absence child = true := by
  induction children with
  | nil => simp [someComesTo]
  | cons child children induction => rw [someComesTo, or_eq_true, induction, exists_mem_cons_iff]

theorem eachComesTo_iff : eachComesTo frame odd value absence children = true ↔
      ∀ child ∈ children, comesTo frame odd value absence child = true := by
  induction children with
  | nil => simp [eachComesTo]
  | cons child children induction => rw [eachComesTo, and_eq_true, induction, forall_mem_cons]

theorem eachSignalsEven_iff : EachSignalsEven odd children ↔
      ∀ child ∈ children, SignalsEven odd child := by
  induction children with
  | nil => simp [EachSignalsEven]
  | cons child children induction => rw [EachSignalsEven, induction, forall_mem_cons]

theorem exists_chooses (condition : FsmCondition) : ∃ chosen, Chooses condition chosen := by
  have each : ∀ children : List FsmCondition, (∀ child ∈ children, ∃ one, Chooses child one) →
      ∃ chosen, ChoosesEach children chosen := by
    intro children
    induction children with
    | nil => exact fun _ => ⟨[], rfl⟩
    | cons child children induction =>
      intro found
      obtain ⟨one, head⟩ := found child mem_cons_self
      obtain ⟨others, tail⟩ := induction (forall_mem_cons.mp found).2
      exact ⟨one :: others, one, others, head, tail, rfl⟩
  induction condition using FsmCondition.induct with
  | all children found | any children found =>
    obtain ⟨others, chosen⟩ := each children found
    exact ⟨_, others, chosen, rfl⟩
  | not child found =>
    obtain ⟨one, chosen⟩ := found
    exact ⟨_, one, chosen, rfl⟩
  | signal leaf => exact ⟨_, true, rfl⟩
  | _ => exact ⟨_, rfl⟩

variable {good : FsmCondition → Prop}

/-- The choices of the children are independent: one for all of them. -/
theorem choosesEach_all : (∃ chosen, ChoosesEach children chosen ∧ ∀ one ∈ chosen, good one) ↔
      ∀ child ∈ children, ∃ one, Chooses child one ∧ good one := by
  induction children with
  | nil => exact ⟨fun _ _ member => absurd member not_mem_nil, fun _ => ⟨[], rfl, by simp⟩⟩
  | cons child children induction =>
    rw [forall_mem_cons, ← induction]
    constructor
    · rintro ⟨-, ⟨one, each, head, tail, rfl⟩, allGood⟩
      exact ⟨⟨one, head, allGood one mem_cons_self⟩, each, tail, (forall_mem_cons.mp allGood).2⟩
    · rintro ⟨⟨one, head, oneGood⟩, each, tail, eachGood⟩
      exact ⟨one :: each, ⟨one, each, head, tail, rfl⟩, forall_mem_cons.mpr ⟨oneGood, eachGood⟩⟩

/-- One child's choice leaves the others free. -/
theorem choosesEach_some : (∃ chosen, ChoosesEach children chosen ∧ ∃ one ∈ chosen, good one) ↔
      ∃ child ∈ children, ∃ one, Chooses child one ∧ good one := by
  induction children with
  | nil => simp [ChoosesEach]
  | cons child children induction =>
    rw [exists_mem_cons_iff, ← induction]
    constructor
    · rintro ⟨-, ⟨one, each, head, tail, rfl⟩, other, member, found⟩
      rcases mem_cons.mp member with rfl | later
      · exact .inl ⟨other, head, found⟩
      · exact .inr ⟨each, tail, other, later, found⟩
    rintro (⟨one, head, found⟩ | ⟨each, tail, other, member, found⟩)
    · obtain ⟨-, each, tail, -⟩ := exists_chooses (.all children)
      exact ⟨one :: each, ⟨one, each, head, tail, rfl⟩, one, mem_cons_self, found⟩
    · obtain ⟨one, head⟩ := exists_chooses child
      exact ⟨one :: each, ⟨one, each, head, tail, rfl⟩, other, .tail _ member, found⟩

theorem all_eq_false_iff {passes : FsmCondition → Bool} :
    children.all passes = false ↔ ∃ child ∈ children, passes child = false := by
  simp

theorem any_eq_false_iff {passes : FsmCondition → Bool} :
    children.any passes = false ↔ ∀ child ∈ children, passes child = false := by
  simp

theorem someComesTo_eq_false_iff : someComesTo frame odd value absence children = false ↔
      ∀ child ∈ children, comesTo frame odd value absence child = false := by
  rw [← Bool.not_eq_true, someComesTo_iff]
  simp

theorem eachComesTo_eq_false_iff : eachComesTo frame odd value absence children = false ↔
      ∃ child ∈ children, comesTo frame odd value absence child = false := by
  rw [← Bool.not_eq_true, eachComesTo_iff]
  simp

/-- The verdict of the code: a signal leaf passes, which under an odd number of
`not`s speaks against the guard, as the worst choice does. -/
theorem verdict_iff_comesTo (condition : FsmCondition) : ∀ (absence : Option Absence) (odd : Bool),
      verdict frame absence condition = !odd ↔
        comesTo frame odd (!odd) absence condition = true := by
  induction condition using FsmCondition.induct with
  | all children each =>
    intro absence odd
    have found := fun child member => each child member absence odd
    rw [verdict_all, comesTo]
    cases odd with
    | true =>
      rw [Bool.not_true, all_eq_false_iff, if_neg Bool.false_ne_true, someComesTo_iff]
      exact exists_congr fun child => and_congr_right (found child)
    | false =>
      rw [Bool.not_false, List.all_eq_true, if_pos rfl, eachComesTo_iff]
      exact forall₂_congr found
  | any children each =>
    intro absence odd
    have found := fun child member => each child member absence odd
    rw [verdict_any, comesTo]
    cases odd with
    | true =>
      rw [Bool.not_true, any_eq_false_iff, if_neg Bool.false_ne_true, eachComesTo_iff]
      exact forall₂_congr found
    | false =>
      rw [Bool.not_false, List.any_eq_true, if_pos rfl, someComesTo_iff]
      exact exists_congr fun child => and_congr_right (found child)
  | not child found =>
    intro absence odd
    rw [verdict_not, comesTo, ← found, Bool.not_inj_iff, Bool.not_not]
  | signal one =>
    intro absence odd
    rw [verdict_signal, comesTo]
    cases odd <;> simp
  | regex | changed | sectionAbsent | elapsed | stable =>
    intro absence odd
    exact beq_iff_eq.symm

/-- The verdicts that some choice of the signal leaves gives. -/
theorem chosen_verdict_iff (condition : FsmCondition) : ∀ (absence : Option Absence) (odd : Bool),
      (∃ chosen, Chooses condition chosen ∧ verdict frame absence chosen = !odd) ↔
        comesTo frame odd odd absence condition = false := by
  have leaf : ∀ {condition : FsmCondition} (absence : Option Absence) (odd : Bool),
      verdict frame absence condition = leafHolds frame absence condition →
      ((∃ chosen, chosen = condition ∧ verdict frame absence chosen = !odd) ↔
        (leafHolds frame absence condition == odd) = false) := by
    intro condition absence odd holds
    rw [exists_eq_left, holds, beq_eq_false_iff_ne, ← Bool.eq_not]
  induction condition using FsmCondition.induct with
  | all children each =>
    intro absence odd
    have found := fun child member => each child member absence odd
    have split : (∃ chosen, Chooses (.all children) chosen ∧
        verdict frame absence chosen = !odd) ↔
          ∃ chosen, ChoosesEach children chosen ∧ chosen.all (verdict frame absence) = !odd := by
      constructor
      · rintro ⟨-, ⟨chosen, chooses, rfl⟩, same⟩
        exact ⟨chosen, chooses, (verdict_all chosen).symm.trans same⟩
      · rintro ⟨chosen, chooses, same⟩
        exact ⟨_, ⟨chosen, chooses, rfl⟩, (verdict_all chosen).trans same⟩
    rw [split, comesTo]
    cases odd with
    | true =>
      simp only [Bool.not_true, all_eq_false_iff, if_true]
      rw [choosesEach_some, eachComesTo_eq_false_iff]
      exact exists_congr fun child => and_congr_right (found child)
    | false =>
      simp only [Bool.not_false, List.all_eq_true, Bool.false_eq_true, if_false]
      rw [choosesEach_all, someComesTo_eq_false_iff]
      exact forall₂_congr found
  | any children each =>
    intro absence odd
    have found := fun child member => each child member absence odd
    have split : (∃ chosen, Chooses (.any children) chosen ∧
        verdict frame absence chosen = !odd) ↔
          ∃ chosen, ChoosesEach children chosen ∧ chosen.any (verdict frame absence) = !odd := by
      constructor
      · rintro ⟨-, ⟨chosen, chooses, rfl⟩, same⟩
        exact ⟨chosen, chooses, (verdict_any chosen).symm.trans same⟩
      · rintro ⟨chosen, chooses, same⟩
        exact ⟨_, ⟨chosen, chooses, rfl⟩, (verdict_any chosen).trans same⟩
    rw [split, comesTo]
    cases odd with
    | true =>
      simp only [Bool.not_true, any_eq_false_iff, if_true]
      rw [choosesEach_all, someComesTo_eq_false_iff]
      exact forall₂_congr found
    | false =>
      simp only [Bool.not_false, List.any_eq_true, Bool.false_eq_true, if_false]
      rw [choosesEach_some, eachComesTo_eq_false_iff]
      exact exists_congr fun child => and_congr_right (found child)
  | not child found =>
    intro absence odd
    have split : (∃ chosen, Chooses (.not child) chosen ∧
        verdict frame absence chosen = !odd) ↔
          ∃ one, Chooses child one ∧ verdict frame (absence.map Absence.negated) one = !!odd := by
      constructor
      · rintro ⟨-, ⟨one, chooses, rfl⟩, same⟩
        rw [verdict_not] at same
        exact ⟨one, chooses, by simpa using same⟩
      rintro ⟨one, chooses, same⟩
      refine ⟨_, ⟨one, chooses, rfl⟩, ?_⟩
      rw [verdict_not, same, Bool.not_not]
    rw [split, found, comesTo]
  | signal one =>
    intro absence odd
    rw [comesTo, Bool.and_not_self]
    refine iff_of_true ⟨.constant (!odd), ⟨!odd, rfl⟩, ?_⟩ rfl
    cases odd with
    | true => exact verdict_any []
    | false => exact verdict_all []
  | regex | changed | sectionAbsent | elapsed | stable => exact fun _ _ => leaf _ _ rfl

section Settled

variable (found : ∀ child ∈ children, comesTo frame odd value absence child = false →
  comesTo frame odd (!value) absence child = true)
include found

theorem some_of_not_each (fails : eachComesTo frame odd value absence children = false) :
    someComesTo frame odd (!value) absence children = true := by
  obtain ⟨child, member, other⟩ := eachComesTo_eq_false_iff.mp fails
  exact someComesTo_iff.mpr ⟨child, member, found child member other⟩

theorem each_of_not_some (fails : someComesTo frame odd value absence children = false) :
    eachComesTo frame odd (!value) absence children = true :=
  eachComesTo_iff.mpr fun child member =>
    found child member (someComesTo_eq_false_iff.mp fails child member)

end Settled

/-- Without a signal leaf under an odd number of `not`s, the other leaves settle it. -/
theorem comesTo_of_signalsEven (condition : FsmCondition) :
    ∀ (absence : Option Absence) (odd value : Bool), SignalsEven odd condition →
      comesTo frame odd value absence condition = false →
        comesTo frame odd (!value) absence condition = true := by
  have leaf : ∀ {holds value : Bool}, (holds == value) = false → (holds == !value) = true := by
    decide
  induction condition using FsmCondition.induct with
  | all children each =>
    intro absence odd value even
    have found := fun child member =>
      each child member absence odd value (eachSignalsEven_iff.mp even child member)
    cases value with
    | true => exact some_of_not_each found
    | false => exact each_of_not_some found
  | any children each =>
    intro absence odd value even
    have found := fun child member =>
      each child member absence odd value (eachSignalsEven_iff.mp even child member)
    cases value with
    | true => exact each_of_not_some found
    | false => exact some_of_not_each found
  | not child found => exact fun absence odd value even => found _ (!odd) (!value) even
  | signal one =>
    intro absence odd value even
    rw [comesTo, comesTo, show odd = false from even]
    cases value <;> simp
  | regex | changed | sectionAbsent | elapsed | stable => exact fun _ _ _ _ other => leaf other

/-- A guard's verdict is true whenever some choice of its signal leaves would
make it true, exactly when its other leaves settle it without those of its signal
leaves that stand under an odd number of `not`s. -/
theorem signal_never_blocks_iff (frame : Frame) (absence : Option Absence) (guard : FsmCondition) :
    ((∃ chosen, Chooses guard chosen ∧ verdict frame absence chosen = true) →
      verdict frame absence guard = true) ↔
      (comesTo frame false false absence guard || comesTo frame false true absence guard) =
        true := by
  have possible := @chosen_verdict_iff frame guard absence false
  have passes := @verdict_iff_comesTo frame guard absence false
  rw [Bool.not_false] at possible passes
  rw [possible, passes, Bool.or_eq_true]
  cases comesTo frame false false absence guard <;> simp

/-- No session is held in its state by a signal when every signal leaf stands
under an even number of `not`s. -/
theorem even_signals_never_block {guard : FsmCondition} (even : SignalsEven false guard)
    {chosen : FsmCondition} (chooses : Chooses guard chosen)
    (passes : verdict frame absence chosen = true) : verdict frame absence guard = true := by
  refine (signal_never_blocks_iff frame absence guard).mpr ?_ ⟨chosen, chooses, passes⟩
  rw [Bool.or_eq_true, or_iff_not_imp_left, Bool.not_eq_true]
  exact comesTo_of_signalsEven guard absence false false even

/-- `{ not: { signal: 'transcript_growing' } }`: accepted, and false whatever the
screen, the clock and the snapshot are. -/
theorem negated_signal_blocks :
    ∃ guard, validateCondition (fun _ _ => none) [] "transitions[0].when" guard = [] ∧
      ∀ frame absence, verdict frame absence guard = false ∧
        ∃ chosen, Chooses guard chosen ∧ verdict frame absence chosen = true := by
  refine ⟨.not (.signal ⟨"transcript_growing", none⟩), by decide, fun frame absence => ⟨?_, ?_⟩⟩
  · rw [verdict_not, verdict_signal]
    rfl
  refine ⟨.not (.any []), ⟨.any [], ⟨false, rfl⟩, rfl⟩, ?_⟩
  rw [verdict_not, verdict_any]
  rfl

end Adhdev.ProviderSpec
