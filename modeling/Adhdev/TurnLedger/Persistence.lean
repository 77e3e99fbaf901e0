import Adhdev.TurnLedger.Consistency
import Adhdev.TurnLedger.Replays

/-! # The tables follow the reducer

Every stored attempt is consistent with its stored active holds, and the holds of
one attempt are apart from those of every other. After each step that is not
rolled back the tables hold exactly the attempt and the hold set that the reducer
returned. -/

namespace Adhdev.TurnLedger

open MeshShared TurnTables List KeyedMap

/-! ## Hold ids -/

theorem colon_notMem_holdReasonName (reason : HoldReason) :
    ':' ∉ (holdReasonName reason).toList := by
  cases reason <;> decide

theorem attemptId_of_holdId {left right : String} {leftReason rightReason : HoldReason}
    (same : holdId left leftReason = holdId right rightReason) : left = right := by
  have chars := congrArg String.toList same
  simp only [holdId, String.toList_append, append_assoc] at chars
  have colon : ":".toList = [':'] := rfl
  rw [colon, singleton_append, singleton_append] at chars
  rcases append_eq_append_iff.mp chars with ⟨between, prefixed, rest⟩ | ⟨between, prefixed, rest⟩
  · cases between with
    | nil => exact String.toList_injective (by simpa using prefixed.symm)
    | cons char chars =>
      rw [cons_append, cons.injEq] at rest
      have inside : ':' ∈ (holdReasonName leftReason).toList := by
        rw [rest.2]
        simp
      exact absurd inside (colon_notMem_holdReasonName leftReason)
  cases between with
  | nil => exact String.toList_injective (by simpa using prefixed)
  | cons char chars =>
    rw [cons_append, cons.injEq] at rest
    have inside : ':' ∈ (holdReasonName rightReason).toList := by
      rw [rest.2]
      simp
    exact absurd inside (colon_notMem_holdReasonName rightReason)

/-! ## Active holds -/

section ActiveHolds

variable {tables : TurnTables} {attemptId : String}

variable {hold : TurnHold}

theorem mem_activeHolds : hold ∈ tables.activeHolds attemptId ↔
      ∃ row ∈ tables.holds, row.active = true ∧ row.hold.attemptId = attemptId ∧
        row.hold = hold := by
  simp only [activeHolds, mem_insertionSort, mem_map, mem_filter,
    Bool.and_eq_true, beq_iff_eq, mem_def]
  constructor
  · rintro ⟨row, ⟨member, active, own⟩, equal⟩
    exact ⟨row, member, active, own, equal⟩
  · rintro ⟨row, member, active, own, equal⟩
    exact ⟨row, ⟨member, active, own⟩, equal⟩

theorem nodup_activeHolds (tables : TurnTables) (attemptId : String) :
    ((tables.activeHolds attemptId).map TurnHold.holdId).Nodup := by
  have kept : ((tables.holds.entries.filter fun row =>
      row.active && row.hold.attemptId == attemptId).map HoldRow.holdId).Nodup :=
    tables.holds.nodup.sublist (filter_sublist.map _)
  have ids : (((tables.holds.entries.filter fun row =>
      row.active && row.hold.attemptId == attemptId).map HoldRow.hold).map
        TurnHold.holdId).Nodup := by
    rw [map_map]
    exact kept
  exact ((perm_insertionSort _ _).map TurnHold.holdId).nodup_iff.mpr ids

theorem activeHolds_of_holds {after : TurnTables} (same : after.holds = tables.holds)
    (attemptId : String) : after.activeHolds attemptId = tables.activeHolds attemptId := by
  simp only [activeHolds, same]

/-- The hold rows are as the reducer names them. -/
def HoldsNamed (tables : TurnTables) : Prop :=
  ∀ row ∈ tables.holds, row.hold.holdId = holdId row.hold.attemptId row.hold.reason

variable {holds : List TurnHold} {nowMs : Int} {attempt : TurnAttempt}

theorem hold_resolveUnless (keep : List String) (row : HoldRow) :
    (resolveUnless attemptId keep nowMs row).hold = row.hold := by
  unfold resolveUnless
  split <;> rfl

theorem mem_holds_syncHolds (distinct : (holds.map TurnHold.holdId).Nodup) {row : HoldRow} :
    row ∈ (tables.syncHolds attemptId holds nowMs).holds ↔
      (∃ hold ∈ holds, row = ⟨hold, true, none⟩) ∨
        (∃ old ∈ tables.holds,
          row = resolveUnless attemptId (holds.map TurnHold.holdId) nowMs old) ∧
        row.holdId ∉ holds.map TurnHold.holdId := by
  have folded : (tables.syncHolds attemptId holds nowMs).holds =
      (holds.map fun hold => (⟨hold, true, none⟩ : HoldRow)).foldl set
        (tables.resolveHolds attemptId (holds.map TurnHold.holdId) nowMs) := by
    rw [foldl_map]
    rfl
  have keys : (holds.map fun hold => (⟨hold, true, none⟩ : HoldRow)).map HoldRow.holdId =
      holds.map TurnHold.holdId := by
    rw [map_map]
    rfl
  have resolved : row ∈ tables.resolveHolds attemptId (holds.map TurnHold.holdId) nowMs ↔
      ∃ old ∈ tables.holds,
        row = resolveUnless attemptId (holds.map TurnHold.holdId) nowMs old := by
    simp only [mem_def, resolveHolds, mem_map, eq_comm]
  rw [folded, mem_foldl_set (by rw [keys]; exact distinct), keys, resolved]
  simp only [mem_map, eq_comm]

theorem mem_activeHolds_syncHolds (distinct : (holds.map TurnHold.holdId).Nodup)
    (own : ∀ hold ∈ holds, hold.attemptId = attemptId) :
    hold ∈ (tables.syncHolds attemptId holds nowMs).activeHolds attemptId ↔ hold ∈ holds := by
  rw [mem_activeHolds]
  constructor
  · rintro ⟨row, member, active, mine, rfl⟩
    rcases (mem_holds_syncHolds distinct).mp member with
      ⟨fresh, isFresh, rfl⟩ | ⟨⟨old, _, rfl⟩, absent⟩
    · exact isFresh
    exfalso
    unfold resolveUnless at active mine absent
    split at active
    · cases active
    rename_i kept
    rw [if_neg kept] at mine absent
    apply kept
    simp [active, mine, absent]
  intro member
  refine ⟨⟨hold, true, none⟩, (mem_holds_syncHolds distinct).mpr (.inl ⟨hold, member, rfl⟩), rfl,
    own hold member, rfl⟩

theorem mem_activeHolds_syncHolds_of_ne (named : HoldsNamed tables)
    (shaped : HoldsShaped attempt holds) (differs : attemptId ≠ attempt.attemptId) :
    hold ∈ (tables.syncHolds attempt.attemptId holds nowMs).activeHolds attemptId ↔
      hold ∈ tables.activeHolds attemptId := by
  rw [mem_activeHolds, mem_activeHolds]
  constructor
  · rintro ⟨row, member, active, mine, rfl⟩
    rcases (mem_holds_syncHolds shaped.nodup).mp member with
      ⟨fresh, isFresh, rfl⟩ | ⟨⟨old, isOld, rfl⟩, _⟩
    · exact absurd (mine.symm.trans (shaped.shape fresh isFresh).attemptId) differs
    · refine ⟨old, isOld, ?_, ?_, (hold_resolveUnless _ old).symm⟩
      · unfold resolveUnless at active
        split at active
        · cases active
        · exact active
      · rw [hold_resolveUnless] at mine
        exact mine
  rintro ⟨row, member, active, mine, rfl⟩
  refine ⟨row, (mem_holds_syncHolds shaped.nodup).mpr (.inr ⟨⟨row, member, ?_⟩, ?_⟩), active,
    mine, rfl⟩
  · simp [resolveUnless, mine, differs]
  · intro taken
    rcases mem_map.mp taken with ⟨fresh, isFresh, sameId⟩
    have shape := shaped.shape fresh isFresh
    have same : holdId attempt.attemptId fresh.reason = holdId attemptId row.hold.reason := by
      rw [← shape.holdId, ← mine, ← named row member]
      exact sameId
    exact differs (attemptId_of_holdId same).symm

theorem holdsNamed_syncHolds (named : HoldsNamed tables) (shaped : HoldsShaped attempt holds) :
    HoldsNamed (tables.syncHolds attempt.attemptId holds nowMs) := by
  intro row member
  rcases (mem_holds_syncHolds shaped.nodup).mp member with
    ⟨fresh, isFresh, rfl⟩ | ⟨⟨old, isOld, rfl⟩, _⟩
  · have shape := shaped.shape fresh isFresh
    rw [shape.attemptId]
    exact shape.holdId
  · rw [hold_resolveUnless]
    exact named old isOld

end ActiveHolds

/-! ## Stored attempts -/

def TurnTables.Stores (tables : TurnTables) (attempt : TurnAttempt) : Prop :=
  ∃ row ∈ tables.attempts, row.attempt = attempt

section Reading

variable {tables : TurnTables} {attempt : TurnAttempt}

theorem getAttempt_of_stores (stores : tables.Stores attempt) :
    tables.getAttempt attempt.attemptId = some attempt := by
  rcases stores with ⟨row, member, rfl⟩
  have unique : ∀ entry ∈ tables.attempts.entries, entry.attemptId = row.attemptId →
      entry = row := fun entry isEntry same => eq_of_key isEntry member same
  have found := lookup_of_mem unique member
  rw [getAttempt]
  exact congrArg (Option.map AttemptRow.attempt) found

theorem stores_of_getAttempt {attemptId : String}
    (found : tables.getAttempt attemptId = some attempt) : tables.Stores attempt := by
  rcases Option.map_eq_some_iff.mp found with ⟨row, isRow, equal⟩
  exact ⟨row, mem_of_lookup isRow, equal⟩

theorem stores_of_findOpenAttemptForSession {sessionId : String}
    (found : tables.findOpenAttemptForSession sessionId = some attempt) :
    tables.Stores attempt ∧ attempt.sessionId = sessionId ∧ attempt.terminal = none := by
  rcases Option.map_eq_some_iff.mp found with ⟨row, isRow, equal⟩
  have matches_ := find?_some isRow
  simp only [Bool.and_eq_true, beq_iff_eq, AttemptRow.isOpen, Option.isNone_iff_eq_none] at matches_
  subst equal
  exact ⟨⟨row, mem_of_find?_eq_some isRow, rfl⟩, matches_.1, matches_.2⟩

theorem mem_of_foldl_choice {α : Type} {choice : Option α → α → Option α}
    (chooses : ∀ best row chosen, choice best row = some chosen → chosen = row ∨ best = some chosen)
    {rows : List α} {start : Option α} {row : α} (found : rows.foldl choice start = some row) :
    row ∈ rows ∨ start = some row := by
  induction rows generalizing start with
  | nil => exact .inr found
  | cons head rows induction =>
    rcases induction found with later | now
    · exact .inl (.tail _ later)
    rcases chooses start head row now with equal | kept
    · exact .inl (equal ▸ mem_cons_self)
    · exact .inr kept

theorem stores_of_findLatestAttemptForTask {taskId : String}
    (found : tables.findLatestAttemptForTask taskId = some attempt) : tables.Stores attempt := by
  rcases Option.map_eq_some_iff.mp found with ⟨row, isRow, rfl⟩
  refine (mem_of_foldl_choice ?_ isRow).elim
    (fun member => ⟨row, mem_of_mem_filter member, rfl⟩) nofun
  intro best next chosen isChosen
  cases best with
  | none => exact .inl (Option.some.inj isChosen).symm
  | some best =>
    dsimp only at isChosen
    split at isChosen
    · exact .inl (Option.some.inj isChosen).symm
    · exact .inr isChosen

theorem stores_of_resolveAttempt {evidence : TurnEvidence}
    (resolved : resolveAttempt tables evidence = some attempt) : tables.Stores attempt := by
  unfold resolveAttempt at resolved
  split at resolved
  · exact stores_of_getAttempt resolved
  · exact stores_of_getAttempt resolved
  · exact stores_of_getAttempt resolved
  · exact stores_of_findLatestAttemptForTask resolved
  · exact (stores_of_findOpenAttemptForSession resolved).1

end Reading

/-! ## The invariant of the tables -/

variable {attempt : TurnAttempt}

theorem Consistent.of_mem {left right : List TurnHold}
    (consistent : Consistent attempt left) (same : ∀ hold, hold ∈ right ↔ hold ∈ left)
    (distinct : (right.map TurnHold.holdId).Nodup) : Consistent attempt right where
  phase := consistent.phase
  shaped := ⟨fun hold member => consistent.shaped.shape hold ((same hold).mp member), distinct⟩
  released ended := by
    have nothing := consistent.released ended
    apply eq_nil_iff_forall_not_mem.mpr
    intro hold member
    rw [same hold, nothing] at member
    exact absurd member not_mem_nil
  previous := consistent.previous
  dated := consistent.dated

theorem Consistent.withOwner {holds : List TurnHold}
    (consistent : Consistent attempt holds) (ownerDaemonId : String) :
    Consistent { attempt with ownerDaemonId := ownerDaemonId } holds where
  phase := by
    cases consistent.phase with
    | running live idle unended => exact .running live idle unended
    | stopping state pending unconfirmed unended mesh =>
      exact .stopping state pending unconfirmed unended mesh
    | ended recorded state => exact .ended recorded state
  shaped := consistent.shaped.transport rfl rfl
  released := consistent.released
  previous := consistent.previous
  dated := ⟨consistent.dated.report, consistent.dated.suspension⟩

structure TurnTables.Sound (tables : TurnTables) : Prop where
  consistent : ∀ attempt, tables.Stores attempt →
    Consistent attempt (tables.activeHolds attempt.attemptId)
  named : HoldsNamed tables
  oneOpen : ∀ left right, tables.Stores left → tables.Stores right →
    left.terminal = none → right.terminal = none → left.sessionId = right.sessionId →
      left.attemptId = right.attemptId
  keyed : ∀ row ∈ tables.events, ∀ kind, row.kind = .evidence kind → row.dedupeKey = row.eventId

theorem sound_empty : TurnTables.empty.Sound where
  consistent := by
    rintro attempt ⟨row, member, _⟩
    cases member
  named := by
    intro row member
    cases member
  oneOpen := by
    rintro left right ⟨row, member, _⟩
    cases member
  keyed := by
    intro row member
    cases member

/-! ## Events -/

section Events

variable {tables after : TurnTables}

theorem TurnTables.Sound.of_events (sound : tables.Sound)
    (attempts : after.attempts = tables.attempts) (holds : after.holds = tables.holds)
    (keyed : ∀ row ∈ after.events, ∀ kind, row.kind = .evidence kind →
      row.dedupeKey = row.eventId) : after.Sound where
  consistent attempt stores := by
    rw [activeHolds_of_holds holds]
    exact sound.consistent attempt (by rwa [Stores, attempts] at stores)
  named := by
    rw [HoldsNamed, holds]
    exact sound.named
  oneOpen left right leftStored rightStored := by
    apply sound.oneOpen left right
    · rwa [Stores, attempts] at leftStored
    · rwa [Stores, attempts] at rightStored
  keyed := keyed

def EventRow.Keyed (row : EventRow) : Prop :=
  ∀ kind, row.kind = .evidence kind → row.dedupeKey = row.eventId

variable {row : EventRow}

theorem sound_setEvent (sound : tables.Sound) (keyed : row.Keyed) :
    TurnTables.Sound { tables with events := tables.events.set row } := by
  apply sound.of_events
  · rfl
  · rfl
  intro other member
  rcases mem_set.mp member with rfl | ⟨isOld, _⟩
  · exact keyed
  · exact sound.keyed other isOld

theorem sound_insertEvent (sound : tables.Sound) (keyed : row.Keyed)
    (inserted : tables.insertEvent row = some after) : after.Sound := by
  rw [eq_of_insertEvent inserted]
  exact sound_setEvent sound keyed

theorem mem_events_of_foldsInto {row previous : EventRow}
    (folds : tables.foldsInto row = some previous) : previous ∈ tables.events := by
  unfold foldsInto at folds
  split at folds
  · split at folds
    · cases folds
    have latest := (Option.filter_eq_some_iff.mp folds).1
    refine (mem_of_foldl_choice ?_ latest).elim mem_of_mem_filter nofun
    intro best next chosen isChosen
    cases best with
    | none => exact .inl (Option.some.inj isChosen).symm
    | some best =>
      dsimp only at isChosen
      split at isChosen
      · exact .inl (Option.some.inj isChosen).symm
      · exact .inr isChosen
  · cases folds

theorem sound_recordEvidence (sound : tables.Sound) (keyed : row.Keyed)
    (recorded : tables.recordEvidence row = some after) :
    after.Sound ∧ after.attempts = tables.attempts ∧ after.holds = tables.holds := by
  unfold recordEvidence at recorded
  split at recorded
  · rename_i previous folds
    split at recorded
    · cases recorded
    split at recorded
    · rename_i evidence _
      cases recorded
      have isKeyed : (foldSample previous evidence).Keyed :=
        sound.keyed previous (mem_events_of_foldsInto folds)
      exact ⟨sound_setEvent sound isKeyed, rfl, rfl⟩
    · cases recorded
  · rw [eq_of_insertEvent recorded]
    exact ⟨sound_setEvent sound keyed, rfl, rfl⟩

theorem sound_insertDerived {rows : List EventRow} (sound : tables.Sound)
    (keyed : ∀ row ∈ rows, row.Keyed) (derived : insertDerived tables rows = .ok after) :
    after.Sound ∧ after.attempts = tables.attempts ∧ after.holds = tables.holds := by
  induction rows generalizing tables with
  | nil =>
    cases derived
    exact ⟨sound, rfl, rfl⟩
  | cons row rows induction =>
    have rest : ∀ other ∈ rows, other.Keyed := (forall_mem_cons.mp keyed).2
    unfold insertDerived at derived
    split at derived
    · rename_i inserted isInserted
      have soundInserted := sound_insertEvent sound (keyed row mem_cons_self) isInserted
      rcases induction soundInserted rest derived with ⟨soundAfter, attempts, holds⟩
      rw [eq_of_insertEvent isInserted] at attempts holds
      exact ⟨soundAfter, attempts, holds⟩
    split at derived
    · cases derived
    · exact induction sound rest derived

theorem keyed_effectEventRows {evidence : TurnEvidence} {attempt : TurnAttempt} {nowMs : Int}
    {effects : List TurnEffect} (member : row ∈ effectEventRows evidence attempt nowMs effects) :
    row.Keyed := by
  rcases mem_filterMap.mp member with ⟨effect, _, isRow⟩
  intro kind isEvidence
  unfold effectEventRow at isRow
  split at isRow
  · cases isRow
    cases isEvidence
  · split at isRow
    · cases isRow
      cases isEvidence
    · cases isRow
  · cases isRow
    cases isEvidence
  · cases isRow
    cases isEvidence
  · cases isRow
    cases isEvidence
  · cases isRow

end Events

/-! ## The reducer's result -/

theorem AttemptStep.identity {input : ReduceInput} {next : TurnAttempt}
    {result : ReduceResult} (step : AttemptStep input attempt result)
    (consistent : Consistent attempt input.holds) (present : result.attempt = some next) :
    next.attemptId = attempt.attemptId ∧ (next.terminal = none → attempt.terminal = none) := by
  cases step with
  | unchanged same _ _ =>
    rw [same, Option.some.injEq] at present
    subst present
    exact ⟨rfl, id⟩
  | moved _ _ _ isNext moved _ _ _ _ =>
    rw [isNext, Option.some.injEq] at present
    subst present
    refine ⟨congrArg AttemptCore.attemptId moved.core, fun unended => ?_⟩
    exact (congrArg AttemptCore.terminal moved.core).symm.trans unended
  | settled _ _ live _ _ settled yields _ =>
    have unended := (consistent.phase.idle_of_live live).2
    refine ⟨?_, fun _ => unended⟩
    rw [yields.attempt] at present
    cases settled with
    | committed within committed =>
      rcases committed.ended with ⟨terminal, isNext, _⟩
      rw [isNext, Option.some.injEq] at present
      rw [← present]
      exact within.attemptId
    | stopBegun within _ _ begun =>
      rw [begun.stopping, Option.some.injEq] at present
      rw [← present]
      exact within.attemptId
  | stopping _ _ state pending step yields =>
    rcases consistent.phase.stop_of_stopping state with ⟨_, _, _, unended, _⟩
    refine ⟨?_, fun _ => unended⟩
    rw [yields.attempt] at present
    cases step with
    | waits _ _ waits =>
      rcases waits.waits with ⟨waited, after, _, isNext, within⟩
      rw [isNext, Option.some.injEq] at present
      rw [← present]
      exact within.attemptId
    | confirmed _ _ committed | unreachable _ _ committed =>
      rcases committed.committed with ⟨base, strength, within, ended⟩
      rcases ended.ended with ⟨terminal, isNext, _⟩
      rw [isNext, Option.some.injEq] at present
      rw [← present]
      exact within.attemptId
    | requeued _ _ _ requeued =>
      rw [requeued.next, Option.some.injEq] at present
      rw [← present]
      rfl

section Reduced

variable {selfDaemonId : String} {policy : TurnPolicy} {tables : TurnTables}
  {attempt : Option TurnAttempt} {input : ObserveInput}

def TurnTables.StoresOption (tables : TurnTables) (attempt : Option TurnAttempt) : Prop :=
  ∀ stored, attempt = some stored → tables.Stores stored

structure Reduced (attempt : Option TurnAttempt) (result : LedgerResult) : Prop where
  consistent : ∀ next, result.attempt = some next → Consistent next result.holds
  identity : ∀ before, attempt = some before → ∃ next, result.attempt = some next ∧
    next.attemptId = before.attemptId ∧ (next.terminal = none → before.terminal = none)

theorem reduced_reduceStep (sound : tables.Sound) (stored : tables.StoresOption attempt) :
    Reduced attempt (reduceStep selfDaemonId policy tables attempt input) := by
  cases attempt with
  | none =>
    have step : OpeningStep (stepInput policy tables none input)
        (reduce (stepInput policy tables none input)) := openingStep_reduce rfl rfl
    have opened := consistent_of_openingStep step
    refine ⟨?_, fun _ impossible => by cases impossible⟩
    intro next present
    change Consistent next (reduce (stepInput policy tables none input)).holds
    simp only [reduceStep, ownOpened] at present
    split at present
    · rcases Option.map_eq_some_iff.mp present with ⟨plain, isPlain, equal⟩
      have consistent := LedgerState.Consistent.of_present opened isPlain
      subst equal
      exact consistent.withOwner selfDaemonId
    · exact LedgerState.Consistent.of_present opened present
  | some before =>
    have consistent := sound.consistent before (stored before rfl)
    have step : AttemptStep (stepInput policy tables (some before) input) before
        (reduce (stepInput policy tables (some before) input)) :=
      attemptStep_reduce rfl consistent
    rcases consistent_of_attemptStep rfl consistent step with ⟨next, present, after⟩
    have identity := step.identity consistent present
    constructor
    · intro other isOther
      have same : other = next := Option.mem_unique isOther present
      subst same
      exact after
    intro other isOther
    cases isOther
    exact ⟨next, present, identity⟩

end Reduced

/-! ## Persisting the result -/

section Persisted

variable {tables after : TurnTables} {nowMs : Int}

/-- A row of `attempt` replaced the one with its id. -/
structure Upserted (tables : TurnTables) (attempt : TurnAttempt) (after : TurnTables) : Prop where
  free : tables.openSessionTaken attempt = false
  stores : ∀ other, after.Stores other ↔
    other = attempt ∨ tables.Stores other ∧ other.attemptId ≠ attempt.attemptId
  holds : after.holds = tables.holds

variable {attempt : TurnAttempt} {holds : List TurnHold}

theorem upserted_of_upsertAttempt (isUpserted : tables.upsertAttempt attempt nowMs = .ok after) :
    Upserted tables attempt after := by
  unfold upsertAttempt at isUpserted
  split at isUpserted
  · cases isUpserted
  rename_i free
  split at isUpserted
  · cases isUpserted
  cases isUpserted
  refine ⟨by simpa using free, ?_, rfl⟩
  intro other
  simp only [Stores, KeyedMap.mem_set]
  constructor
  · rintro ⟨row, rfl | ⟨member, differs⟩, rfl⟩
    · exact .inl rfl
    · exact .inr ⟨⟨row, member, rfl⟩, differs⟩
  rintro (rfl | ⟨⟨row, member, rfl⟩, differs⟩)
  · exact ⟨_, .inl rfl, rfl⟩
  · exact ⟨row, .inr ⟨member, differs⟩, rfl⟩

theorem openSessionTaken_eq_false : tables.openSessionTaken attempt = false ↔
      (attempt.terminal = none → ∀ other, tables.Stores other →
        other.attemptId ≠ attempt.attemptId → other.terminal = none →
          other.sessionId ≠ attempt.sessionId) := by
  rw [← Bool.not_eq_true, not_iff_comm]
  simp only [openSessionTaken, Bool.and_eq_true, Option.isNone_iff_eq_none, any_eq_true,
    bne_iff_ne, ne_eq, beq_iff_eq, AttemptRow.isOpen, Stores, not_forall, not_not]
  constructor
  · rintro ⟨unended, other, ⟨row, member, rfl⟩, differs, isOpen, same⟩
    exact ⟨unended, row, member, ⟨differs, isOpen⟩, same⟩
  · rintro ⟨unended, row, member, ⟨differs, isOpen⟩, same⟩
    exact ⟨unended, row.attempt, ⟨row, member, rfl⟩, differs, isOpen, same⟩

/-- `attempt` and its holds are stored, everything else is as before. -/
structure Written (tables : TurnTables) (attempt : TurnAttempt) (holds : List TurnHold)
    (after : TurnTables) : Prop where
  free : tables.openSessionTaken attempt = false
  stores : ∀ other, after.Stores other ↔
    other = attempt ∨ tables.Stores other ∧ other.attemptId ≠ attempt.attemptId
  own : ∀ hold, hold ∈ after.activeHolds attempt.attemptId ↔ hold ∈ holds
  others : ∀ attemptId, attemptId ≠ attempt.attemptId → ∀ hold,
    hold ∈ after.activeHolds attemptId ↔ hold ∈ tables.activeHolds attemptId
  named : HoldsNamed after

theorem written_syncHolds {upserted : TurnTables} (named : HoldsNamed tables)
    (isUpserted : Upserted tables attempt upserted) (shaped : HoldsShaped attempt holds) :
    Written tables attempt holds (upserted.syncHolds attempt.attemptId holds nowMs) := by
  have namedUpserted : HoldsNamed upserted := by
    rw [HoldsNamed, isUpserted.holds]
    exact named
  constructor
  · exact isUpserted.free
  · exact isUpserted.stores
  · intro hold
    exact mem_activeHolds_syncHolds shaped.nodup fun own member =>
      (shaped.shape own member).attemptId
  · intro attemptId differs hold
    rw [mem_activeHolds_syncHolds_of_ne namedUpserted shaped differs,
      activeHolds_of_holds isUpserted.holds]
  · exact holdsNamed_syncHolds namedUpserted shaped

theorem Written.sound (sound : tables.Sound)
    (written : Written tables attempt holds after) (consistent : Consistent attempt holds)
    (events : after.events = tables.events) : after.Sound where
  consistent other stores := by
    rcases (written.stores other).mp stores with rfl | ⟨old, differs⟩
    · exact consistent.of_mem written.own (nodup_activeHolds _ _)
    · exact (sound.consistent other old).of_mem (written.others _ differs) (nodup_activeHolds _ _)
  named := written.named
  oneOpen left right leftStored rightStored leftOpen rightOpen same := by
    have free := openSessionTaken_eq_false.mp written.free
    by_contra differs
    rcases (written.stores left).mp leftStored with rfl | ⟨leftOld, leftDiffers⟩
    · rcases (written.stores right).mp rightStored with rfl | ⟨rightOld, rightDiffers⟩
      · exact differs rfl
      · exact free leftOpen right rightOld rightDiffers rightOpen same.symm
    rcases (written.stores right).mp rightStored with rfl | ⟨rightOld, rightDiffers⟩
    · exact free rightOpen left leftOld leftDiffers leftOpen same
    · exact differs (sound.oneOpen left right leftOld rightOld leftOpen rightOpen same)
  keyed := by
    rw [events]
    exact sound.keyed

theorem Written.of_same {final : TurnTables}
    (written : Written tables attempt holds after) (sameAttempts : final.attempts = after.attempts)
    (sameHolds : final.holds = after.holds) : Written tables attempt holds final where
  free := written.free
  stores other := by
    rw [Stores, sameAttempts]
    exact written.stores other
  own := by
    rw [activeHolds_of_holds sameHolds]
    exact written.own
  others attemptId := by
    rw [activeHolds_of_holds sameHolds]
    exact written.others attemptId
  named := by
    rw [HoldsNamed, sameHolds]
    exact written.named

inductive AttemptPersisted (tables : TurnTables) (result : LedgerResult) (after : TurnTables) :
    Prop
  | written {next : TurnAttempt} (applied : result.verdict = .applied)
      (present : result.attempt = some next) (written : Written tables next result.holds after)
  | skipped (skips : result.verdict ≠ .applied ∨ result.attempt = none)
      (sameAttempts : after.attempts = tables.attempts) (sameHolds : after.holds = tables.holds)

variable {result : LedgerResult}

theorem attemptPersisted_of_persistAttempt (named : HoldsNamed tables)
    (consistent : ∀ next, result.attempt = some next → Consistent next result.holds)
    (persisted : persistAttempt tables result nowMs = .ok after) :
    AttemptPersisted tables result after := by
  unfold persistAttempt at persisted
  split at persisted
  · rename_i next applied present
    split at persisted
    · cases persisted
    rename_i upserted isUpserted
    cases persisted
    exact .written applied present (written_syncHolds named
      (upserted_of_upsertAttempt isUpserted) (consistent next present).shaped)
  rename_i skips
  cases persisted
  refine .skipped ?_ rfl rfl
  by_contra both
  rw [not_or, not_not] at both
  rcases Option.ne_none_iff_exists.mp both.2 with ⟨next, isNext⟩
  exact skips next both.1 isNext.symm

theorem AttemptPersisted.sound (sound : tables.Sound)
    (consistent : ∀ next, result.attempt = some next → Consistent next result.holds)
    (events : after.events = tables.events) (persisted : AttemptPersisted tables result after) :
    after.Sound := by
  cases persisted with
  | written _ present written => exact written.sound sound (consistent _ present) events
  | skipped _ sameAttempts sameHolds =>
    apply sound.of_events sameAttempts sameHolds
    rw [events]
    exact sound.keyed

theorem keyed_evidenceRow (evidence : TurnEvidence) (options : ObserveOptions) (nowMs : Int)
    (before : Option TurnAttempt) (result : LedgerResult) :
    (evidenceRow evidence options nowMs before result).Keyed := fun _ _ => rfl

theorem attemptPersisted_of_persistStep {evidence : TurnEvidence} {options : ObserveOptions}
    {hostThrows : Bool} {before : Option TurnAttempt} (sound : tables.Sound)
    (consistent : ∀ next, result.attempt = some next → Consistent next result.holds)
    (persists : persistStep tables evidence options nowMs hostThrows before result = .ok after) :
    after.Sound ∧ AttemptPersisted tables result after := by
  rcases persistedStep_of_persistStep persists with ⟨persisted, recorded, step⟩
  have attempts := attemptPersisted_of_persistAttempt sound.named consistent step.attempts
  have soundPersisted := attempts.sound sound consistent (events_persistAttempt step.attempts)
  rcases sound_recordEvidence soundPersisted (keyed_evidenceRow _ _ _ _ _) step.records with
    ⟨soundRecorded, recordedAttempts, recordedHolds⟩
  rcases step.derived with ⟨rows, derived, which⟩
  have keyed : ∀ row ∈ rows, row.Keyed := by
    intro row member
    rcases which with rfl | ⟨subject, rfl⟩
    · cases member
    · exact keyed_effectEventRows member
  rcases sound_insertDerived soundRecorded keyed derived with
    ⟨soundAfter, derivedAttempts, derivedHolds⟩
  have sameAttempts := derivedAttempts.trans recordedAttempts
  have sameHolds := derivedHolds.trans recordedHolds
  refine ⟨soundAfter, ?_⟩
  cases attempts with
  | written applied present written =>
    exact .written applied present (written.of_same sameAttempts sameHolds)
  | skipped skips attempts holds =>
    exact .skipped skips (sameAttempts.trans attempts) (sameHolds.trans holds)

end Persisted

end Adhdev.TurnLedger
