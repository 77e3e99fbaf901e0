import Adhdev.Contract.BindingMoves

/-! # No affected worker misses a notice

Every active binding that the scan of a descriptor has passed and that the descriptor is about has
its notice, unless a rebind made it active again behind the scan.
-/

namespace Adhdev.Contract

open Call List

def noticeKeys (notices : List ContractNotice) : List String := notices.map (·.noticeKey)

def HasNotice (ctx : NoticeCtx) (notices : List ContractNotice) (descriptor : OutboxRow)
    (binding : BindingRow) : Prop :=
  noticeKeyOf ctx descriptor binding ∈ noticeKeys notices

def Passed (scans : String → ScanState) (descriptor : OutboxRow) (bindingId : String) : Prop :=
  (scans descriptor.acceptanceId).done = true ∨
    ¬ (scans descriptor.acceptanceId).scanCursor < bindingId

structure Concerns (db : ContractDb) (existed : String → List String) (descriptor : OutboxRow)
    (binding : BindingRow) : Prop where
  ofNamespace : binding.namespaceId = descriptor.namespaceId
  existed : binding.bindingId ∈ existed descriptor.acceptanceId
  affected : affects db descriptor binding = true

def NobodyMissed (ctx : NoticeCtx) (world : NoticeWorld) : Prop :=
  ∀ descriptor ∈ world.db.outbox, (world.scans descriptor.acceptanceId).done = true →
    ∀ binding ∈ world.db.bindings, Concerns world.db world.existed descriptor binding →
      binding.state = .active → HasNotice ctx world.notices descriptor binding

def NeverTwo (ctx : NoticeCtx) (world : NoticeWorld) : Prop :=
  ∀ descriptor binding, (world.notices.filter fun notice =>
    notice.noticeKey = noticeKeyOf ctx descriptor binding).length ≤ 1

/-- A rebind makes no binding active that a scan has passed without a notice. -/
def LinksNotified (ctx : NoticeCtx) (world : NoticeWorld) : NoticeEvent → Prop
  | .call _ call => ∀ holder, linkedHolder world.db call = some holder →
      ∀ descriptor ∈ world.db.outbox, Concerns world.db world.existed descriptor holder →
        Passed world.scans descriptor holder.bindingId →
          HasNotice ctx world.notices descriptor holder
  | .processImpactOutbox .. => True

def LinksNotifiedRun (ctx : NoticeCtx) : NoticeWorld → List NoticeEvent → Prop
  | _, [] => True
  | world, event :: events =>
    LinksNotified ctx world event ∧ LinksNotifiedRun ctx (world.step ctx event) events

/-! ## Notices are only added -/

section Keys

variable {ctx : NoticeCtx} {db : ContractDb} {now : Int}

variable {notices : List ContractNotice} {notice : ContractNotice}

theorem mem_insertNotice_keys : notice.noticeKey ∈ noticeKeys (insertNotice notice notices) := by
  rw [insertNotice]
  split_ifs with present
  · exact present
  · simp [noticeKeys]

variable {key : String}

theorem insertNotice_keeps (member : key ∈ noticeKeys notices) :
    key ∈ noticeKeys (insertNotice notice notices) := by
  rw [insertNotice]
  split_ifs
  · exact member
  · rw [noticeKeys, map_append]
    exact mem_append_left _ member

theorem insertNotice_nodup (nodup : (noticeKeys notices).Nodup) :
    (noticeKeys (insertNotice notice notices)).Nodup := by
  rw [insertNotice]
  split_ifs with present
  · exact nodup
  rw [noticeKeys, map_append]
  refine nodup_append.mpr ⟨nodup, nodup_singleton _, ?_⟩
  rintro old isOld new isNew rfl
  rw [map_singleton, mem_singleton] at isNew
  exact present (isNew ▸ isOld)

theorem compactBacklog_keys (bindingId : String) (kind : NoticeKind)
    (notices : List ContractNotice) :
    noticeKeys (compactBacklog ctx bindingId kind notices) = noticeKeys notices := by
  rw [noticeKeys, compactBacklog, map_map]
  refine map_congr_left fun notice _ => ?_
  rw [Function.comp_apply]
  split_ifs <;> rfl

theorem deliverPendingHints_keys (deliver : ContractNotice → Option String)
    (notices : List ContractNotice) :
    noticeKeys (deliverPendingHints deliver notices) = noticeKeys notices := by
  rw [noticeKeys, deliverPendingHints, map_map]
  refine map_congr_left fun notice _ => ?_
  rw [Function.comp_apply]
  split_ifs
  · cases deliver notice <;> rfl
  · rfl

variable {descriptor : OutboxRow} {binding : BindingRow}

theorem noticeBinding_keeps (member : key ∈ noticeKeys notices) :
    key ∈ noticeKeys (noticeBinding ctx db now descriptor notices binding) := by
  rw [noticeBinding]
  split_ifs
  · rw [compactBacklog_keys]
    exact insertNotice_keeps member
  · exact member

theorem noticeBinding_nodup (nodup : (noticeKeys notices).Nodup) :
    (noticeKeys (noticeBinding ctx db now descriptor notices binding)).Nodup := by
  rw [noticeBinding]
  split_ifs
  · rw [compactBacklog_keys]
    exact insertNotice_nodup nodup
  · exact nodup

theorem noticeBinding_has (notices : List ContractNotice)
    (affected : affects db descriptor binding = true) :
    HasNotice ctx (noticeBinding ctx db now descriptor notices binding) descriptor binding := by
  rw [HasNotice, noticeBinding, if_pos affected, compactBacklog_keys]
  exact mem_insertNotice_keys

variable {rows : List BindingRow}

theorem noticeBindings_keeps (member : key ∈ noticeKeys notices) :
    key ∈ noticeKeys (rows.foldl (noticeBinding ctx db now descriptor) notices) := by
  induction rows generalizing notices with
  | nil => exact member
  | cons row rows induction => exact induction (noticeBinding_keeps member)

theorem noticeBindings_nodup (nodup : (noticeKeys notices).Nodup) :
    (noticeKeys (rows.foldl (noticeBinding ctx db now descriptor) notices)).Nodup := by
  induction rows generalizing notices with
  | nil => exact nodup
  | cons row rows induction => exact induction (noticeBinding_nodup nodup)

theorem noticeBindings_has (member : binding ∈ rows) (notices : List ContractNotice)
    (affected : affects db descriptor binding = true) :
    HasNotice ctx (rows.foldl (noticeBinding ctx db now descriptor) notices) descriptor
      binding := by
  induction rows generalizing notices with
  | nil => cases member
  | cons row rows induction =>
    rw [foldl_cons]
    rcases mem_cons.mp member with rfl | later
    · exact noticeBindings_keeps (noticeBinding_has notices affected)
    · exact induction later _

end Keys

/-! ## One descriptor -/

section Scan

variable {ctx : NoticeCtx} {db : ContractDb} {now : Int}

theorem foldl_cursor (rows : List BindingRow) (scanCursor : String) :
    rows.foldl (fun _ row => row.bindingId) scanCursor =
      (rows.getLast?.map (·.bindingId)).getD scanCursor := by
  induction rows generalizing scanCursor with
  | nil => rfl
  | cons row rows induction =>
    rw [foldl_cons, induction]
    cases rows with
    | nil => rfl
    | cons next rest =>
      rw [getLast?_cons_cons]
      cases last : (next :: rest).getLast? with
      | none => simp at last
      | some value => rfl

variable {descriptor : OutboxRow}

theorem mem_scannedBindings {scanCursor : String} {budget : Nat} {binding : BindingRow}
    (distinct : (bindingIds db).Nodup) (member : binding ∈ db.bindings)
    (ofNamespace : binding.namespaceId = descriptor.namespaceId)
    (active : binding.state = .active) (ahead : scanCursor < binding.bindingId)
    (passed : (scannedBindings db descriptor scanCursor budget).length < budget ∨ ¬
      (scannedBindings db descriptor scanCursor budget).foldl (fun _ row => row.bindingId)
      scanCursor < binding.bindingId) :
    binding ∈ scannedBindings db descriptor scanCursor budget := by
  rw [scannedBindings] at passed ⊢
  set candidates := (db.bindings.filter fun row => row.namespaceId = descriptor.namespaceId &&
    row.state = .active && scanCursor < row.bindingId) with isCandidates
  have isCandidate : binding ∈ candidates := by
    rw [isCandidates, mem_filter]
    exact ⟨member, by simp [ofNamespace, active, ahead]⟩
  set sorted := candidates.insertionSort (·.bindingId ≤ ·.bindingId) with isSorted
  have inSorted : binding ∈ sorted := (mem_insertionSort _).mpr isCandidate
  rcases passed with short | behind
  · have all : sorted.take budget = sorted := by
      refine take_of_length_le ?_
      rw [length_take] at short
      omega
    rwa [all]
  by_contra unscanned
  have later : binding ∈ sorted.drop budget := by
    rw [← take_append_drop budget sorted, mem_append] at inSorted
    exact inSorted.resolve_left unscanned
  rw [foldl_cursor] at behind
  cases last : (sorted.take budget).getLast? with
  | none =>
    rw [last] at behind
    exact behind ahead
  | some row =>
    rw [last] at behind
    have isRow : row ∈ sorted.take budget := mem_of_getLast? last
    have order : sorted.Pairwise (·.bindingId ≤ ·.bindingId) := pairwise_insertionSort _ candidates
    rw [← take_append_drop budget sorted, pairwise_append] at order
    have before : row.bindingId ≤ binding.bindingId := order.2.2 row isRow binding later
    have same : row.bindingId = binding.bindingId := le_antisymm before (not_lt.mp behind)
    have rowMember : row ∈ db.bindings := by
      have inCandidates := (mem_insertionSort _).mp (mem_of_mem_take isRow)
      exact mem_of_mem_filter inCandidates
    exact unscanned (inj_on_of_nodup_map distinct rowMember member same ▸ isRow)

structure Scanned (ctx : NoticeCtx) (db : ContractDb) (existed : String → List String)
    (scans : String → ScanState) (notices : List ContractNotice) : Prop where
  keys : (noticeKeys notices).Nodup
  unscanned : ∀ id ∉ descriptorIds db, scans id = .fresh
  covered : ∀ descriptor ∈ db.outbox, ∀ binding ∈ db.bindings,
    Concerns db existed descriptor binding → binding.state = .active →
    Passed scans descriptor binding.bindingId → HasNotice ctx notices descriptor binding

variable {fanOut : FanOut}

theorem scanDescriptor_other {id : String} (other : id ≠ descriptor.acceptanceId) :
    (scanDescriptor ctx db now fanOut descriptor).scans id = fanOut.scans id :=
  Function.update_of_ne other _ _

theorem scanDescriptor_self :
    (scanDescriptor ctx db now fanOut descriptor).scans descriptor.acceptanceId =
      let scan := fanOut.scans descriptor.acceptanceId
      let rows := scannedBindings db descriptor scan.scanCursor fanOut.budget
      { scanCursor := rows.foldl (fun _ row => row.bindingId) scan.scanCursor
        done := scan.done || rows.length < fanOut.budget } :=
  Function.update_self _ _ _

variable {existed : String → List String}

theorem Scanned.scanDescriptor (scanned : Scanned ctx db existed fanOut.scans fanOut.notices)
    (distinct : (bindingIds db).Nodup) (distinctRows : (descriptorIds db).Nodup)
    (member : descriptor ∈ db.outbox) :
    Scanned ctx db existed (scanDescriptor ctx db now fanOut descriptor).scans
      (scanDescriptor ctx db now fanOut descriptor).notices where
  keys := noticeBindings_nodup scanned.keys
  unscanned id unknown := by
    have other : id ≠ descriptor.acceptanceId := by
      rintro rfl
      exact unknown (mem_map_of_mem member)
    rw [scanDescriptor_other other]
    exact scanned.unscanned id unknown
  covered other otherMember binding isBinding concerns active passed := by
    by_cases same : other.acceptanceId = descriptor.acceptanceId
    · have equal := inj_on_of_nodup_map distinctRows otherMember member same
      subst equal
      rw [Passed, scanDescriptor_self] at passed
      by_cases before : Passed fanOut.scans other binding.bindingId
      · exact noticeBindings_keeps
          (scanned.covered other otherMember binding isBinding concerns active before)
      rw [Passed, not_or, not_not] at before
      refine noticeBindings_has ?_ fanOut.notices concerns.affected
      refine mem_scannedBindings distinct isBinding concerns.ofNamespace active before.2 ?_
      refine passed.imp_left fun done => ?_
      rw [Bool.or_eq_true] at done
      exact of_decide_eq_true (done.resolve_left before.1)
    refine noticeBindings_keeps
      (scanned.covered other otherMember binding isBinding concerns active ?_)
    rwa [Passed, scanDescriptor_other same] at passed

theorem Scanned.fanOutOver {descriptors : List OutboxRow}
    (scanned : Scanned ctx db existed fanOut.scans fanOut.notices)
    (distinct : (bindingIds db).Nodup) (distinctRows : (descriptorIds db).Nodup)
    (members : ∀ descriptor ∈ descriptors, descriptor ∈ db.outbox) :
    Scanned ctx db existed (fanOutOver ctx db now fanOut descriptors).scans
      (fanOutOver ctx db now fanOut descriptors).notices := by
  induction descriptors generalizing fanOut with
  | nil => exact scanned
  | cons descriptor rest induction =>
    rw [Contract.fanOutOver]
    split_ifs
    · exact scanned
    exact induction
      (scanned.scanDescriptor distinct distinctRows (members descriptor mem_cons_self))
      fun other member => members other (mem_cons_of_mem descriptor member)

end Scan

/-! ## Worlds -/

structure NoticesSound (ctx : NoticeCtx) (world : NoticeWorld) : Prop where
  distinct : (bindingIds world.db).Nodup
  distinctRows : (descriptorIds world.db).Nodup
  named : ∀ binding ∈ world.db.bindings, "" < binding.bindingId
  pinned : ∀ binding ∈ world.db.bindings, (getPinSet world.db binding.pinSetId).isSome
  known : ∀ descriptor ∈ world.db.outbox, ∀ bindingId ∈ world.existed descriptor.acceptanceId,
    bindingId ∈ bindingIds world.db
  scanned : Scanned ctx world.db world.existed world.scans world.notices

section World

variable {ctx : NoticeCtx} {world : NoticeWorld}

theorem linkedHolder_mem {db : ContractDb} {call : RetentionCall} {holder : BindingRow}
    (linked : linkedHolder db call = some holder) : holder ∈ db.bindings := by
  cases call with
  | rebindToHolder input =>
    rw [linkedHolder] at linked
    split_ifs at linked
    have isHolder : holderBinding db input = some holder := (Option.filter_eq_some_iff.mp linked).1
    have member := mem_of_mem_filter (mem_of_getLast? isHolder)
    exact mem_of_mem_filter ((mem_insertionSort _).mp member)
  | _ => cases linked

theorem newId_named (draws : CallDraws) : "" < draws.env.newId "bnd" := by
  rw [CallDraws.env, String.lt_iff_toList_lt]
  simp

variable {earlier binding : BindingRow}

theorem SameBinding.affects {db later : ContractDb} {descriptor : OutboxRow}
    (same : SameBinding earlier binding)
    (pins : ∀ pinSetId pin, getPinSet db pinSetId = some pin → getPinSet later pinSetId = some pin)
    (pinned : (getPinSet db earlier.pinSetId).isSome) :
    affects later descriptor binding = affects db descriptor earlier := by
  obtain ⟨pin, isPin⟩ := Option.isSome_iff_exists.mp pinned
  have samePin : binding.pinSetId = earlier.pinSetId := by rw [same]
  unfold Contract.affects
  rw [samePin, isPin, pins _ _ isPin]

theorem SameBinding.noticeKey {descriptor : OutboxRow} (same : SameBinding earlier binding) :
    noticeKeyOf ctx descriptor binding = noticeKeyOf ctx descriptor earlier := by
  rw [same]
  rfl

variable {notices added : List ContractNotice}

theorem amendments_keep {key : String} (member : key ∈ noticeKeys notices) :
    key ∈ noticeKeys (added.foldl (fun notices notice => insertNotice notice notices) notices) := by
  induction added generalizing notices with
  | nil => exact member
  | cons notice added induction => exact induction (insertNotice_keeps member)

theorem amendments_nodup (nodup : (noticeKeys notices).Nodup) : (noticeKeys
      (added.foldl (fun notices notice => insertNotice notice notices) notices)).Nodup := by
  induction added generalizing notices with
  | nil => exact nodup
  | cons notice added induction => exact induction (insertNotice_nodup nodup)

theorem NoticesSound.perform (sound : NoticesSound ctx world) (draws : CallDraws)
    (call : RetentionCall) (notified : LinksNotified ctx world (.call draws call)) :
    NoticesSound ctx (world.perform ctx draws call) := by
  set later := (world.perform ctx draws call).db with isLater
  have moves : Moves draws.env
      (fun bindingId => ∃ holder, linkedHolder world.db call = some holder ∧
        holder.bindingId = bindingId) world.db later :=
    perform_moves call fun holder linked => ⟨holder, linked, rfl⟩
  obtain ⟨added, outbox⟩ := moves.outbox
  have distinctRows := moves.outboxIds sound.distinctRows
  have named : ∀ binding ∈ later.bindings, "" < binding.bindingId := by
    intro binding member
    rcases moves.bindings binding member with ⟨earlier, isEarlier, same, _⟩ | ⟨_, isNew, _⟩
    · exact same.id ▸ sound.named earlier isEarlier
    · exact isNew ▸ newId_named draws
  have knownDescriptor {descriptor : OutboxRow} (member : descriptor ∈ world.db.outbox) :
      (world.perform ctx draws call).existed descriptor.acceptanceId =
        world.existed descriptor.acceptanceId := if_pos (mem_map_of_mem member)
  have newDescriptor {descriptor : OutboxRow} (member : descriptor ∈ added) :
      descriptor.acceptanceId ∉ descriptorIds world.db := by
    rw [descriptorIds, outbox, map_append, nodup_append] at distinctRows
    intro old
    exact distinctRows.2.2 _ old _ (mem_map_of_mem member) rfl
  refine
    { distinct := moves.bindingIds sound.distinct
      distinctRows
      named
      pinned := moves.pinned sound.pinned
      known := ?_
      scanned :=
        { keys := amendments_nodup sound.scanned.keys
          unscanned := ?_
          covered := ?_ } }
  · intro descriptor member bindingId existed
    rw [← isLater, outbox, mem_append] at member
    rcases member with old | new
    · rw [knownDescriptor old] at existed
      exact moves.kept bindingId (sound.known descriptor old bindingId existed)
    have atWriting : (world.perform ctx draws call).existed descriptor.acceptanceId =
        bindingIds world.db := if_neg (newDescriptor new)
    rw [atWriting] at existed
    exact moves.kept bindingId existed
  · intro id unknown
    refine sound.scanned.unscanned id fun old => unknown ?_
    rw [descriptorIds, ← isLater, outbox, map_append]
    exact mem_append_left _ old
  · intro descriptor member binding isBinding concerns active passed
    rw [← isLater, outbox, mem_append] at member
    rcases member with old | new
    · have existed := concerns.existed
      rw [knownDescriptor old] at existed
      rcases moves.bindings binding isBinding with ⟨earlier, isEarlier, same, wasActive⟩ | new
      · have before : Concerns world.db world.existed descriptor earlier :=
          { ofNamespace := by
              have ofNamespace := concerns.ofNamespace
              rw [same] at ofNamespace
              exact ofNamespace
            existed := same.id ▸ existed
            affected := by
              rw [← same.affects moves.pins (sound.pinned earlier isEarlier)]
              exact concerns.affected }
        have has : HasNotice ctx world.notices descriptor earlier := by
          have passedBefore : Passed world.scans descriptor earlier.bindingId := same.id ▸ passed
          rcases wasActive active with activeBefore | ⟨holder, linked, isHolder⟩
          · exact sound.scanned.covered descriptor old earlier isEarlier before activeBefore
              passedBefore
          have equal : holder = earlier :=
            inj_on_of_nodup_map sound.distinct (linkedHolder_mem linked) isEarlier
              (isHolder.trans same.id)
          subst equal
          exact notified holder linked descriptor old before passedBefore
        rw [HasNotice, same.noticeKey]
        exact amendments_keep has
      · exact absurd (sound.known descriptor old _ existed) new.1
    · rw [Passed] at passed
      have unscanned : (world.perform ctx draws call).scans descriptor.acceptanceId = .fresh :=
        sound.scanned.unscanned _ (newDescriptor new)
      rw [unscanned] at passed
      rcases passed with done | behind
      · cases done
      · exact absurd (named binding isBinding) behind

theorem processImpactOutbox_keys (now : Int) (limit : Nat) (crashAfter : Option Nat)
    (hints : Option (ContractNotice → Option String)) {reached : List OutboxRow} {start : FanOut}
    (isReached : reached = (crashAfter.map fun count => world.pendingDescriptors.take count).getD
      world.pendingDescriptors)
    (isStart : start =
      { scans := world.scans, notices := world.notices, created := 0, budget := max 1 limit }) :
    noticeKeys (world.processImpactOutbox ctx now limit crashAfter hints).notices =
      noticeKeys (Contract.fanOutOver ctx world.db now start reached).notices := by
  subst isReached isStart
  unfold NoticeWorld.processImpactOutbox
  cases crashAfter with
  | some count => rfl
  | none =>
    cases hints with
    | none => rfl
    | some deliver => exact deliverPendingHints_keys deliver _

section

variable (sound : NoticesSound ctx world)
include sound

theorem NoticesSound.processImpactOutbox (now : Int) (limit : Nat) (crashAfter : Option Nat)
    (hints : Option (ContractNotice → Option String)) : NoticesSound ctx
    (world.processImpactOutbox ctx now limit crashAfter hints) := by
  let reached := (crashAfter.map fun count => world.pendingDescriptors.take count).getD
    world.pendingDescriptors
  let start : FanOut :=
    { scans := world.scans, notices := world.notices, created := 0, budget := max 1 limit }
  have members : ∀ descriptor ∈ reached, descriptor ∈ world.db.outbox := by
    intro descriptor member
    have pending : descriptor ∈ world.pendingDescriptors := by
      cases crashAfter with
      | none => exact member
      | some count => exact mem_of_mem_take member
    exact mem_of_mem_filter ((mem_insertionSort _).mp pending)
  have before : Scanned ctx world.db world.existed start.scans start.notices := sound.scanned
  have after : Scanned ctx world.db world.existed
      (Contract.fanOutOver ctx world.db now start reached).scans
      (Contract.fanOutOver ctx world.db now start reached).notices :=
    before.fanOutOver sound.distinct sound.distinctRows members
  have sameKeys : noticeKeys
      (world.processImpactOutbox ctx now limit crashAfter hints).notices =
        noticeKeys (Contract.fanOutOver ctx world.db now start reached).notices :=
    processImpactOutbox_keys now limit crashAfter hints rfl rfl
  exact
    { distinct := sound.distinct
      distinctRows := sound.distinctRows
      named := sound.named
      pinned := sound.pinned
      known := sound.known
      scanned :=
        { keys := sameKeys ▸ after.keys
          unscanned := after.unscanned
          covered := fun descriptor member binding isBinding concerns active passed => by
            rw [HasNotice, sameKeys]
            exact after.covered descriptor member binding isBinding concerns active passed } }

theorem NoticesSound.step {event : NoticeEvent} (notified : LinksNotified ctx world event) :
    NoticesSound ctx (world.step ctx event) := by
  cases event with
  | call draws call => exact sound.perform draws call notified
  | processImpactOutbox now limit crashAfter hints =>
    exact sound.processImpactOutbox now limit crashAfter hints

theorem NoticesSound.run {events : List NoticeEvent} (notified : LinksNotifiedRun ctx world events)
    : NoticesSound ctx (world.run ctx events) := by
  induction events generalizing world with
  | nil => exact sound
  | cons event events induction => exact induction (sound.step notified.1) notified.2

end

theorem fanOutOver_nodup {db : ContractDb} {now : Int} {fanOut : FanOut}
    {descriptors : List OutboxRow} (nodup : (noticeKeys fanOut.notices).Nodup) :
    (noticeKeys (fanOutOver ctx db now fanOut descriptors).notices).Nodup := by
  induction descriptors generalizing fanOut with
  | nil => exact nodup
  | cons descriptor rest induction =>
    rw [fanOutOver]
    split_ifs
    · exact nodup
    · exact induction (noticeBindings_nodup nodup)

theorem step_nodup (event : NoticeEvent) (nodup : (noticeKeys world.notices).Nodup) :
    (noticeKeys (world.step ctx event).notices).Nodup := by
  cases event with
  | call draws call => exact amendments_nodup nodup
  | processImpactOutbox now limit crashAfter hints =>
    rw [NoticeWorld.step, processImpactOutbox_keys now limit crashAfter hints rfl rfl]
    exact fanOutOver_nodup nodup

theorem run_nodup (events : List NoticeEvent) (nodup : (noticeKeys world.notices).Nodup) :
    (noticeKeys (world.run ctx events).notices).Nodup := by
  induction events generalizing world with
  | nil => exact nodup
  | cons event events induction => exact induction (step_nodup event nodup)

theorem neverTwo_of_nodup (nodup : (noticeKeys world.notices).Nodup) : NeverTwo ctx world := by
  intro descriptor binding
  have once := nodup_iff_count_le_one.mp nodup (noticeKeyOf ctx descriptor binding)
  rw [noticeKeys, count_eq_countP, countP_map, countP_eq_length_filter] at once
  exact once

theorem NoticesSound.empty : NoticesSound ctx {} where
  distinct := nodup_nil
  distinctRows := nodup_nil
  named := nofun
  pinned := nofun
  known := nofun
  scanned :=
    { keys := nodup_nil
      unscanned := fun _ _ => rfl
      covered := nofun }

/-- In every run no binding has two notices for one descriptor; where no rebind makes a binding
active again that a scan has passed without a notice, no active binding that a finished descriptor
concerns is without one. -/
theorem affected_bindings_notified (ctx : NoticeCtx) (events : List NoticeEvent) :
    NeverTwo ctx (NoticeWorld.run ctx {} events) ∧
      (LinksNotifiedRun ctx {} events → NobodyMissed ctx (NoticeWorld.run ctx {} events)) := by
  refine ⟨neverTwo_of_nodup (run_nodup events List.nodup_nil), fun notified => ?_⟩
  have sound := NoticesSound.empty.run notified
  intro descriptor member done binding isBinding concerns active
  exact sound.scanned.covered descriptor member binding isBinding concerns active (.inl done)

end World

/-! ## A rebind behind the scan -/

section Rebound

def readableCtx : NoticeCtx where
  contract :=
    { plainCtx with
      sha256Bytes := fun bytes => "sha_" ++ toString (bytes.headD 0).toNat
      computeRevisionId := fun manifest =>
        "rev_" ++ String.intercalate "," (manifest.units.map (·.digest))
      computePinSetDigest := fun vector _ => "pin_" ++ toString vector.headGeneration }
  computeNoticeKey input := "ntc_" ++ toString input.headGeneration ++ "_" ++ input.bindingId
  maxPendingNoticesPerBinding := 20

def calling (random : String) (call : RetentionCall) : NoticeEvent :=
  .call { now := 1, random := fun _ => random } call

def proposing (base : ContractExpectedHead) (body : UInt8) : RetentionCall :=
  .contract (.proposeRevision plainOwner {
    namespaceId := "ns_1"
    proposalId := none
    baseHead := base
    impact := .nonbreaking
    units := [.fresh "unit" (.ok ⟨⟨"", "", "", [], "", "", "", 0, ""⟩, [body]⟩) none none none []
      []] })

def accepting (random : String) (expectedHead : ContractExpectedHead) : RetentionCall :=
  .contract (.acceptProposal plainOwner {
    proposalId := "prop_" ++ random
    proposalVersion := 1
    expectedHead
    idempotencyKey := "acceptance-" ++ random })

def dispatchTarget : DispatchTarget :=
  { meshId := "mesh", taskId := "task", attemptId := "attempt", generation := 1 }

def dispatching (sessionId : String) : RetentionCall :=
  .admitDispatch {
    target := dispatchTarget
    sessionId
    daemonId := none
    recipientSupportsContractTools := true }

def advancedUnderDispatches : List NoticeEvent :=
  [calling "1" (.contract (.authority .beginContractProcessIncarnation)),
    calling "1" (.contract (.authority (.enrollNamespace plainOwner { meshId := "mesh" }))),
    calling "1" (.contract (.authority
      (.updatePolicy plainOwner "ns_1" { reviewerQuorum := some 0 }))),
    calling "1" (proposing ⟨1, 0, none, 2⟩ 1),
    calling "1" (accepting "1" ⟨1, 0, none, 2⟩),
    calling "1" (.bindMissionScope plainOwner ⟨"mesh", "mission", "ns_1", [], false⟩),
    calling "1" (.stampTaskScopeFromMission "mesh" "task" (some "mission")),
    calling "1" (dispatching "first"),
    calling "2" (dispatching "second"),
    calling "2" (proposing ⟨1, 1, some "rev_sha_1", 2⟩ 2),
    calling "2" (accepting "2" ⟨1, 1, some "rev_sha_1", 2⟩),
    .processImpactOutbox 2 200 none none]

/-- The second session loses the task to the first. -/
def reboundBehindScan : List NoticeEvent :=
  advancedUnderDispatches ++
    [calling "3" (.rebindToHolder {
      target := dispatchTarget
      losingSessionId := "second"
      holderSessionId := "first" })]

theorem advanced_dispatches_notified : LinksNotifiedRun readableCtx {} advancedUnderDispatches ∧
      NobodyMissed readableCtx (NoticeWorld.run readableCtx {} advancedUnderDispatches) := by
  have notified : LinksNotifiedRun readableCtx {} advancedUnderDispatches :=
    ⟨nofun, nofun, nofun, nofun, nofun, nofun, nofun, nofun, nofun, nofun, nofun, trivial, trivial⟩
  exact ⟨notified, (affected_bindings_notified readableCtx advancedUnderDispatches).2 notified⟩

def advancedDescriptor : OutboxRow where
  acceptanceId := "acc_2"
  namespaceId := "ns_1"
  authorityEpoch := 1
  headGeneration := 2
  revisionId := some "rev_sha_2"
  noticeClass := .headAdvanced

def reboundBinding : BindingRow where
  bindingId := "bnd_1"
  meshId := "mesh"
  taskId := "task"
  attemptId := "attempt"
  generation := 1
  namespaceId := "ns_1"
  recipientSessionId := "first"
  pinSetId := "pin_1"
  blockDigest := "sha_60"
  state := .active
  linkedFromBindingId := some "bnd_2"
  admittedAt := 1

theorem rebound_binding_missed :
    ¬ NobodyMissed readableCtx (NoticeWorld.run readableCtx {} reboundBehindScan) := by
  intro nobody
  have has := nobody advancedDescriptor (by decide +kernel) (by decide +kernel) reboundBinding
    (by decide +kernel)
    { ofNamespace := rfl
      existed := by decide +kernel
      affected := by decide +kernel }
    rfl
  rw [HasNotice] at has
  exact absurd has (by decide +kernel)

end Rebound

end Adhdev.Contract
