import Adhdev.Contract.HeadChain
import Adhdev.Contract.Retention

/-! # Rooted bodies stay in the spool

Every body that a retention root names is stored, and no outstanding collection drops it:
it was marked, or it was staged behind the barrier.
-/

namespace Adhdev.Contract

open Call MeshShared List Option Bool

/-- Manifests that differ after normalization have different ids. -/
def CollisionFree (ctx : ContractCtx) : Prop :=
  ∀ manifest other, ctx.computeRevisionId (normalizeManifest manifest) =
    ctx.computeRevisionId (normalizeManifest other) →
      normalizeManifest manifest = normalizeManifest other

section Roots

/-- A current or past head, or the candidate of an open proposal. -/
def RootedRevision (db : ContractDb) (revisionId : String) : Prop :=
  (∃ head ∈ db.heads, head.revisionId = some revisionId) ∨
    (∃ row ∈ db.headLog, row.revisionId = some revisionId) ∨
    ∃ row ∈ db.proposals, row.status = .opened ∧ row.candidateRevisionId = revisionId

def HasUnit (db : ContractDb) (revisionId digest : String) : Prop :=
  ∃ revision ∈ db.revisions, revision.revisionId = revisionId ∧
    ∃ unit ∈ revision.manifest.units, unit.digest = digest

def RootedBody (db : ContractDb) (digest : String) : Prop :=
  (∃ revisionId, RootedRevision db revisionId ∧ HasUnit db revisionId digest) ∨
    (∃ row ∈ db.pinSets, ∃ pin ∈ row.pins, pin.unitDigest = digest) ∨
    ∃ row ∈ db.quarantine, row.bodyDigest = digest

variable (ctx : ContractCtx)

def SoundBody (row : SpoolRow) : Prop :=
  ∃ bytes, row.body = some bytes ∧ ctx.sha256Bytes bytes = row.digest

/-- The manifests and the table of their units name each other. -/
structure RevisionsSound (db : ContractDb) : Prop where
  named : ∀ revision ∈ db.revisions, ∃ manifest, revision.manifest = normalizeManifest manifest ∧
    revision.revisionId = ctx.computeRevisionId revision.manifest
  distinct : ∀ revision ∈ db.revisions, (revision.manifest.units.map (·.unitId)).Nodup
  listed : ∀ revision ∈ db.revisions, ∀ unit ∈ revision.manifest.units,
    ∃ row ∈ db.units, row.revisionId = revision.revisionId ∧ row.unitId = unit.unitId
  manifested : ∀ row ∈ db.units, ∃ revision ∈ db.revisions, revision.revisionId = row.revisionId ∧
    ∃ unit ∈ revision.manifest.units, unit.unitId = row.unitId ∧ unit.digest = row.unitDigest
  known : ∀ revisionId, RootedRevision db revisionId →
    ∃ revision ∈ db.revisions, revision.revisionId = revisionId

structure BodiesSound (plans : List ContractGcPlan) (db : ContractDb) : Prop where
  rows : ∀ row ∈ db.spool, SoundBody ctx row
  stored : ∀ digest, RootedBody db digest → Barrier.Stored SpoolRow.digest db.spool digest
  survives : ∀ plan ∈ plans, ∀ digest, RootedBody db digest →
    plan.Survives SpoolRow.digest SpoolRow.gcGeneration db.spool digest
  raised : ∀ plan ∈ plans, plan.generation ≤ db.gcGeneration

variable {ctx} {db later : ContractDb}

theorem RevisionsSound.same_manifest (sound : RevisionsSound ctx db)
    (collisionFree : CollisionFree ctx) {revision other : RevisionRow}
    (member : revision ∈ db.revisions) (isOther : other ∈ db.revisions)
    (same : revision.revisionId = other.revisionId) : revision.manifest = other.manifest := by
  obtain ⟨manifest, normal, named⟩ := sound.named revision member
  obtain ⟨manifest', normal', named'⟩ := sound.named other isOther
  rw [normal, normal']
  refine collisionFree manifest manifest' ?_
  rw [← normal, ← normal', ← named, ← named', same]

theorem RevisionsSound.unit_listed (sound : RevisionsSound ctx db)
    (collisionFree : CollisionFree ctx) {revisionId digest : String}
    (hasUnit : HasUnit db revisionId digest) :
    ∃ row ∈ db.units, row.revisionId = revisionId ∧ row.unitDigest = digest := by
  obtain ⟨revision, member, rfl, unit, isUnit, rfl⟩ := hasUnit
  obtain ⟨row, isRow, ofRevision, unitId⟩ := sound.listed revision member unit isUnit
  obtain ⟨other, isOther, same, listed, isListed, sameUnit, digest⟩ := sound.manifested row isRow
  rw [sound.same_manifest collisionFree isOther member (same.trans ofRevision)] at isListed
  have sameOne : listed = unit :=
    inj_on_of_nodup_map (sound.distinct revision member) isListed isUnit (sameUnit.trans unitId)
  exact ⟨row, isRow, ofRevision, digest.symm.trans (congrArg _ sameOne)⟩

end Roots

section Steps

variable {ctx : ContractCtx} {db later : ContractDb} {plans : List ContractGcPlan}

structure StagedSpool (ctx : ContractCtx) (db : ContractDb) (digests : List String)
    (spool : List SpoolRow) : Prop where
  rows : ∀ row ∈ spool, row ∈ db.spool ∨ row.gcGeneration = db.gcGeneration ∧ SoundBody ctx row
  kept : ∀ digest, Barrier.Stored SpoolRow.digest db.spool digest →
    Barrier.Stored SpoolRow.digest spool digest
  staged : ∀ digest ∈ digests, Barrier.Stored SpoolRow.digest spool digest ∧
    ∀ row ∈ spool, row.digest = digest → row.gcGeneration = db.gcGeneration

theorem StagedSpool.none (ctx : ContractCtx) (db : ContractDb) :
    StagedSpool ctx db [] db.spool where
  rows := fun _ member => .inl member
  kept := fun _ stored => stored
  staged := fun _ member => absurd member not_mem_nil

variable {digests : List String}

theorem StagedSpool.rowsSound {spool : List SpoolRow} (staged : StagedSpool ctx db digests spool)
    (sound : ∀ row ∈ db.spool, SoundBody ctx row) : ∀ row ∈ spool, SoundBody ctx row :=
  fun row member => (staged.rows row member).elim (sound row) (·.2)

theorem StagedSpool.trans {digests others : List String} {spool rest : List SpoolRow}
    (first : StagedSpool ctx db digests spool)
    (second : StagedSpool ctx { db with spool } others rest) :
    StagedSpool ctx db (digests ++ others) rest where
  rows := fun row member => (second.rows row member).elim (first.rows row) .inr
  kept := fun digest stored => second.kept digest (first.kept digest stored)
  staged := by
    intro digest member
    rcases mem_append.mp member with old | new
    · obtain ⟨stored, current⟩ := first.staged digest old
      refine ⟨second.kept digest stored, fun row isRow same => ?_⟩
      exact (second.rows row isRow).elim (fun before => current row before same) (·.1)
    · exact second.staged digest new

variable {digest : String}

theorem stagedSpool_restamp (sound : ∀ row ∈ db.spool, SoundBody ctx row)
    (stored : Barrier.Stored SpoolRow.digest db.spool digest) :
    StagedSpool ctx db [digest] (restampSpoolRow digest db).spool := by
  have sameDigest (row : SpoolRow) :
      (if row.digest = digest then { row with gcGeneration := db.gcGeneration } else row).digest =
        row.digest := by
    split_ifs <;> rfl
  have kept (wanted : String) (isStored : Barrier.Stored SpoolRow.digest db.spool wanted) :
      Barrier.Stored SpoolRow.digest (restampSpoolRow digest db).spool wanted := by
    obtain ⟨row, member, rfl⟩ := isStored
    exact ⟨_, mem_map_of_mem member, sameDigest row⟩
  refine ⟨fun row member => ?_, kept, fun wanted isWanted => ?_⟩
  · obtain ⟨before, isBefore, rfl⟩ := mem_map.mp member
    by_cases same : before.digest = digest
    · rw [if_pos same]
      exact .inr ⟨rfl, sound before isBefore⟩
    · rw [if_neg same]
      exact .inl isBefore
  rw [mem_singleton.mp isWanted]
  refine ⟨kept digest stored, fun row member same => ?_⟩
  obtain ⟨before, -, rfl⟩ := mem_map.mp member
  rw [sameDigest] at same
  rw [if_pos same]

theorem stagedSpool_put {row : SpoolRow} (sound : SoundBody ctx row)
    (current : row.gcGeneration = db.gcGeneration) :
    StagedSpool ctx db [row.digest] (putSpoolRow row db).spool := by
  have isStored : Barrier.Stored SpoolRow.digest (putSpoolRow row db).spool row.digest :=
    ⟨row, mem_append_right _ (mem_singleton.mpr rfl), rfl⟩
  refine ⟨fun other member => ?_, fun wanted stored => ?_, fun wanted isWanted => ?_⟩
  · rcases mem_append.mp member with old | new
    · exact .inl (mem_of_mem_filter old)
    · rw [mem_singleton.mp new]
      exact .inr ⟨current, sound⟩
  · obtain ⟨other, member, rfl⟩ := stored
    by_cases same : other.digest = row.digest
    · exact same ▸ isStored
    · exact ⟨other, mem_append_left _ (mem_filter.mpr ⟨member, decide_eq_true same⟩), rfl⟩
  rw [mem_singleton.mp isWanted]
  refine ⟨isStored, fun other member same => ?_⟩
  rcases mem_append.mp member with old | new
  · exact absurd same (of_decide_eq_true (mem_filter.mp old).2)
  · rw [mem_singleton.mp new]
    exact current

variable {store last : ContractStore}

theorem stageSpoolBody_staged {bytes : List UInt8}
    (staged : stageSpoolBody ctx bytes store = (.ok digest, last))
    (sound : ∀ row ∈ store.db.spool, SoundBody ctx row) :
    digest = ctx.sha256Bytes bytes ∧ ∃ spool, last = { store with db := { store.db with spool } } ∧
      StagedSpool ctx store.db [ctx.sha256Bytes bytes] spool := by
  rw [stageSpoolBody] at staged
  simp only [bind_eq, pure_eq, andThen_ok_iff, inspect_ok_iff] at staged
  obtain ⟨existing, middle, ⟨found, rfl⟩, staged⟩ := staged
  split at staged
  · rename_i live
    simp only [andThen_ok_iff, changeDb_ok_iff, answer_ok_iff] at staged
    obtain ⟨-, -, rfl, rfl, rfl⟩ := staged
    obtain ⟨row, rfl, -⟩ := any_eq_true _ _ |>.mp live
    refine ⟨rfl, _, rfl, stagedSpool_restamp sound ⟨row, mem_of_find?_eq_some found.symm, ?_⟩⟩
    simpa using find?_some found.symm
  simp only [andThen_ok_iff, inspect_ok_iff, refuseIf_ok_iff, changeDb_ok_iff,
    answer_ok_iff] at staged
  obtain ⟨-, -, ⟨rfl, rfl⟩, -, -, ⟨-, rfl⟩, -, -, ⟨rfl, rfl⟩, -, -, ⟨-, rfl⟩, -, -, rfl, rfl,
    rfl⟩ :=
    staged
  have hashed (gcGeneration : Nat) : SoundBody ctx {
      digest := ctx.sha256Bytes bytes, byteLength := bytes.length, body := some bytes
      gcGeneration } := ⟨bytes, rfl, rfl⟩
  exact ⟨rfl, _, rfl, stagedSpool_put (hashed _) rfl⟩

theorem stageAll_staged {bodies : List (List UInt8)}
    (staged : each (stageSpoolBody ctx) bodies store = (.ok digests, last))
    (sound : ∀ row ∈ store.db.spool, SoundBody ctx row) :
    ∃ spool, last = { store with db := { store.db with spool } } ∧
      StagedSpool ctx store.db (bodies.map ctx.sha256Bytes) spool := by
  induction bodies generalizing store digests with
  | nil =>
    rw [each, answer_ok_iff] at staged
    exact ⟨store.db.spool, staged.2, .none ctx store.db⟩
  | cons bytes bodies induction =>
    simp only [each, andThen_ok_iff, answer_ok_iff] at staged
    obtain ⟨digest, middle, isFirst, rest, last, staged, -, rfl⟩ := staged
    obtain ⟨-, spool, rfl, first⟩ := stageSpoolBody_staged isFirst sound
    obtain ⟨lastSpool, rfl, others⟩ := induction staged (first.rowsSound sound)
    exact ⟨lastSpool, rfl, first.trans others⟩

theorem BodiesSound.grow (sound : BodiesSound ctx plans db) {spool : List SpoolRow}
    (staged : StagedSpool ctx db digests spool) (sameSpool : later.spool = spool)
    (generation : later.gcGeneration = db.gcGeneration)
    (roots : ∀ digest, RootedBody later digest → RootedBody db digest ∨ digest ∈ digests) :
    BodiesSound ctx plans later := by
  subst sameSpool
  refine ⟨staged.rowsSound sound.rows, fun digest rooted => ?_, fun plan isPlan digest rooted => ?_,
    fun plan isPlan => (sound.raised plan isPlan).trans generation.ge⟩
  · rcases roots digest rooted with old | new
    · exact staged.kept digest (sound.stored digest old)
    · exact (staged.staged digest new).1
  · rcases roots digest rooted with old | new
    · refine (sound.survives plan isPlan digest old).of_rows fun row member _ => ?_
      refine (staged.rows row member).imp id fun fresh => ?_
      exact (sound.raised plan isPlan).trans fresh.1.ge
    · refine .inr fun row member same => ?_
      exact (sound.raised plan isPlan).trans ((staged.staged digest new).2 row member same).ge

structure SameBodies (db later : ContractDb) : Prop where
  spool : later.spool = db.spool
  gcGeneration : later.gcGeneration = db.gcGeneration
  revisions : later.revisions = db.revisions
  units : later.units = db.units
  pinSets : later.pinSets = db.pinSets
  quarantine : later.quarantine = db.quarantine
  roots : ∀ revisionId, RootedRevision later revisionId → RootedRevision db revisionId

theorem SameBodies.rooted (same : SameBodies db later) (rooted : RootedBody later digest) :
    RootedBody db digest := by
  rcases rooted with ⟨revisionId, isRoot, revision, member, hasUnit⟩ | pinned | quarantined
  · exact .inl ⟨revisionId, same.roots revisionId isRoot, revision, same.revisions ▸ member,
      hasUnit⟩
  · exact .inr (.inl (same.pinSets ▸ pinned))
  · exact .inr (.inr (same.quarantine ▸ quarantined))

theorem SameBodies.bodies (same : SameBodies db later) (sound : BodiesSound ctx plans db) :
    BodiesSound ctx plans later :=
  sound.grow (StagedSpool.none ctx db) same.spool same.gcGeneration
    fun _ rooted => .inl (same.rooted rooted)

theorem SameBodies.revisionsSound (same : SameBodies db later) (sound : RevisionsSound ctx db) :
    RevisionsSound ctx later := by
  refine ⟨?_, ?_, ?_, ?_, ?_⟩
  · rw [same.revisions]
    exact sound.named
  · rw [same.revisions]
    exact sound.distinct
  · rw [same.revisions, same.units]
    exact sound.listed
  · rw [same.revisions, same.units]
    exact sound.manifested
  · rw [same.revisions]
    exact fun revisionId isRoot => sound.known revisionId (same.roots revisionId isRoot)

theorem rootedRevision_of_heads {revisionId : String} (isRoot : RootedRevision later revisionId)
    (heads : ∀ head ∈ later.heads, head.revisionId = some revisionId →
      ∃ before ∈ db.heads, before.revisionId = some revisionId)
    (headLog : later.headLog = db.headLog)
    (proposals : ∀ row ∈ later.proposals, row.status = .opened → row ∈ db.proposals) :
    RootedRevision db revisionId := by
  rcases isRoot with ⟨head, member, same⟩ | logged | ⟨row, member, isOpen, same⟩
  · exact .inl (heads head member same)
  · exact .inr (.inl (headLog ▸ logged))
  · exact .inr (.inr ⟨row, proposals row member isOpen, isOpen, same⟩)

theorem Effect.sameBodies {env : CallEnv} {call : AuthorityCall}
    {result : Except ContractRefusal Unit} (effect : Effect ctx env store call result last) :
    SameBodies store.db last.db := by
  have moved {heads : List HeadRow} {change : HeadRow → HeadRow} {revisionId : String}
      (keeps : ∀ row, (change row).revisionId = row.revisionId) :
      ∀ head ∈ heads.map change, head.revisionId = some revisionId →
        ∃ before ∈ heads, before.revisionId = some revisionId := by
    intro head member same
    obtain ⟨before, isBefore, rfl⟩ := mem_map.mp member
    exact ⟨before, isBefore, (keeps before).symm.trans same⟩
  cases effect with
  | enrolled =>
    rw [fencedStore_db]
    refine ⟨rfl, rfl, rfl, rfl, rfl, rfl, fun revisionId isRoot => ?_⟩
    refine rootedRevision_of_heads isRoot (fun head member same => ?_) rfl fun _ member _ => member
    rcases mem_append.mp member with old | new
    · exact ⟨head, old, same⟩
    · rw [mem_singleton.mp new] at same
      cases same
  | policed =>
    refine ⟨rfl, rfl, rfl, rfl, rfl, rfl, fun revisionId isRoot => ?_⟩
    refine rootedRevision_of_heads isRoot (moved fun row => ?_) rfl fun _ member _ => member
    split_ifs <;> rfl
  | recovered | transferred =>
    rw [fencedStore_db]
    refine ⟨rfl, rfl, rfl, rfl, rfl, rfl, fun revisionId isRoot => ?_⟩
    refine rootedRevision_of_heads isRoot (moved fun row => ?_) rfl fun _ member _ => member
    split_ifs <;> rfl
  | _ => exact ⟨rfl, rfl, rfl, rfl, rfl, rfl, fun _ isRoot => isRoot⟩

theorem mem_of_opened {affected : ProposalRow → Bool} {change : ProposalRow → ProposalRow}
    (closes : ∀ row, (change row).status ≠ .opened) {row : ProposalRow}
    (member : row ∈ (changeProposals affected change db).proposals)
    (isOpen : row.status = .opened) :
    row ∈ db.proposals := by
  obtain ⟨before, isBefore, same⟩ := mem_map.mp member
  split_ifs at same
  · exact absurd (same ▸ isOpen) (closes before)
  · exact same ▸ isBefore

theorem sameBodies_accepted {env : CallEnv} {input : AcceptInput} {proposal : ProposalRow}
    {current vector : ContractHeadVector} (proposed : proposal ∈ db.proposals)
    (opened : proposal.status = .opened) :
    SameBodies db (acceptedDb ctx env input proposal current vector db) := by
  refine ⟨rfl, rfl, rfl, rfl, rfl, rfl, fun revisionId isRoot => ?_⟩
  rcases isRoot with ⟨head, member, same⟩ | ⟨row, member, same⟩ | ⟨row, member, isOpen, same⟩
  · obtain ⟨before, isBefore, rfl⟩ := mem_map.mp member
    split_ifs at same
    · exact .inr (.inr ⟨proposal, proposed, opened, some.inj same⟩)
    · exact .inl ⟨before, isBefore, same⟩
  · rcases mem_append.mp member with old | new
    · exact .inr (.inl ⟨row, old, same⟩)
    · rw [mem_singleton.mp new] at same
      exact .inr (.inr ⟨proposal, proposed, opened, some.inj same⟩)
  have unsuperseded := mem_of_opened (fun _ superseded => by cases superseded) member isOpen
  have unaccepted := mem_of_opened (fun _ accepted => by cases accepted) unsuperseded isOpen
  exact .inr (.inr ⟨row, unaccepted, isOpen, same⟩)

end Steps

section Proposing

variable {ctx : ContractCtx} {db : ContractDb} {baseManifest : Option ContractRevisionManifest}

structure CollectedSound (ctx : ContractCtx) (baseManifest : Option ContractRevisionManifest)
    (collected : Collected) : Prop where
  distinct : (collected.units.map (·.unitId)).Nodup
  covered : ∀ unit ∈ collected.units, unit.digest ∈ collected.bodies.map ctx.sha256Bytes ∨
    ∃ manifest, baseManifest = some manifest ∧ unit ∈ manifest.units

variable {collected next : Collected}

theorem CollectedSound.add (sound : CollectedSound ctx baseManifest collected)
    {added : ContractUnit} (units : next.units = collected.units ++ [added])
    (unseen : added.unitId ∉ collected.units.map (·.unitId))
    (bodies : collected.bodies ⊆ next.bodies)
    (covered : added.digest ∈ next.bodies.map ctx.sha256Bytes ∨ ∃ manifest, baseManifest = some
      manifest ∧ added ∈ manifest.units) :
    CollectedSound ctx baseManifest next where
  distinct := by
    rw [units, map_append]
    refine nodup_append.mpr ⟨sound.distinct, nodup_singleton _, ?_⟩
    rintro name isName other isOther rfl
    have same : name = added.unitId := mem_singleton.mp isOther
    exact unseen (same ▸ isName)
  covered := by
    intro unit member
    rcases mem_append.mp (units ▸ member) with old | new
    · exact (sound.covered unit old).imp (fun isBody => map_subset _ bodies isBody) id
    · rw [mem_singleton.mp new]
      exact covered

theorem collectUnit_sound {unit : ProposedUnit}
    (collects : collectUnit ctx db baseManifest collected unit = .ok next)
    (sound : CollectedSound ctx baseManifest collected) : CollectedSound ctx baseManifest next := by
  cases unit with
  | carryForward unitId =>
    rw [collectUnit] at collects
    obtain ⟨valid, collects⟩ := demand_bind_ok_iff.mp collects
    split at collects
    · cases collects
    rename_i prior found
    obtain ⟨-, collects⟩ := demand_bind_ok_iff.mp collects
    cases collects
    obtain ⟨manifest, isBase, isUnit⟩ := bind_eq_some_iff.mp found
    have named : prior.unitId = unitId := by simpa using find?_some isUnit
    exact sound.add rfl (named ▸ valid.2) (List.Subset.refl _)
      (.inr ⟨manifest, isBase, mem_of_find?_eq_some isUnit⟩)
  | fresh unitId source mediaType normativeType applicationApiVersion dependsOn roles =>
    rw [collectUnit] at collects
    obtain ⟨valid, collects⟩ := demand_bind_ok_iff.mp collects
    obtain ⟨blob, -, collects⟩ := except_bind_ok_iff.mp collects
    obtain ⟨-, collects⟩ := demand_bind_ok_iff.mp collects
    obtain ⟨dependsOn, -, collects⟩ := except_bind_ok_iff.mp collects
    obtain ⟨roles, -, collects⟩ := except_bind_ok_iff.mp collects
    cases collects
    refine sound.add rfl valid.2 (subset_append_left _ _) (.inl ?_)
    exact mem_map_of_mem (mem_append_right _ (mem_singleton.mpr rfl))

theorem collectUnits_sound {collected last : Collected} {units : List ProposedUnit}
    (collects : collectUnits ctx db baseManifest collected units = .ok last)
    (sound : CollectedSound ctx baseManifest collected) : CollectedSound ctx baseManifest last := by
  induction units generalizing collected with
  | nil =>
    cases collects
    exact sound
  | cons unit units induction =>
    rw [collectUnits] at collects
    obtain ⟨next, first, rest⟩ := except_bind_ok_iff.mp collects
    exact induction rest (collectUnit_sound first sound)

theorem mem_normalizeManifest {manifest : ContractRevisionManifest} {unit : ContractUnit}
    (member : unit ∈ (normalizeManifest manifest).units) :
    ∃ before ∈ manifest.units, unit.unitId = before.unitId ∧ unit.digest = before.digest := by
  have sorted := (mem_insertionSort _).mp member
  obtain ⟨before, isBefore, rfl⟩ := mem_map.mp sorted
  exact ⟨before, isBefore, rfl, rfl⟩

theorem normalizeManifest_distinct {manifest : ContractRevisionManifest}
    (distinct : (manifest.units.map (·.unitId)).Nodup) :
    ((normalizeManifest manifest).units.map (·.unitId)).Nodup := by
  have permutes := (List.perm_insertionSort (·.unitId ≤ ·.unitId) (manifest.units.map fun unit =>
    { unit with dependsOn := sortTexts unit.dependsOn, roles := sortTexts unit.roles })).map
      (·.unitId)
  refine permutes.nodup_iff.mpr ?_
  rw [List.map_map]
  exact distinct

variable {presented : Presented} {input : ProposeInput}

variable {env : CallEnv}

theorem prepareCandidate_covered {candidate : Candidate}
    (prepared : prepareCandidate ctx db env presented input = .ok candidate) :
    (∃ manifest, candidate.manifest = normalizeManifest manifest) ∧
      (candidate.manifest.units.map (·.unitId)).Nodup ∧
      ∀ unit ∈ candidate.manifest.units, unit.digest ∈ candidate.bodies.map ctx.sha256Bytes ∨
        ∃ revisionId, RootedRevision db revisionId ∧ HasUnit db revisionId unit.digest := by
  rw [prepareCandidate] at prepared
  obtain ⟨_, -, prepared⟩ := except_bind_ok_iff.mp prepared
  obtain ⟨_, -, prepared⟩ := except_bind_ok_iff.mp prepared
  split at prepared
  · cases prepared
  rename_i current found
  obtain ⟨isBase, prepared⟩ := demand_bind_ok_iff.mp prepared
  obtain ⟨-, prepared⟩ := demand_bind_ok_iff.mp prepared
  obtain ⟨-, prepared⟩ := demand_bind_ok_iff.mp prepared
  obtain ⟨collected, collects, prepared⟩ := except_bind_ok_iff.mp prepared
  obtain ⟨-, prepared⟩ := demand_bind_ok_iff.mp prepared
  obtain ⟨-, prepared⟩ := demand_bind_ok_iff.mp prepared
  cases prepared
  have sound := collectUnits_sound collects ⟨nodup_nil, fun _ member => absurd member not_mem_nil⟩
  refine ⟨⟨_, rfl⟩, normalizeManifest_distinct sound.distinct, fun unit member => ?_⟩
  obtain ⟨before, isBefore, -, digest⟩ := mem_normalizeManifest member
  rw [digest]
  refine (sound.covered before isBefore).imp id ?_
  rintro ⟨manifest, isManifest, isUnit⟩
  obtain ⟨revisionId, named, manifested⟩ := bind_eq_some_iff.mp isManifest
  obtain ⟨revision, isRevision, rfl⟩ := map_eq_some_iff.mp manifested
  obtain ⟨head, isHead, -, -, revisionOf⟩ := currentHeadVector_some found
  have sameBase := congrArg ContractExpectedHead.revisionId (sameHead_iff.mp isBase)
  refine ⟨revisionId, .inl ⟨head, isHead, ?_⟩, revision, mem_of_find?_eq_some isRevision, ?_,
    before, isUnit, rfl⟩
  · exact revisionOf.trans (sameBase.symm.trans named)
  · simpa using find?_some isRevision

theorem insertUnits_listed (revisionId : String) (units : List ContractUnit) (db : ContractDb) :
    db.units ⊆ (units.foldl (fun db unit => insertUnit revisionId unit db) db).units ∧
      (∀ row ∈ (units.foldl (fun db unit => insertUnit revisionId unit db) db).units,
        row ∈ db.units ∨ ∃ unit ∈ units, row = ⟨revisionId, unit.unitId, unit.digest⟩) ∧
      ∀ unit ∈ units, ∃ row ∈ (units.foldl (fun db unit => insertUnit revisionId unit db) db).units,
        row.revisionId = revisionId ∧ row.unitId = unit.unitId := by
  induction units generalizing db with
  | nil => exact ⟨List.Subset.refl _, fun _ member => .inl member,
      fun _ member => absurd member not_mem_nil⟩
  | cons unit units induction =>
    obtain ⟨keeps, rows, listed⟩ := induction (insertUnit revisionId unit db)
    rw [foldl_cons]
    by_cases taken : db.units.any fun row => row.revisionId = revisionId && row.unitId = unit.unitId
    · have same : insertUnit revisionId unit db = db := by rw [insertUnit, if_pos taken]
      rw [same] at keeps rows listed ⊢
      refine ⟨keeps, fun row member => ?_, fun other member => ?_⟩
      · rcases rows row member with old | ⟨other, isOther, same⟩
        · exact .inl old
        · exact .inr ⟨other, .tail _ isOther, same⟩
      rcases mem_cons.mp member with rfl | rest
      · obtain ⟨row, isRow, named⟩ := any_eq_true.mp taken
        exact ⟨row, keeps isRow, by simpa using named⟩
      · exact listed other rest
    have inserted : (insertUnit revisionId unit db).units =
        db.units ++ [⟨revisionId, unit.unitId, unit.digest⟩] := by
      rw [insertUnit, if_neg taken]
    rw [inserted] at keeps rows
    refine ⟨fun row member => keeps (mem_append_left _ member), fun row member => ?_,
      fun other member => ?_⟩
    · rcases rows row member with old | ⟨other, isOther, same⟩
      · rcases mem_append.mp old with older | new
        · exact .inl older
        · exact .inr ⟨unit, mem_cons_self, mem_singleton.mp new⟩
      · exact .inr ⟨other, .tail _ isOther, same⟩
    · rcases mem_cons.mp member with rfl | rest
      · exact ⟨_, keeps (mem_append_right _ (mem_singleton.mpr rfl)), rfl, rfl⟩
      · exact listed other rest

variable {later : ContractDb} {manifest : ContractRevisionManifest}

structure RevisionAdded (ctx : ContractCtx) (db later : ContractDb)
    (manifest : ContractRevisionManifest) : Prop where
  kept : db.revisions ⊆ later.revisions
  revisions : ∀ revision ∈ later.revisions, revision ∈ db.revisions ∨
    (¬ ∃ other ∈ db.revisions, other.revisionId = ctx.computeRevisionId manifest) ∧
      revision.revisionId = ctx.computeRevisionId manifest ∧ revision.manifest = manifest
  found : ∃ revision ∈ later.revisions, revision.revisionId = ctx.computeRevisionId manifest
  unitsKept : db.units ⊆ later.units
  units : ∀ row ∈ later.units, row ∈ db.units ∨ ∃ unit ∈ manifest.units,
    row = ⟨ctx.computeRevisionId manifest, unit.unitId, unit.digest⟩
  listed : ∀ unit ∈ manifest.units, ∃ row ∈ later.units,
    row.revisionId = ctx.computeRevisionId manifest ∧ row.unitId = unit.unitId

theorem proposedDb_revision (env : CallEnv) (presented : Presented) (input : ProposeInput) :
    RevisionAdded ctx db (proposedDb ctx env presented input manifest db) manifest := by
  obtain ⟨unitsKept, units, listed⟩ := insertUnits_listed (ctx.computeRevisionId manifest)
    manifest.units (insertRevision (ctx.computeRevisionId manifest) manifest db)
  obtain ⟨rows, frame⟩ := insertUnits_frame (ctx.computeRevisionId manifest) manifest.units
    (insertRevision (ctx.computeRevisionId manifest) manifest db)
  have sameUnits : (insertRevision (ctx.computeRevisionId manifest) manifest db).units =
      db.units := by
    rw [insertRevision]
    split_ifs <;> rfl
  have sameRevisions : (proposedDb ctx env presented input manifest db).revisions =
      (insertRevision (ctx.computeRevisionId manifest) manifest db).revisions := by
    rw [proposedDb, frame]
  rw [sameUnits] at unitsKept units
  by_cases known : db.revisions.any (·.revisionId = ctx.computeRevisionId manifest)
  · have same : (insertRevision (ctx.computeRevisionId manifest) manifest db).revisions =
        db.revisions := by rw [insertRevision, if_pos known]
    rw [same] at sameRevisions
    refine ⟨sameRevisions ▸ List.Subset.refl _, fun revision member =>
      .inl (sameRevisions ▸ member), ?_,
      unitsKept, units, listed⟩
    rw [sameRevisions]
    simpa using known
  have added : (insertRevision (ctx.computeRevisionId manifest) manifest db).revisions =
      db.revisions ++ [⟨ctx.computeRevisionId manifest, manifest.namespaceId, manifest⟩] := by
    rw [insertRevision, if_neg known]
  rw [added] at sameRevisions
  refine ⟨sameRevisions ▸ subset_append_left _ _, fun revision member => ?_,
    ⟨_, sameRevisions ▸ mem_append_right _ (mem_singleton.mpr rfl), rfl⟩, unitsKept, units,
    listed⟩
  rcases mem_append.mp (sameRevisions ▸ member) with old | new
  · exact .inl old
  · rw [mem_singleton.mp new]
    exact .inr ⟨by simpa using known, rfl, rfl⟩

section

variable (added : RevisionAdded ctx db later manifest)
include added

theorem RevisionAdded.manifest_eq (sound : RevisionsSound ctx db)
    (collisionFree : CollisionFree ctx) (normal : ∃ before, manifest = normalizeManifest before)
    {revision : RevisionRow} (member : revision ∈ later.revisions)
    (named : revision.revisionId = ctx.computeRevisionId manifest) : revision.manifest = manifest
    := by
  rcases added.revisions revision member with old | ⟨-, -, same⟩
  · obtain ⟨before, isNormal, isNamed⟩ := sound.named revision old
    obtain ⟨other, otherNormal⟩ := normal
    rw [isNormal, otherNormal]
    refine collisionFree before other ?_
    rw [← isNormal, ← otherNormal, ← isNamed, named]
  · exact same

theorem RevisionAdded.sound (sound : RevisionsSound ctx db) (collisionFree : CollisionFree ctx)
    (normal : ∃ before, manifest = normalizeManifest before)
    (distinct : (manifest.units.map (·.unitId)).Nodup) (roots : ∀ revisionId, RootedRevision later
      revisionId → RootedRevision db revisionId ∨ revisionId = ctx.computeRevisionId
      manifest) : RevisionsSound ctx later := by
  refine ⟨?_, ?_, ?_, ?_, ?_⟩
  · intro revision member
    rcases added.revisions revision member with old | ⟨-, named, same⟩
    · exact sound.named revision old
    · obtain ⟨before, isNormal⟩ := normal
      exact ⟨before, same.trans isNormal, same ▸ named⟩
  · intro revision member
    rcases added.revisions revision member with old | ⟨-, -, same⟩
    · exact sound.distinct revision old
    · exact same ▸ distinct
  · intro revision member unit isUnit
    rcases added.revisions revision member with old | ⟨-, named, same⟩
    · obtain ⟨row, isRow, listed⟩ := sound.listed revision old unit isUnit
      exact ⟨row, added.unitsKept isRow, listed⟩
    · rw [named]
      exact added.listed unit (same ▸ isUnit)
  · intro row member
    rcases added.units row member with old | ⟨unit, isUnit, rfl⟩
    · obtain ⟨revision, isRevision, listed⟩ := sound.manifested row old
      exact ⟨revision, added.kept isRevision, listed⟩
    obtain ⟨revision, isRevision, named⟩ := added.found
    have same := added.manifest_eq sound collisionFree normal isRevision named
    exact ⟨revision, isRevision, named, unit, same ▸ isUnit, rfl, rfl⟩
  intro revisionId isRoot
  rcases roots revisionId isRoot with old | rfl
  · obtain ⟨revision, member, named⟩ := sound.known revisionId old
    exact ⟨revision, added.kept member, named⟩
  · exact added.found

theorem RevisionAdded.hasUnit (sound : RevisionsSound ctx db) {revisionId digest : String}
    (isRoot : RootedRevision db revisionId) (hasUnit : HasUnit later revisionId digest) : HasUnit
    db revisionId digest := by
  obtain ⟨revision, member, rfl, isUnit⟩ := hasUnit
  rcases added.revisions revision member with old | ⟨unknown, named, -⟩
  · exact ⟨revision, old, rfl, isUnit⟩
  · obtain ⟨other, isOther, same⟩ := sound.known revision.revisionId isRoot
    exact absurd ⟨other, isOther, same.trans named⟩ unknown

end

theorem proposedDb_roots {revisionId : String}
    (isRoot : RootedRevision (proposedDb ctx env presented input manifest db) revisionId) :
    RootedRevision db revisionId ∨ revisionId = ctx.computeRevisionId manifest := by
  obtain ⟨revisions, units, frame⟩ := proposedDb_frame ctx env presented input manifest db
  rw [frame] at isRoot
  rcases isRoot with ofHead | logged | ⟨row, member, isOpen, same⟩
  · exact .inl (.inl ofHead)
  · exact .inl (.inr (.inl logged))
  rcases mem_append.mp member with old | new
  · obtain ⟨before, isBefore, rfl⟩ := mem_map.mp old
    split_ifs at isOpen same
    · cases isOpen
    · exact .inl (.inr (.inr ⟨before, isBefore, isOpen, same⟩))
  · rw [mem_singleton.mp new] at same
    exact .inr same.symm

theorem proposed_sound {candidate : Candidate} {spool : List SpoolRow}
    {plans : List ContractGcPlan} (collisionFree : CollisionFree ctx)
    (prepared : prepareCandidate ctx db env presented input = .ok candidate)
    (staged : StagedSpool ctx db (candidate.bodies.map ctx.sha256Bytes) spool)
    (revisionsSound : RevisionsSound ctx db) (bodiesSound : BodiesSound ctx plans db) :
    RevisionsSound ctx (proposedDb ctx env presented input candidate.manifest { db with spool }) ∧
      BodiesSound ctx plans
        (proposedDb ctx env presented input candidate.manifest { db with spool }) := by
  obtain ⟨normal, distinct, covered⟩ := prepareCandidate_covered prepared
  have sound : RevisionsSound ctx { db with spool } :=
      ⟨revisionsSound.named, revisionsSound.distinct,
    revisionsSound.listed, revisionsSound.manifested, revisionsSound.known⟩
  have added : RevisionAdded ctx { db with spool }
      (proposedDb ctx env presented input candidate.manifest { db with spool })
        candidate.manifest :=
    proposedDb_revision env presented input
  have soundAfter := added.sound sound collisionFree normal distinct fun _ => proposedDb_roots
  refine ⟨soundAfter, ?_⟩
  obtain ⟨revisions, units, frame⟩ := proposedDb_frame ctx env presented input candidate.manifest
    { db with spool }
  rw [frame] at soundAfter added ⊢
  refine bodiesSound.grow staged rfl rfl fun digest rooted => ?_
  rcases rooted with ⟨revisionId, isRoot, hasUnit⟩ | pinned | quarantined
  · rcases proposedDb_roots (frame ▸ isRoot) with old | rfl
    · exact .inl (.inl ⟨revisionId, old, added.hasUnit sound old hasUnit⟩)
    obtain ⟨revision, member, named, unit, isUnit, rfl⟩ := hasUnit
    rw [added.manifest_eq sound collisionFree normal member named] at isUnit
    exact (covered unit isUnit).symm.imp .inl id
  · exact .inl (.inr (.inl pinned))
  · exact .inl (.inr (.inr quarantined))

end Proposing

end Adhdev.Contract
