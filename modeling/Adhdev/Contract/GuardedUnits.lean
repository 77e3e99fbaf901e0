import Adhdev.Contract.CallFrames
import Adhdev.Contract.UseGuards

/-! # Guarded units of the head

A call moves the digest of no unit that an open guard is on: only an acceptance moves a head, and
it is refused while a guard is open on a unit that it changes.
-/

namespace Adhdev.Contract

open Call List

/-! ## Heads and their units -/

def headRevision (db : ContractDb) (namespaceId : String) : Option String :=
  (getHead db namespaceId).bind (·.revisionId)

def unitDigest (db : ContractDb) (revisionId : Option String) (unitId : String) : Option String :=
  (revisionId.bind (getRevisionManifest db)).bind fun manifest =>
    (manifest.units.find? (·.unitId = unitId)).map (·.digest)

def headDigest (db : ContractDb) (namespaceId unitId : String) : Option String :=
  unitDigest db (headRevision db namespaceId) unitId

def UseGuardRow.isOpen (row : UseGuardRow) : Prop := row.state = .active ∨ row.state = .unknown

/-- The heads and the candidates of the proposals have manifests. -/
structure KnownRevisions (db : ContractDb) : Prop where
  heads : ∀ head ∈ db.heads, ∀ revisionId, head.revisionId = some revisionId →
    (getRevisionManifest db revisionId).isSome
  candidates : ∀ proposal ∈ db.proposals,
    (getRevisionManifest db proposal.candidateRevisionId).isSome

variable {db : ContractDb}

theorem KnownRevisions.headRevision (known : KnownRevisions db)
    {namespaceId revisionId : String} (isHead : headRevision db namespaceId = some revisionId) :
    (getRevisionManifest db revisionId).isSome := by
  obtain ⟨head, found, isRevision⟩ := Option.bind_eq_some_iff.mp isHead
  exact known.heads head (mem_of_find?_eq_some found) revisionId isRevision

theorem manifests_same {later : ContractDb} (revisions : later.revisions = db.revisions) :
    getRevisionManifest later = getRevisionManifest db := by
  funext revisionId
  rw [getRevisionManifest, getRevisionManifest, revisions]

variable {namespaceId : String}

theorem headDigest_same {later : ContractDb}
    (manifests : getRevisionManifest later = getRevisionManifest db)
    (head : headRevision later namespaceId = headRevision db namespaceId) (unitId : String) :
    headDigest later namespaceId unitId = headDigest db namespaceId unitId := by
  rw [headDigest, headDigest, unitDigest, unitDigest, head, manifests]

theorem unitDigest_of_unchanged {base : Option String} {candidate unitId : String}
    (unchanged : unitId ∉ changedUnits db base candidate) :
    unitDigest db (some candidate) unitId = unitDigest db base unitId := by
  rw [changedUnits] at unchanged
  set candidateUnits := ((getRevisionManifest db candidate).map (·.units)).getD [] with isCandidate
  set baseUnits := ((base.bind (getRevisionManifest db)).map (·.units)).getD [] with isBase
  have ofCandidate : unitDigest db (some candidate) unitId =
      (candidateUnits.find? (·.unitId = unitId)).map (·.digest) := by
    rw [unitDigest, isCandidate, Option.bind_some]
    cases getRevisionManifest db candidate <;> rfl
  have ofBase : unitDigest db base unitId =
      (baseUnits.find? (·.unitId = unitId)).map (·.digest) := by
    rw [unitDigest, isBase]
    cases base.bind (getRevisionManifest db) <;> rfl
  have notListed (unit : ContractUnit) (same : unit.unitId = unitId) :
      unit ∉ (candidateUnits.filter fun unit =>
        (baseUnits.find? (·.unitId = unit.unitId)).map (·.digest) ≠ some unit.digest) ++
        baseUnits.filter fun unit => ¬ candidateUnits.any (·.unitId = unit.unitId) := by
    intro member
    refine unchanged ?_
    rw [sortTexts, mem_insertionSort, mem_eraseDups]
    exact same ▸ mem_map_of_mem member
  rw [ofCandidate, ofBase]
  cases found : candidateUnits.find? (·.unitId = unitId) with
  | some unit =>
    have same : unit.unitId = unitId := by simpa using find?_some found
    have kept := notListed unit same
    rw [mem_append, not_or, mem_filter] at kept
    by_contra different
    refine kept.1 ⟨mem_of_find?_eq_some found, ?_⟩
    rw [same]
    exact decide_eq_true fun equal => different (equal.symm ▸ rfl)
  | none =>
    cases inBase : baseUnits.find? (·.unitId = unitId) with
    | none => rfl
    | some unit =>
      have same : unit.unitId = unitId := by simpa using find?_some inBase
      have kept := notListed unit same
      rw [mem_append, not_or, mem_filter, mem_filter] at kept
      refine absurd ⟨mem_of_find?_eq_some inBase, ?_⟩ kept.2
      rw [find?_eq_none] at found
      refine decide_eq_true ?_
      rw [any_eq_true]
      rintro ⟨other, isOther, named⟩
      exact found other isOther (by simpa [same] using named)

/-! ## What one call leaves of the guards -/

structure Guards (db later : ContractDb) : Prop where
  rows : ∃ change : UseGuardRow → UseGuardRow, later.useGuards = db.useGuards.map change ∧
    ∀ row, change row = row ∨ (row.state = .active ∧ change row = { row with state := .unknown })
  digests : KnownRevisions db → ∀ row ∈ db.useGuards, row.isOpen → ∀ unitId ∈ row.units,
    headDigest later row.namespaceId unitId = headDigest db row.namespaceId unitId
  known : KnownRevisions db → KnownRevisions later

namespace Guards

variable {db later : ContractDb}

theorem rows_same (same : later.useGuards = db.useGuards) :
    ∃ change : UseGuardRow → UseGuardRow, later.useGuards = db.useGuards.map change ∧
      ∀ row, change row = row ∨
        (row.state = .active ∧ change row = { row with state := .unknown }) :=
  ⟨id, by rw [map_id, same], fun _ => .inl rfl⟩

theorem same (heads : later.heads = db.heads) (revisions : later.revisions = db.revisions)
    (proposals : later.proposals = db.proposals) (guards : later.useGuards = db.useGuards) :
    Guards db later where
  rows := rows_same guards
  digests _ row _ _ unitId _ :=
    headDigest_same (manifests_same revisions)
      (by rw [headRevision, headRevision, getHead, getHead, heads]) unitId
  known known :=
    { heads := by
        rw [manifests_same revisions, heads]
        exact known.heads
      candidates := by
        rw [manifests_same revisions, proposals]
        exact known.candidates }

theorem refl : Guards db db := .same rfl rfl rfl rfl

theorem trans {middle : ContractDb} (first : Guards db middle) (second : Guards middle later) :
    Guards db later where
  rows := by
    obtain ⟨change, isChange, changes⟩ := first.rows
    obtain ⟨next, isNext, moves⟩ := second.rows
    refine ⟨next ∘ change, by rw [isNext, isChange, map_map], fun row => ?_⟩
    rw [Function.comp_apply]
    rcases changes row with same | ⟨isActive, same⟩
    · simpa only [same] using moves row
    refine .inr ⟨isActive, ?_⟩
    rcases moves (change row) with kept | ⟨active, -⟩
    · rw [kept, same]
    · rw [same] at active
      cases active
  digests known row member isOpen unitId isUnit := by
    obtain ⟨change, isChange, changes⟩ := first.rows
    have isLater : change row ∈ middle.useGuards := isChange ▸ mem_map_of_mem member
    have kept := second.digests (first.known known) (change row) isLater
    have before := first.digests known row member isOpen unitId isUnit
    rcases changes row with same | ⟨-, same⟩
    · rw [same] at kept
      exact (kept isOpen unitId isUnit).trans before
    · rw [same] at kept
      exact (kept (.inr rfl) unitId isUnit).trans before
  known known := second.known (first.known known)

variable {change : HeadRow → HeadRow}

theorem find?_map {heads : List HeadRow}
    (keeps : ∀ head, (change head).namespaceId = head.namespaceId) (namespaceId : String) :
    (heads.map change).find? (·.namespaceId = namespaceId) =
      (heads.find? (·.namespaceId = namespaceId)).map change := by
  rw [List.find?_map]
  congr 2
  funext head
  rw [Function.comp_apply, keeps]

theorem mappedHeads (namespaces : ∀ head, (change head).namespaceId = head.namespaceId)
    (revisionIds : ∀ head, (change head).revisionId = head.revisionId)
    (heads : later.heads = db.heads.map change) (revisions : later.revisions = db.revisions)
    (proposals : later.proposals = db.proposals)
    (rows : ∃ change : UseGuardRow → UseGuardRow, later.useGuards = db.useGuards.map change ∧ ∀
      row, change row = row ∨ (row.state = .active ∧ change row = { row with state := .unknown })) :
    Guards db later where
  rows := rows
  digests _ row _ _ unitId _ := by
    have sameRevision : headRevision later row.namespaceId = headRevision db row.namespaceId := by
      rw [headRevision, headRevision, getHead, getHead, heads, find?_map namespaces]
      cases db.heads.find? (·.namespaceId = row.namespaceId) with
      | none => rfl
      | some head => exact revisionIds head
    exact headDigest_same (manifests_same revisions) sameRevision unitId
  known known :=
    { heads := by
        intro head member revisionId isRevision
        rw [heads] at member
        obtain ⟨before, isBefore, rfl⟩ := mem_map.mp member
        rw [manifests_same revisions]
        exact known.heads before isBefore revisionId ((revisionIds before).symm.trans isRevision)
      candidates := by
        rw [manifests_same revisions, proposals]
        exact known.candidates }

theorem newHead {head : HeadRow} (headless : db.heads.any (·.namespaceId = head.namespaceId) =
    false)
    (unrevised : head.revisionId = none) (heads : later.heads = db.heads ++ [head])
    (revisions : later.revisions = db.revisions) (proposals : later.proposals = db.proposals)
    (guards : later.useGuards = db.useGuards) : Guards db later where
  rows := rows_same guards
  digests _ row _ _ unitId _ := by
    have sameRevision : headRevision later row.namespaceId = headRevision db row.namespaceId := by
      rw [headRevision, headRevision, getHead, getHead, heads, find?_append]
      cases db.heads.find? (·.namespaceId = row.namespaceId) with
      | some found => rfl
      | none =>
        rw [Option.none_or, Option.bind_none, find?_singleton]
        split
        · exact unrevised
        · rfl
    exact headDigest_same (manifests_same revisions) sameRevision unitId
  known known :=
    { heads := by
        intro other member revisionId isRevision
        rw [heads, mem_append, mem_singleton] at member
        rw [manifests_same revisions]
        rcases member with old | rfl
        · exact known.heads other old revisionId isRevision
        · rw [unrevised] at isRevision
          cases isRevision
      candidates := by
        rw [manifests_same revisions, proposals]
        exact known.candidates }

theorem moreRevisions (heads : later.heads = db.heads)
    (kept : ∀ revisionId manifest, getRevisionManifest db revisionId = some manifest →
      getRevisionManifest later revisionId = some manifest)
    (proposals : ∀ proposal ∈ later.proposals,
      (getRevisionManifest later proposal.candidateRevisionId).isSome ∨
        ∃ earlier ∈ db.proposals, earlier.candidateRevisionId = proposal.candidateRevisionId)
    (guards : later.useGuards = db.useGuards) : Guards db later where
  rows := rows_same guards
  digests known row _ _ unitId _ := by
    have sameHead : headRevision later row.namespaceId = headRevision db row.namespaceId := by
      rw [headRevision, headRevision, getHead, getHead, heads]
    rw [headDigest, headDigest, sameHead]
    cases isHead : headRevision db row.namespaceId with
    | none => rfl
    | some revisionId =>
      obtain ⟨manifest, found⟩ := Option.isSome_iff_exists.mp (known.headRevision isHead)
      rw [unitDigest, unitDigest, Option.bind_some, Option.bind_some, found, kept _ _ found]
  known known := by
    have stays (revisionId : String) (found : (getRevisionManifest db revisionId).isSome) :
        (getRevisionManifest later revisionId).isSome := by
      obtain ⟨manifest, isManifest⟩ := Option.isSome_iff_exists.mp found
      rw [kept _ _ isManifest]
      rfl
    refine ⟨fun head member revisionId isRevision => ?_, fun proposal member => ?_⟩
    · rw [heads] at member
      exact stays revisionId (known.heads head member revisionId isRevision)
    rcases proposals proposal member with found | ⟨earlier, isEarlier, same⟩
    · exact found
    · exact same ▸ stays _ (known.candidates earlier isEarlier)

theorem changeProposals {affected : ProposalRow → Bool} {change : ProposalRow → ProposalRow}
    (same : ∀ row, (change row).candidateRevisionId = row.candidateRevisionId) :
    Guards db (changeProposals affected change db) := by
  refine .moreRevisions rfl (fun _ _ found => found) (fun proposal member => .inr ?_) rfl
  obtain ⟨earlier, isEarlier, rfl⟩ := mem_map.mp member
  refine ⟨earlier, isEarlier, ?_⟩
  split_ifs
  · exact (same earlier).symm
  · rfl

end Guards

section Calls

variable {ctx : ContractCtx} {env : CallEnv} {presented : Presented}
variable {plans : List ContractGcPlan} {store later : ContractStore}

/-! ## Proposals -/

theorem getRevisionManifest_insertRevision (revisionId : String)
    (manifest : ContractRevisionManifest) (db : ContractDb) :
    (getRevisionManifest (insertRevision revisionId manifest db) revisionId).isSome ∧
      ∀ other found, getRevisionManifest db other = some found →
        getRevisionManifest (insertRevision revisionId manifest db) other = some found := by
  rw [insertRevision]
  split_ifs with present
  · refine ⟨?_, fun _ _ found => found⟩
    rw [getRevisionManifest, Option.isSome_map, find?_isSome]
    simpa using present
  constructor
  · rw [getRevisionManifest, Option.isSome_map, find?_isSome]
    exact ⟨_, mem_append_right _ (mem_singleton.mpr rfl), decide_eq_true rfl⟩
  intro other found isFound
  obtain ⟨row, isRow, rfl⟩ := Option.map_eq_some_iff.mp isFound
  rw [getRevisionManifest, find?_append, isRow]
  rfl

theorem proposedDb_guards (input : ProposeInput) (manifest : ContractRevisionManifest)
    (db : ContractDb) : Guards db (proposedDb ctx env presented input manifest db) := by
  obtain ⟨isNew, kept⟩ := getRevisionManifest_insertRevision (ctx.computeRevisionId manifest)
    manifest db
  obtain ⟨revisions, inserted⟩ := insertRevision_frame (ctx.computeRevisionId manifest) manifest db
  obtain ⟨rows, added⟩ := insertUnits_frame (ctx.computeRevisionId manifest) manifest.units
    (insertRevision (ctx.computeRevisionId manifest) manifest db)
  rw [proposedDb, added]
  rw [inserted] at isNew kept ⊢
  refine .moreRevisions rfl kept (fun proposal member => ?_) rfl
  rcases mem_append.mp member with old | new
  · obtain ⟨earlier, isEarlier, rfl⟩ := mem_map.mp old
    refine .inr ⟨earlier, isEarlier, ?_⟩
    split_ifs <;> rfl
  · rw [mem_singleton.mp new]
    exact .inl isNew

/-! ## Acceptance -/

variable {current : ContractHeadVector} {proposal : ProposalRow}
variable {db : ContractDb}

theorem checkAcceptance_unguarded {expected : ContractExpectedHead}
    (checked : checkAcceptance ctx env db presented proposal expected = .ok current) :
    currentHeadVector db proposal.namespaceId = some current ∧
      proposal.baseRevisionId = current.revisionId ∧ overlappingOpenGuards db proposal.namespaceId
        (changedUnits db proposal.baseRevisionId proposal.candidateRevisionId) = [] := by
  rw [checkAcceptance] at checked
  obtain ⟨authority, rechecked, checked⟩ := except_bind_ok_iff.mp checked
  obtain ⟨-, checked⟩ := demand_bind_ok_iff.mp checked
  obtain ⟨opened, checked⟩ := demand_bind_ok_iff.mp checked
  obtain ⟨-, checked⟩ := demand_bind_ok_iff.mp checked
  split at checked
  · cases checked
  rename_i held isHeld
  obtain ⟨-, checked⟩ := demand_bind_ok_iff.mp checked
  obtain ⟨based, checked⟩ := demand_bind_ok_iff.mp checked
  obtain ⟨-, checked⟩ := demand_bind_ok_iff.mp checked
  obtain ⟨-, checked⟩ := demand_bind_ok_iff.mp checked
  obtain ⟨unguarded, same⟩ := demand_bind_ok_iff.mp checked
  cases same
  rw [sameHead] at based
  simp only [Bool.and_eq_true, decide_eq_true_eq] at based
  exact ⟨isHeld, based.1.2.symm, unguarded⟩

theorem not_mem_changed {namespaceId unitId : String} {changed : List String}
    (unguarded : overlappingOpenGuards db namespaceId changed = []) {row : UseGuardRow}
    (member : row ∈ db.useGuards) (ofNamespace : row.namespaceId = namespaceId)
    (isOpen : row.isOpen) (isUnit : unitId ∈ row.units) : unitId ∉ changed := by
  intro isChanged
  rw [overlappingOpenGuards, if_neg (ne_nil_of_mem isChanged), filter_eq_nil_iff] at unguarded
  refine unguarded row member ?_
  simp only [Bool.and_eq_true, Bool.or_eq_true, decide_eq_true_eq, any_eq_true, contains_iff_mem]
  exact ⟨⟨ofNamespace, isOpen⟩, .inr ⟨unitId, isUnit, isChanged⟩⟩

theorem headRevision_of_current (found : currentHeadVector db namespaceId = some current) :
    headRevision db namespaceId = current.revisionId := by
  rw [currentHeadVector] at found
  split at found
  · rename_i isHead
    cases found
    rw [headRevision, isHead]
    rfl
  · cases found

theorem advanceHead_guards (proposed : proposal ∈ db.proposals)
    (isCurrent : currentHeadVector db proposal.namespaceId = some current)
    (based : proposal.baseRevisionId = current.revisionId)
    (unguarded : overlappingOpenGuards db proposal.namespaceId (changedUnits db
      proposal.baseRevisionId proposal.candidateRevisionId) = []) :
    Guards db (advanceHead proposal current db) where
  rows := Guards.rows_same rfl
  digests known row member isOpen unitId isUnit := by
    have found : headRevision (advanceHead proposal current db) row.namespaceId =
        (getHead db row.namespaceId).bind fun head =>
          if head.namespaceId = proposal.namespaceId ∧
              head.headGeneration = current.headGeneration then
            some proposal.candidateRevisionId
          else head.revisionId := by
      rw [headRevision, getHead, advanceHead, Guards.find?_map]
      · rw [getHead, Option.bind_map]
        congr 1
        funext head
        rw [Function.comp_apply]
        split_ifs <;> rfl
      · intro head
        split_ifs <;> rfl
    have manifests : getRevisionManifest (advanceHead proposal current db) =
        getRevisionManifest db := manifests_same rfl
    cases isHead : getHead db row.namespaceId with
    | none =>
      rw [isHead] at found
      refine headDigest_same manifests ?_ unitId
      rw [found, headRevision, isHead]
      rfl
    | some head =>
      rw [isHead, Option.bind_some] at found
      have ofRow : head.namespaceId = row.namespaceId := by
        simpa using find?_some isHead
      split_ifs at found with moves
      · have ofProposal : row.namespaceId = proposal.namespaceId := ofRow.symm.trans moves.1
        have base : headRevision db row.namespaceId = proposal.baseRevisionId := by
          rw [ofProposal, headRevision_of_current isCurrent, based]
        have kept := unitDigest_of_unchanged
          (not_mem_changed unguarded member ofProposal isOpen isUnit)
        rw [headDigest, headDigest, base, found, ← kept]
        rfl
      refine headDigest_same manifests ?_ unitId
      rw [found, headRevision, isHead]
      rfl
  known known :=
    { heads := by
        intro head member revisionId isRevision
        obtain ⟨before, isBefore, rfl⟩ := mem_map.mp member
        split_ifs at isRevision
        · cases isRevision
          exact known.candidates proposal proposed
        · exact known.heads before isBefore revisionId isRevision
      candidates := known.candidates }

theorem acceptAnew_guards {input : AcceptInput} {result : AcceptResult}
    (proposed : proposal ∈ store.db.proposals)
    (accepted : acceptAnew ctx env presented input proposal store = (.ok result, later)) :
    Guards store.db later.db := by
  obtain ⟨current, checked, -, -, rfl⟩ := acceptAnew_ok accepted
  obtain ⟨isCurrent, based, unguarded⟩ := checkAcceptance_unguarded checked
  have advances : Guards store.db (advanceHead proposal current store.db) :=
    advanceHead_guards proposed isCurrent based unguarded
  have closes : Guards (advanceHead proposal current store.db)
      (acceptedDb ctx env input proposal current result.vector store.db) := by
    refine .moreRevisions rfl (fun _ _ found => found) (fun other member => .inr ?_) rfl
    obtain ⟨between, isBetween, rfl⟩ := mem_map.mp member
    obtain ⟨earlier, isEarlier, rfl⟩ := mem_map.mp isBetween
    refine ⟨earlier, isEarlier, ?_⟩
    split_ifs <;> rfl
  exact advances.trans closes

/-! ## Calls -/

theorem bootedGuard_change (authorities : List AuthorityRow) (row : UseGuardRow) :
    bootedGuard authorities row = row ∨
      (row.state = .active ∧ bootedGuard authorities row = { row with state := .unknown }) := by
  rw [bootedGuard]
  split_ifs with isOld
  · exact .inr ⟨isOld.1, rfl⟩
  · exact .inl rfl

theorem changeHead_guards {later : ContractDb} {change : HeadRow → HeadRow}
    (heads : later.heads = (changeHead namespaceId change db).heads)
    (revisions : later.revisions = db.revisions) (proposals : later.proposals = db.proposals)
    (guards : later.useGuards = db.useGuards)
    (same : ∀ head, (change head).namespaceId = head.namespaceId ∧ (change head).revisionId =
      head.revisionId) : Guards db later := by
  refine .mappedHeads (fun head => ?_) (fun head => ?_) heads revisions proposals
    (Guards.rows_same guards)
  · split_ifs
    · exact (same head).1
    · rfl
  · split_ifs
    · exact (same head).2
    · rfl

theorem Effect.guards {call : AuthorityCall} {result : Except ContractRefusal Unit}
    (effect : Effect ctx env store call result later) : Guards store.db later.db := by
  cases effect with
  | enrolled ownerPrincipal performs fresh headless =>
    rw [fencedStore_db]
    exact .newHead headless rfl rfl rfl rfl rfl
  | policed performs writable => exact changeHead_guards rfl rfl rfl rfl fun _ => ⟨rfl, rfl⟩
  | booted performs fence =>
    exact .mappedHeads (fun _ => rfl) (fun _ => rfl) (map_id _).symm rfl rfl
      ⟨_, rfl, bootedGuard_change _⟩
  | recovered performs owns found | transferred performs owns named fenced found =>
    rw [fencedStore_db]
    exact changeHead_guards rfl rfl rfl rfl fun _ => ⟨rfl, rfl⟩
  | _ => exact .same rfl rfl rfl rfl

theorem contract_guards (call : ContractCall) : Relates Guards store (call.perform ctx env) := by
  suffices guards : ∀ later, ContractEffect ctx env store call later →
      Guards store.db later.db from guards _ (contract_effect rfl)
  intro later effect
  cases effect with
  | unchanged => exact .refl
  | proposed presented input candidate _ stages =>
    obtain ⟨spool, rfl⟩ := stageAll_ok stages
    have stages : Guards store.db { store.db with spool } := .same rfl rfl rfl rfl
    exact stages.trans (proposedDb_guards input candidate.manifest { store.db with spool })
  | reviewed => exact .same rfl rfl rfl rfl
  | accepted proposed anew => exact acceptAnew_guards proposed anew
  | closed => exact .changeProposals fun _ => rfl
  | revoked revoked =>
    obtain ⟨_, _, _, rfl⟩ := revokeRevision_frame revoked
    exact .same rfl rfl rfl rfl
  | authority effect => exact effect.guards

theorem PinsMore.guards {later : ContractDb} (more : PinsMore db later) : Guards db later := by
  obtain ⟨pinSets, bindings, rfl, -⟩ := more
  exact .same rfl rfl rfl rfl

theorem perform_guards (call : RetentionCall) :
    Relates Guards store (call.perform ctx env plans) := by
  refine perform_relates (fun kept => ?_) call contract_guards
    (fun input scope admission later admitted => (admitScoped_more admitted).guards)
    fun input scope result later _ _ rebound => (rebindScoped_more rebound).guards
  rw [KeepsContracts] at kept
  rw [kept]
  exact .same rfl rfl rfl rfl

end Calls

end Adhdev.Contract
