import Adhdev.Foundation.Machine
import Adhdev.HostHandoff.Certificate

/-! # Members that follow a host transfer

`host-handoff/member-adopt.ts` with the stores its ports are bound to: the host
fields of the mesh entry (`live-env.ts read` and `writeHost`), the host record
and the peer keys (`mesh-host-memory.ts`), and the sessions' coordinator anchors.
Everything is about one mesh on one member; a project this daemon has no entry
for is known through its host record only. -/

namespace Adhdev.HostHandoff

open MeshShared

/-! ## Stores -/

inductive MeshRole
  | host | member
  deriving DecidableEq

/-- The host fields of the mesh entry's `meshHost` metadata. -/
structure MeshHost where
  role : Option MeshRole
  fenced : Bool := false
  hostDaemonId : Option String
  hostNodeId : Option String := none
  hostEpoch : Option Int := none
  originGrantPublicKey : Option String := none

inductive MeshHostRecordSource
  | pairing | sessionStamp | firstDispatch
  deriving DecidableEq

structure MeshHostRecord where
  hostDaemonId : String
  source : MeshHostRecordSource
  originGrantPublicKey : Option String := none

structure SessionAnchor where
  sessionId : String
  coordinatorDaemonId : String
  coordinatorSessionId : Option String

/-- `peerKeys` are the grant keys of authenticated peers under their canonical
ids, newest first; `peerSecrets` are the keys of the pairing secrets file. -/
structure MemberStores where
  entry : Option MeshHost
  record : Option MeshHostRecord
  peerKeys : List (String × String)
  peerSecrets : List (String × String)
  anchors : List SessionAnchor

section Adoption

variable (keys : KeyScheme)

def isValidOriginGrantPublicKey (publicKey : String) : Bool := (keys.parse publicKey).isSome

def peerKeyId (peer : String) : String := (canonicalDaemonId (trim peer)).getD (trim peer)

def grantKey (stores : MemberStores) (peer : String) : Option String :=
  (stores.peerKeys.lookup (peerKeyId peer)).filter (isValidOriginGrantPublicKey keys)

def pairingKey (stores : MemberStores) (peer : String) : Option String :=
  (stores.record.filter fun record =>
    record.source == .pairing && daemonIdsEquivalent record.hostDaemonId peer).bind fun record =>
      record.originGrantPublicKey.filter fun key =>
        key != "" && isValidOriginGrantPublicKey keys key

def secretKey (stores : MemberStores) (peer : String) : Option String :=
  (stores.peerSecrets.find? fun secret =>
    daemonIdsEquivalent secret.1 peer && isValidOriginGrantPublicKey keys secret.2).map
      fun secret => trim secret.2

def readAuthenticatedPeerOriginGrantPublicKey (stores : MemberStores) (peerDaemonId : String) :
    Option String :=
  let peer := trim peerDaemonId
  if peer == "" then none
  else ((grantKey keys stores peer).or (pairingKey keys stores peer)).or
    (secretKey keys stores peer)

/-! ## Ports -/

/-- `HostMeshView`, as far as the member side reads it. -/
structure HostMeshView where
  role : MeshRole
  hostDaemonId : Option String
  hostEpoch : Int
  hostPublicKey : Option String

/-- `resolveMeshHostStatus`: a fenced source is no host, an entry without a role
is one. -/
def MeshHost.resolvedRole (entry : MeshHost) : MeshRole :=
  if entry.fenced then .member else entry.role.getD .host

def MeshHost.resolvedEpoch (entry : MeshHost) : Int :=
  (entry.hostEpoch.filter fun epoch => isSafeInteger epoch && 0 < epoch).getD 0

def viewOf (stores : MemberStores) (entry : MeshHost) : HostMeshView :=
  let hostDaemonId := entry.hostDaemonId.bind readString
  { role := entry.resolvedRole
    hostDaemonId := hostDaemonId
    hostEpoch := entry.resolvedEpoch
    hostPublicKey := entry.originGrantPublicKey.or
      (if entry.resolvedRole == .member then
        hostDaemonId.bind (readAuthenticatedPeerOriginGrantPublicKey keys stores)
      else none) }

def read (stores : MemberStores) : Option HostMeshView := stores.entry.map (viewOf keys stores)

structure RecordView where
  hostDaemonId : String
  originGrantPublicKey : Option String

def readRecord (stores : MemberStores) : Option RecordView :=
  stores.record.map fun record =>
    ⟨record.hostDaemonId, readAuthenticatedPeerOriginGrantPublicKey keys stores record.hostDaemonId⟩

/-- `writeHost` of a member: a blank node id or key is no new value. -/
def MeshHost.follow (entry : MeshHost) (next : MemberHostState) : MeshHost :=
  { entry with
    role := some .member
    hostDaemonId := some next.hostDaemonId
    hostNodeId := next.hostNodeId.filter (· != "")
    hostEpoch := some next.hostEpoch
    originGrantPublicKey :=
      if next.hostPublicKey != "" then some next.hostPublicKey
      else entry.originGrantPublicKey }

def writeHost (stores : MemberStores) (next : MemberHostState) : MemberStores :=
  { stores with entry := stores.entry.map (·.follow next) }

def transferMeshHostRecord (stores : MemberStores) (hostDaemonId publicKey : String) :
    MemberStores :=
  let host := trim hostDaemonId
  if host == "" then stores
  else
    let pinned := if isValidOriginGrantPublicKey keys publicKey then some (trim publicKey) else none
    let source := stores.record.map (·.source)
    let keepPairing := source == some .pairing && truthy pinned
    { stores with
      record := some {
        hostDaemonId := host
        source :=
          if keepPairing then .pairing
          else if source == some .pairing then .sessionStamp
          else source.getD .sessionStamp
        originGrantPublicKey := if keepPairing then pinned else none }
      peerKeys :=
        match pinned with
        | some key => if key != "" then (peerKeyId host, key) ::
              stores.peerKeys else stores.peerKeys
        | none => stores.peerKeys }

def reanchorSessions (stores : MemberStores) (fromDaemonId toDaemonId : String) : MemberStores :=
  { stores with
    anchors := stores.anchors.map fun anchor =>
      if daemonIdsEquivalent anchor.coordinatorDaemonId fromDaemonId then
        { anchor with coordinatorDaemonId := toDaemonId, coordinatorSessionId := none }
      else anchor }

/-! ## Adoption -/

inductive AdoptionResult
  | refused (code : CertificateRefusal)
  | duplicate
  | adopted

/-- What arrives: a certificate, unless the message holds no object, and the
authenticated sender, unless the call has no adoption port. -/
structure Delivery where
  meshId : String
  certificate : Option HostTransferCertificate
  sender : Option String

structure Adoption where
  result : AdoptionResult
  stores : MemberStores

/-- Without an adoption port the record and the sessions stay. -/
def followed (stores : MemberStores) (sender : Option String)
    (certificate : HostTransferCertificate) (fromDaemonId : String) : Adoption where
  result := .adopted
  stores :=
    if sender.isSome then
      reanchorSessions
        (transferMeshHostRecord keys stores certificate.newHostDaemonId
          certificate.newHostPublicKey)
        fromDaemonId certificate.newHostDaemonId
    else stores

def adoptByRecord (stores : MemberStores) (delivery : Delivery)
    (certificate : HostTransferCertificate) : Adoption :=
  match delivery.sender, readRecord keys stores with
  | some sender, some record =>
    if daemonIdsEquivalent record.hostDaemonId certificate.newHostDaemonId then
      ⟨.duplicate, stores⟩
    else
      match record.originGrantPublicKey.filter (· != "") with
      | some pinned =>
        match verifyHostTransferCertificate keys certificate {
            meshId := delivery.meshId
            pinnedHostDaemonId := record.hostDaemonId
            pinnedHostPublicKey := pinned
            heldEpoch := certificate.hostEpoch - 1 } with
        | some refusal => ⟨.refused refusal, stores⟩
        | none => followed keys stores delivery.sender certificate record.hostDaemonId
      | none =>
        if !daemonIdsEquivalent record.hostDaemonId sender ||
            !daemonIdsEquivalent record.hostDaemonId certificate.previousHostDaemonId then
          ⟨.refused .certificateWrongSigner, stores⟩
        else followed keys stores delivery.sender certificate record.hostDaemonId
  | _, _ => ⟨.refused .certificateWrongMesh, stores⟩

def followsUnpinned (view : HostMeshView) (delivery : Delivery)
    (certificate : HostTransferCertificate) (hostDaemonId : String) : Bool :=
  view.role == .member && !truthy view.hostPublicKey &&
    delivery.sender.any (daemonIdsEquivalent hostDaemonId) &&
    daemonIdsEquivalent hostDaemonId certificate.previousHostDaemonId &&
    isSafeInteger certificate.hostEpoch && view.hostEpoch < certificate.hostEpoch

def transferredHost (certificate : HostTransferCertificate) : MemberHostState where
  hostDaemonId := certificate.newHostDaemonId
  hostNodeId := certificate.newHostNodeId.filter (· != "")
  hostPublicKey := certificate.newHostPublicKey
  hostEpoch := certificate.hostEpoch

def noPinnedKey (view : HostMeshView) : CertificateRefusal :=
  if view.role == .host then .certificateStaleEpoch else .certificateInvalid

def adoptByView (stores : MemberStores) (view : HostMeshView) (delivery : Delivery)
    (certificate : HostTransferCertificate) : Adoption :=
  match view.hostDaemonId with
  | none => ⟨.refused (noPinnedKey view), stores⟩
  | some hostDaemonId =>
    if followsUnpinned view delivery certificate hostDaemonId then
      followed keys (writeHost stores (transferredHost certificate)) delivery.sender certificate
        hostDaemonId
    else
      match view.role, view.hostPublicKey.filter (· != "") with
      | .member, some pinned =>
        if daemonIdsEquivalent hostDaemonId certificate.newHostDaemonId &&
            view.hostEpoch == certificate.hostEpoch && delivery.sender.isSome then
          ⟨.duplicate, stores⟩
        else
          match adoptHostTransfer keys certificate delivery.meshId {
              hostDaemonId := hostDaemonId
              hostNodeId := none
              hostPublicKey := pinned
              hostEpoch := view.hostEpoch } with
          | .error refusal => ⟨.refused refusal, stores⟩
          | .ok next =>
            followed keys (writeHost stores next) delivery.sender certificate hostDaemonId
      | _, _ => ⟨.refused (noPinnedKey view), stores⟩

def applyHostTransferToMember (stores : MemberStores) (delivery : Delivery) : Adoption :=
  match delivery.certificate.filter (·.meshId == delivery.meshId) with
  | none => ⟨.refused .certificateWrongMesh, stores⟩
  | some certificate =>
    match read keys stores with
    | none => adoptByRecord keys stores delivery certificate
    | some view => adoptByView keys stores view delivery certificate

def pinnedHostKey (stores : MemberStores) : Option String :=
  match read keys stores with
  | some view => if view.role == .member then view.hostPublicKey.filter (· != "") else none
  | none => (readRecord keys stores).bind fun record =>
    record.originGrantPublicKey.filter (· != "")

def TransfersByRecord (stores : MemberStores) (delivery : Delivery) : Prop :=
  stores.entry = none ∧ ∃ record certificate, stores.record = some record ∧
    delivery.certificate = some certificate ∧
    daemonIdsEquivalent record.hostDaemonId certificate.newHostDaemonId = false

/-! ## One delivery -/

inductive Delivered (stores : MemberStores) (delivery : Delivery) (adoption : Adoption) : Prop
  | unchanged (notAdopted : adoption.result ≠ .adopted) (same : adoption.stores = stores)
  | byRecord {certificate : HostTransferCertificate} (adopted : adoption.result = .adopted)
      (carries : delivery.certificate = some certificate)
      (signed : ∀ key, pinnedHostKey keys stores = some key →
        keys.signed key certificate = true)
      (transfers : TransfersByRecord stores delivery)
  | byView {certificate : HostTransferCertificate} {entry next : MeshHost}
      (adopted : adoption.result = .adopted)
      (carries : delivery.certificate = some certificate)
      (signed : ∀ key, pinnedHostKey keys stores = some key →
        keys.signed key certificate = true)
      (present : stores.entry = some entry) (written : adoption.stores.entry = some next)
      (raised : entry.resolvedEpoch < certificate.hostEpoch)
      (held : next.resolvedEpoch = certificate.hostEpoch)

section OneDelivery

variable {keys} {stores : MemberStores} {delivery : Delivery}
  {certificate : HostTransferCertificate}

theorem result_followed (sender : Option String) (fromDaemonId : String) :
    (followed keys stores sender certificate fromDaemonId).result = .adopted := rfl

theorem entry_followed (keys : KeyScheme) (stores : MemberStores)
    (certificate : HostTransferCertificate) (sender : Option String) (fromDaemonId : String) :
    (followed keys stores sender certificate fromDaemonId).stores.entry = stores.entry := by
  unfold followed
  split
  · unfold reanchorSessions transferMeshHostRecord
    dsimp only
    split <;> rfl
  · rfl

theorem resolvedEpoch_nonneg (entry : MeshHost) : 0 ≤ entry.resolvedEpoch := by
  unfold MeshHost.resolvedEpoch
  cases stored : entry.hostEpoch with
  | none => exact Int.le_refl 0
  | some epoch =>
    by_cases valid : isSafeInteger epoch && decide (0 < epoch)
    · rw [Option.filter_some, if_pos valid]
      exact Int.le_of_lt (of_decide_eq_true (Bool.and_eq_true_iff.mp valid).2)
    · rw [Option.filter_some, if_neg valid]
      exact Int.le_refl 0

theorem delivered_writeHost {entry : MeshHost} {next : MemberHostState} (fromDaemonId : String)
    (carries : delivery.certificate = some certificate) (present : stores.entry = some entry)
    (signed : ∀ key, pinnedHostKey keys stores = some key → keys.signed key certificate = true)
    (safe : isSafeInteger certificate.hostEpoch = true)
    (raised : entry.resolvedEpoch < certificate.hostEpoch)
    (same : next.hostEpoch = certificate.hostEpoch) : Delivered keys stores delivery
      (followed keys (writeHost stores next) delivery.sender certificate fromDaemonId) := by
  have positive : 0 < certificate.hostEpoch :=
    Int.lt_of_le_of_lt (resolvedEpoch_nonneg entry) raised
  have written : (followed keys (writeHost stores next) delivery.sender certificate
      fromDaemonId).stores.entry = some (entry.follow next) := by
    rw [entry_followed, writeHost, present]
    rfl
  refine .byView (result_followed _ _) carries signed present written raised ?_
  simp [MeshHost.resolvedEpoch, MeshHost.follow, same, Option.filter_some, safe, positive]

theorem delivered_adoptByRecord (carries : delivery.certificate = some certificate)
    (absent : read keys stores = none) :
    Delivered keys stores delivery (adoptByRecord keys stores delivery certificate) := by
  have noEntry : stores.entry = none := by simpa [read] using absent
  unfold adoptByRecord
  split
  · rename_i sender record isSender isRecord
    have pinned : pinnedHostKey keys stores = record.originGrantPublicKey.filter (· != "") := by
      rw [pinnedHostKey, absent, isRecord]
      rfl
    rcases Option.map_eq_some_iff.mp isRecord with ⟨stored, isStored, rfl⟩
    split
    · exact .unchanged (by simp) rfl
    rename_i other
    have transfers : TransfersByRecord stores delivery :=
      ⟨noEntry, stored, certificate, isStored, carries, by simpa using other⟩
    split
    · rename_i key isKey
      split
      · exact .unchanged (by simp) rfl
      rename_i verifies
      refine .byRecord (result_followed _ _) carries ?_ transfers
      intro held isHeld
      cases (pinned.trans isKey).symm.trans isHeld
      exact (verified_of_verify verifies).signed
    rename_i noKey
    split
    · exact .unchanged (by simp) rfl
    refine .byRecord (result_followed _ _) carries ?_ transfers
    intro held isHeld
    cases (pinned.trans noKey).symm.trans isHeld
  · exact .unchanged (by simp) rfl

theorem delivered_adoptByView {view : HostMeshView}
    (carries : delivery.certificate = some certificate) (present : read keys stores = some view) :
    Delivered keys stores delivery (adoptByView keys stores view delivery certificate) := by
  rcases Option.map_eq_some_iff.mp present with ⟨entry, isEntry, rfl⟩
  have pinned : pinnedHostKey keys stores =
      if (viewOf keys stores entry).role == .member then
        (viewOf keys stores entry).hostPublicKey.filter (· != "") else none := by
    rw [pinnedHostKey, present]
  unfold adoptByView
  split
  · exact .unchanged (by simp) rfl
  rename_i hostDaemonId isHost
  split
  · rename_i follows
    simp only [followsUnpinned, Bool.and_eq_true, decide_eq_true_eq] at follows
    obtain ⟨⟨⟨⟨⟨isMember, unpinned⟩, _⟩, _⟩, safe⟩, raised⟩ := follows
    refine delivered_writeHost _ carries isEntry ?_ safe raised rfl
    intro key isKey
    rw [pinned, if_pos isMember] at isKey
    rcases Option.filter_eq_some_iff.mp isKey with ⟨held, nonblank⟩
    rw [held] at unpinned
    simp [truthy] at unpinned nonblank
    exact absurd unpinned nonblank
  split
  · rename_i key isMember isKey
    split
    · exact .unchanged (by simp) rfl
    split
    · exact .unchanged (by simp) rfl
    rename_i next adopts
    have verified := verified_of_adopt adopts
    refine delivered_writeHost _ carries isEntry ?_ verified.1.safe verified.1.higher verified.2
    intro held isHeld
    rw [pinned, isMember] at isHeld
    cases isKey.symm.trans isHeld
    exact verified.1.signed
  · exact .unchanged (by simp) rfl

theorem delivered_apply (stores : MemberStores) (delivery : Delivery) :
    Delivered keys stores delivery (applyHostTransferToMember keys stores delivery) := by
  unfold applyHostTransferToMember
  split
  · exact .unchanged (by simp) rfl
  rename_i certificate isCertificate
  have carries := (Option.filter_eq_some_iff.mp isCertificate).1
  split
  · rename_i absent
    exact delivered_adoptByRecord carries absent
  · rename_i view present
    exact delivered_adoptByView carries present

end OneDelivery

/-! ## Runs -/

def memberMachine (start : MemberStores) : Machine MemberStores Delivery Adoption where
  initial := start
  respond := applyHostTransferToMember keys
  advance adoption := adoption.stores

def adoptedEpoch {start : MemberStores} (step : (memberMachine keys start).Step) : List Int :=
  match step.output.result, step.input.certificate with
  | .adopted, some certificate => [certificate.hostEpoch]
  | _, _ => []

def adoptedEpochs (start : MemberStores) (deliveries : List Delivery) : List Int :=
  ((memberMachine keys start).steps deliveries).flatMap (adoptedEpoch keys)

def HoldsEpoch (epoch : Int) (stores : MemberStores) : Prop :=
  ∃ entry, stores.entry = some entry ∧ epoch ≤ entry.resolvedEpoch

variable {keys}

theorem adoptedEpoch_of_delivered {start : MemberStores} {step : (memberMachine keys start).Step}
    (notByRecord : ¬ TransfersByRecord step.before step.input) :
    adoptedEpoch keys step = [] ∧ step.after = step.before ∨
      ∃ entry next epoch, adoptedEpoch keys step = [epoch] ∧ step.before.entry = some entry ∧
        step.after.entry = some next ∧ entry.resolvedEpoch < epoch ∧ next.resolvedEpoch =
          epoch := by
  have delivered : Delivered keys step.before step.input step.output := delivered_apply _ _
  cases delivered with
  | unchanged notAdopted same =>
    refine .inl ⟨?_, same⟩
    unfold adoptedEpoch
    split
    · rename_i adopted _
      exact absurd adopted notAdopted
    · rfl
  | byRecord _ _ _ transfers => exact absurd transfers notByRecord
  | @byView certificate entry next adopted carries _ present written raised held =>
    refine .inr ⟨entry, next, certificate.hostEpoch, ?_, present, written, raised, held⟩
    unfold adoptedEpoch
    rw [adopted, carries]

theorem pairwise_adoptedEpochs {start : MemberStores} {deliveries : List Delivery}
    (notByRecord : ∀ step ∈ (memberMachine keys start).steps deliveries,
      ¬ TransfersByRecord step.before step.input) :
    (adoptedEpochs keys start deliveries).Pairwise (· < ·) := by
  refine (Machine.pairwise_flatMap_stepsFrom
    (fun step => ¬ TransfersByRecord step.before step.input) HoldsEpoch ?_ ?_ ?_ ?_ deliveries
    notByRecord).1
  · rintro step allowed epoch ⟨entry, present, reached⟩
    rcases adoptedEpoch_of_delivered allowed with
      ⟨_, same⟩ | ⟨before, next, _, _, isBefore, written, raised, held⟩
    · exact ⟨entry, same ▸ present, reached⟩
    · cases present.symm.trans isBefore
      exact ⟨next, written, by omega⟩
  · intro step allowed epoch member
    rcases adoptedEpoch_of_delivered allowed with
      ⟨silent, _⟩ | ⟨_, next, _, emits, _, written, _, held⟩
    · rw [silent] at member
      cases member
    · rw [emits, List.mem_singleton] at member
      exact ⟨next, written, by omega⟩
  · rintro step allowed earlier ⟨entry, present, reached⟩ epoch member
    rcases adoptedEpoch_of_delivered allowed with
      ⟨silent, _⟩ | ⟨before, _, _, emits, isBefore, _, raised, _⟩
    · rw [silent] at member
      cases member
    · rw [emits, List.mem_singleton] at member
      cases present.symm.trans isBefore
      omega
  · intro step allowed
    rcases adoptedEpoch_of_delivered allowed with ⟨silent, _⟩ | ⟨_, _, epoch, emits, _⟩
    · rw [silent]
      exact List.Pairwise.nil
    · rw [emits]
      exact List.pairwise_singleton _ _

end Adoption

/-- In every run of a member, a certificate that is not adopted changes nothing,
and one that is adopted was signed by the key pinned at that moment. While no
certificate is followed on the record alone, the adopted epochs only rise. -/
theorem member_follows_forward (keys : KeyScheme) (start : MemberStores)
    (deliveries : List Delivery) :
    (∀ step ∈ (memberMachine keys start).steps deliveries,
      (step.output.result ≠ .adopted → step.after = step.before) ∧
      (step.output.result = .adopted → ∀ key, pinnedHostKey keys step.before = some key →
        ∃ certificate, step.input.certificate = some certificate ∧
          keys.signed key certificate = true)) ∧
    ((∀ step ∈ (memberMachine keys start).steps deliveries,
        ¬ TransfersByRecord step.before step.input) →
      (adoptedEpochs keys start deliveries).Pairwise (· < ·)) := by
  refine ⟨?_, pairwise_adoptedEpochs⟩
  intro step _
  have delivered : Delivered keys step.before step.input step.output := delivered_apply _ _
  cases delivered with
  | unchanged notAdopted same => exact ⟨fun _ => same, fun adopted => absurd adopted notAdopted⟩
  | byRecord adopted carries signed | byView adopted carries signed =>
    exact ⟨fun notAdopted => absurd adopted notAdopted,
      fun _ key pinned => ⟨_, carries, signed key pinned⟩⟩

/-! ## Two transfers and a replay -/

def sampleKeys : KeyScheme where
  parse key := if key = "" then none else some key
  verify key payload signature := signature == key ++ ":" ++ payload

def signedSample (signer : String) (certificate : HostTransferCertificate) :
    HostTransferCertificate :=
  { certificate with signature := some (signer ++ ":" ++ certificatePayload certificate) }

def sampleToSecond : HostTransferCertificate :=
  signedSample "key-a" {
    meshId := "mesh", newHostDaemonId := "daemon_mach_b", hostEpoch := 1
    newHostPublicKey := "key-b", handoffId := "first", previousHostDaemonId := "daemon_mach_a"
    issuedAt := 1, signature := none }

def sampleBackToFirst : HostTransferCertificate :=
  signedSample "key-b" {
    meshId := "mesh", newHostDaemonId := "daemon_mach_a", hostEpoch := 2
    newHostPublicKey := "key-a", handoffId := "second", previousHostDaemonId := "daemon_mach_b"
    issuedAt := 2, signature := none }

def sampleDelivery (certificate : HostTransferCertificate) : Delivery where
  meshId := "mesh"
  certificate := some certificate
  sender := some "daemon_mach_c"

def sampleReplay : List Delivery :=
  [sampleDelivery sampleToSecond, sampleDelivery sampleBackToFirst, sampleDelivery sampleToSecond]

/-- A worker paired with its host, without an entry of the mesh. -/
def sampleRecordOnly : MemberStores where
  entry := none
  record := some ⟨"daemon_mach_a", .pairing, some "key-a"⟩
  peerKeys := []
  peerSecrets := []
  anchors := []

def sampleWithEntry : MemberStores :=
  { sampleRecordOnly with
    entry := some {
      role := some .member, hostDaemonId := some "daemon_mach_a"
      originGrantPublicKey := some "key-a" } }

/-- With an entry the replayed certificate is refused. -/
theorem member_follows_forward_replay :
    adoptedEpochs sampleKeys sampleWithEntry sampleReplay = [1, 2] ∧
      (adoptedEpochs sampleKeys sampleWithEntry sampleReplay).Pairwise (· < ·) := by
  refine ⟨by decide, (member_follows_forward sampleKeys sampleWithEntry sampleReplay).2 ?_⟩
  have entries : ∀ step ∈ (memberMachine sampleKeys sampleWithEntry).steps sampleReplay,
      step.before.entry ≠ none := by decide
  rintro step member ⟨absent, _⟩
  exact entries step member absent

/-- On the record alone the same genuine certificates take the member back to the
first transfer. -/
theorem record_follows_replay :
    sampleKeys.signed "key-a" sampleToSecond = true ∧
      sampleKeys.signed "key-b" sampleBackToFirst = true ∧
      adoptedEpochs sampleKeys sampleRecordOnly sampleReplay = [1, 2, 1] ∧
      ¬ (adoptedEpochs sampleKeys sampleRecordOnly sampleReplay).Pairwise (· < ·) := by
  decide

end Adhdev.HostHandoff
