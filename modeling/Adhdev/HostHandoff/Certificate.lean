import Adhdev.MeshShared.DaemonIds

/-! # The host transfer certificate

`host-handoff/certificate.ts`: the previous host signs who the next host is. A
member replaces the host it follows only when the signature verifies against the
key it already holds for the previous host and the epoch is higher. -/

namespace Adhdev.HostHandoff

open MeshShared

structure SourceStopProof where
  sessionIds : List String
  checkedAt : Int
  deriving DecidableEq

structure HostTransferCertificate where
  sourceStopped : Bool := false
  sourceStopProof : Option SourceStopProof := none
  meshId : String
  newHostDaemonId : String
  newHostNodeId : Option String := none
  hostEpoch : Int
  newHostPublicKey : String
  handoffId : String
  previousHostDaemonId : String
  issuedAt : Int
  signature : Option String
  deriving DecidableEq

/-- Parsing of a public key and verification of a signature, as the runtime's
crypto library does them. A verification that throws does not verify. -/
structure KeyScheme where
  parse : String → Option String
  verify : String → String → String → Bool

/-! ## The signed text -/

def hexDigits (value : Nat) : String :=
  let digits := Nat.toDigits 16 value
  String.ofList (List.replicate (4 - digits.length) '0' ++ digits)

/-- One character of a `JSON.stringify` string. -/
def jsonChar (char : Char) : String :=
  if char == '"' then "\\\""
  else if char == '\\' then "\\\\"
  else if char.toNat == 8 then "\\b"
  else if char.toNat == 9 then "\\t"
  else if char.toNat == 10 then "\\n"
  else if char.toNat == 12 then "\\f"
  else if char.toNat == 13 then "\\r"
  else if char.toNat < 32 then "\\u" ++ hexDigits char.toNat
  else char.toString

def jsonString (text : String) : String :=
  "\"" ++ String.join (text.toList.map jsonChar) ++ "\""

/-- `JSON.stringify([sessionIds, checkedAt, true])`. -/
def stopProofText (proof : SourceStopProof) : String :=
  "[[" ++ String.intercalate "," (proof.sessionIds.map jsonString) ++ "]," ++
    toString proof.checkedAt ++ ",true]"

/-- Fixed field order, NUL-separated, domain-prefixed. -/
def certificatePayload (certificate : HostTransferCertificate) : String :=
  String.intercalate "\x00" (
    ["adhdev.host-transfer.v1", certificate.meshId, certificate.newHostDaemonId,
      certificate.newHostNodeId.getD "", toString certificate.hostEpoch,
      certificate.newHostPublicKey, certificate.handoffId, certificate.previousHostDaemonId,
      toString certificate.issuedAt] ++
    (if certificate.sourceStopped then ["source-stopped-v2"] else []) ++
    match certificate.sourceStopProof with
    | some proof => ["source-stop-proof", stopProofText proof]
    | none => [])

/-! ## Verification -/

inductive CertificateRefusal
  | certificateInvalid | certificateWrongSigner | certificateStaleEpoch | certificateWrongMesh

structure MemberHostView where
  meshId : String
  pinnedHostDaemonId : String
  pinnedHostPublicKey : String
  heldEpoch : Int

def KeyScheme.signed (keys : KeyScheme) (publicKey : String)
    (certificate : HostTransferCertificate) : Bool :=
  match keys.parse publicKey, certificate.signature with
  | some key, some signature => keys.verify key (certificatePayload certificate) signature
  | _, _ => false

/-- The refusal, or `none` when the certificate verifies. -/
def verifyHostTransferCertificate (keys : KeyScheme) (certificate : HostTransferCertificate)
    (view : MemberHostView) : Option CertificateRefusal :=
  if certificate.signature.isNone || certificate.meshId != view.meshId then
    some .certificateWrongMesh
  else if !daemonIdsEquivalent certificate.previousHostDaemonId view.pinnedHostDaemonId then
    some .certificateWrongSigner
  else if !isSafeInteger certificate.hostEpoch || certificate.hostEpoch ≤ view.heldEpoch then
    some .certificateStaleEpoch
  else if !keys.signed view.pinnedHostPublicKey certificate then some .certificateInvalid
  else none

structure Verified (keys : KeyScheme) (certificate : HostTransferCertificate)
    (view : MemberHostView) : Prop where
  signed : keys.signed view.pinnedHostPublicKey certificate = true
  safe : isSafeInteger certificate.hostEpoch = true
  higher : view.heldEpoch < certificate.hostEpoch

variable {certificate : HostTransferCertificate}

theorem verified_of_verify {keys : KeyScheme} {view : MemberHostView}
    (verifies : verifyHostTransferCertificate keys certificate view = none) :
    Verified keys certificate view := by
  unfold verifyHostTransferCertificate at verifies
  split_ifs at verifies with wrongMesh wrongSigner stale invalid
  rw [Bool.or_eq_true, not_or] at stale
  exact ⟨by simpa using invalid, by simpa using stale.1, by simpa using stale.2⟩

structure MemberHostState where
  hostDaemonId : String
  hostNodeId : Option String
  hostPublicKey : String
  hostEpoch : Int

def adoptHostTransfer (keys : KeyScheme) (certificate : HostTransferCertificate)
    (meshId : String) (current : MemberHostState) : Except CertificateRefusal MemberHostState :=
  match verifyHostTransferCertificate keys certificate {
      meshId := meshId
      pinnedHostDaemonId := current.hostDaemonId
      pinnedHostPublicKey := current.hostPublicKey
      heldEpoch := current.hostEpoch } with
  | some refusal => .error refusal
  | none => .ok {
      hostDaemonId := certificate.newHostDaemonId
      hostNodeId := certificate.newHostNodeId.filter (· != "")
      hostPublicKey := certificate.newHostPublicKey
      hostEpoch := certificate.hostEpoch }

theorem verified_of_adopt {keys : KeyScheme} {meshId : String} {current next : MemberHostState}
    (adopts : adoptHostTransfer keys certificate meshId current = .ok next) :
    Verified keys certificate {
      meshId := meshId
      pinnedHostDaemonId := current.hostDaemonId
      pinnedHostPublicKey := current.hostPublicKey
      heldEpoch := current.hostEpoch } ∧ next.hostEpoch = certificate.hostEpoch := by
  unfold adoptHostTransfer at adopts
  split at adopts
  · cases adopts
  rename_i verifies
  cases adopts
  exact ⟨verified_of_verify verifies, rfl⟩

end Adhdev.HostHandoff
