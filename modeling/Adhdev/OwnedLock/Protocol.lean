import Adhdev.Foundation.Machine

/-! # The owned lock

`owned-lock.ts` without a maximum lock age: a lock directory with an owner record, and a guard
directory under which an abandoned lock is removed. Every file operation of a process is a step,
and any of them may fail.
-/

namespace Adhdev.OwnedLock

inductive IdentityFormat
  | linuxStartTicks | darwinEpochSeconds
  deriving DecidableEq

structure StartIdentity where
  format : IdentityFormat
  value : String
  deriving DecidableEq

/-- A record, and the process that wrote it. Its nonce is its number among the records. -/
structure LockOwner where
  writer : Nat
  pid : Nat
  acquiredAt : Int
  startId : Option StartIdentity

inductive FileName
  | owner
  | reaped (claim : Nat)
  deriving DecidableEq

/-- A record is torn until it is written. -/
structure OwnerFile where
  nonce : Nat
  complete : Bool

structure LockDir where
  files : List (FileName × OwnerFile) := []
  mtime : Int

inductive Observed
  | owner (nonce : Nat)
  | ownerless (mtime : Int)
  deriving DecidableEq

/-- The attempt of the acquisition, and the lock that it found. -/
structure Reclaim where
  attempt : Nat
  observed : Observed

/-- What a process does next. -/
inductive Phase
  | idle
  | makingLock (attempt : Nat)
  | creatingOwner
  | writingOwner (nonce : Nat)
  | unmakingLock
  | holding (nonce : Nat)
  | releasing (nonce : Nat)
  | removingOwn (nonce : Nat)
  | removingOwnLock
  | observing (attempt : Nat)
  | observingAge (attempt : Nat)
  | judging (reclaim : Reclaim)
  | makingGuard (reclaim : Reclaim) (recovered : Bool)
  | creatingGuardOwner (reclaim : Reclaim)
  | writingGuardOwner (reclaim : Reclaim) (nonce : Nat)
  | unmakingGuard
  | observingGuard (reclaim : Reclaim)
  | judgingGuard (reclaim : Reclaim) (found : Nat)
  | claimingGuard (reclaim : Reclaim) (found : Nat)
  | readingClaim (reclaim : Reclaim) (found claim : Nat)
  | returningClaim (claim : Nat)
  | droppingClaim (reclaim : Reclaim) (claim : Nat)
  | unmakingDeadGuard (reclaim : Reclaim)
  | rechecking (reclaim : Reclaim) (nonce : Nat)
  | recheckingAge (reclaim : Reclaim) (nonce : Nat)
  | rejudging (reclaim : Reclaim) (nonce : Nat) (recheck : Observed)
  | removingOwner (attempt nonce : Nat) (recheck : Observed)
  | removingLock (attempt nonce : Nat)
  | releasingGuard (attempt nonce : Nat) (reclaimed : Bool)
  | removingGuardOwner (attempt : Nat) (reclaimed : Bool)
  | removingGuard (attempt : Nat) (reclaimed : Bool)

/-- `startKnown` says that the process could probe its own start identity. -/
structure LockProcess where
  pid : Nat
  identity : StartIdentity
  startKnown : Bool
  ownerlessMaxAgeMs : Option Int := none
  alive : Bool := true
  phase : Phase := .idle

/-- `claims` are the processes that drew a name for a renamed record. -/
structure World where
  lock : Option LockDir := none
  guardDir : Option LockDir := none
  clock : Int := 0
  owners : List LockOwner := []
  claims : List Nat := []
  processes : List LockProcess := []

def ownerlessStaleMs : Int := 60000

/-! ## Directories -/

def LockDir.file (name : FileName) (dir : LockDir) : Option OwnerFile := dir.files.lookup name

/-- `unlink` -/
def LockDir.unlinks (clock : Int) (name : FileName) (dir : LockDir) : LockDir :=
  match dir.file name with
  | none => dir
  | some _ => { files := dir.files.filter (·.1 ≠ name), mtime := clock }

/-- `rename` within the directory -/
def LockDir.renames (clock : Int) (name other : FileName) (dir : LockDir) : LockDir :=
  match dir.file name with
  | none => dir
  | some file =>
    { files := (other, file) :: (dir.files.filter fun entry => entry.1 ≠ name && entry.1 ≠ other)
      mtime := clock }

def OwnerFile.completes (nonce : Nat) (file : OwnerFile) : OwnerFile :=
  if file.nonce = nonce then { file with complete := true } else file

/-- The record is whole, under whatever name it has by now. -/
def LockDir.completes (nonce : Nat) (dir : LockDir) : LockDir :=
  { dir with files := dir.files.map fun entry => (entry.1, entry.2.completes nonce) }

def readRecord (name : FileName) (dir : Option LockDir) : Option Nat :=
  ((dir.bind (LockDir.file name)).filter (·.complete)).map (·.nonce)

def missing (name : FileName) (dir : Option LockDir) : Bool := (dir.bind (LockDir.file name)).isNone

def removable (dir : Option LockDir) : Bool := dir.any (·.files.isEmpty)

/-- `rmdir` -/
def removeDir (dir : Option LockDir) : Option LockDir := if removable dir then none else dir

namespace World

def withLock (world : World) (lock : Option LockDir) : World := { world with lock }

def withGuard (world : World) (guardDir : Option LockDir) : World := { world with guardDir }

def goes (world : World) (index : Nat) (phase : Phase) : World :=
  { world with processes := world.processes.modify index fun process => { process with phase } }

def draws (world : World) (index : Nat) (process : LockProcess) : World :=
  { world with
    owners := world.owners ++ [{
      writer := index, pid := process.pid, acquiredAt := world.clock
      startId := if process.startKnown then some process.identity else none }] }

def drawsClaim (world : World) (index : Nat) : World :=
  { world with claims := world.claims ++ [index] }

def created (world : World) : Option LockDir → Option LockDir
  | none => none
  | some dir =>
    if (dir.file .owner).isSome then none
    else some { files := (.owner, ⟨world.owners.length, false⟩) :: dir.files, mtime := world.clock }

/-! ## Abandoned records -/

def isPidAlive (world : World) (pid : Nat) : Bool :=
  world.processes.any fun process => process.alive && process.pid = pid

def startOf (world : World) (pid : Nat) (answers : Bool) : Option StartIdentity :=
  if answers then
    (world.processes.find? fun process => process.alive && process.pid = pid).map (·.identity)
  else none

def pidReused (world : World) (owner : LockOwner) (answers : Bool) : Bool :=
  owner.startId.any fun recorded => (world.startOf owner.pid answers).any fun current =>
    current.format = recorded.format && current ≠ recorded

def abandoned (world : World) (process : LockProcess) (answers : Bool) : Observed → Bool
  | .owner nonce =>
    world.owners[nonce]?.any fun owner =>
      !world.isPidAlive owner.pid ||
        (owner.pid = process.pid || ownerlessStaleMs ≤ world.clock - owner.acquiredAt) &&
          world.pidReused owner answers
  | .ownerless mtime => process.ownerlessMaxAgeMs.getD ownerlessStaleMs ≤ world.clock - mtime

def guardDead (world : World) (answers : Bool) (found : Nat) : Bool :=
  world.owners[found]?.any fun owner =>
    !world.isPidAlive owner.pid || world.pidReused owner answers

end World

def sameInstance : Observed → Observed → Bool
  | .owner nonce, .owner other => nonce = other
  | .ownerless _, .ownerless _ => true
  | _, _ => false

/-! ## Steps -/

def retry (attempt : Nat) : Phase := if attempt + 1 < 3 then .makingLock (attempt + 1) else .idle

def afterReclaim (attempt : Nat) (reclaimed : Bool) : Phase :=
  if reclaimed then retry attempt else .idle

namespace World

def acquireStep (world : World) (index : Nat) (process : LockProcess) (fails : Bool) :
    Phase → World × Phase
  | .makingLock attempt =>
    if fails then (world, .idle)
    else if world.lock.isSome then (world, .observing attempt)
    else (world.withLock (some { mtime := world.clock }), .creatingOwner)
  | .creatingOwner =>
    match world.created world.lock, fails with
    | some dir, false =>
      ((world.withLock (some dir)).draws index process, .writingOwner world.owners.length)
    | _, _ => (world, .unmakingLock)
  | .writingOwner nonce =>
    if fails then (world, .unmakingLock)
    else (world.withLock (world.lock.map (LockDir.completes nonce)), .holding nonce)
  | .unmakingLock => (world.withLock (if fails then world.lock else removeDir world.lock), .idle)
  | phase => (world, phase)

def releaseStep (world : World) (fails : Bool) : Phase → World × Phase
  | .releasing nonce =>
    if readRecord .owner world.lock = some nonce ∧ fails = false then (world, .removingOwn nonce)
    else (world, .idle)
  | .removingOwn _ =>
    if fails || missing .owner world.lock then (world, .idle)
    else (world.withLock (world.lock.map (LockDir.unlinks world.clock .owner)), .removingOwnLock)
  | .removingOwnLock => (world.withLock (if fails then world.lock else removeDir world.lock), .idle)
  | phase => (world, phase)

def observeStep (world : World) (process : LockProcess) (fails answers : Bool) :
    Phase → World × Phase
  | .observing attempt =>
    match readRecord .owner world.lock, fails with
    | some nonce, false => (world, .judging ⟨attempt, .owner nonce⟩)
    | _, _ => (world, .observingAge attempt)
  | .observingAge attempt =>
    match world.lock, fails with
    | some dir, false => (world, .judging ⟨attempt, .ownerless dir.mtime⟩)
    | _, _ => (world, retry attempt)
  | .judging reclaim =>
    if world.abandoned process answers reclaim.observed then (world, .makingGuard reclaim false)
    else (world, .idle)
  | phase => (world, phase)

/-- `takeReclaimGuard` -/
def guardStep (world : World) (index : Nat) (process : LockProcess) (fails : Bool) :
    Phase → World × Phase
  | .makingGuard reclaim recovered =>
    if fails then (world, .idle)
    else if world.guardDir.isSome then
      (world, if recovered then .idle else .observingGuard reclaim)
    else (world.withGuard (some { mtime := world.clock }), .creatingGuardOwner reclaim)
  | .creatingGuardOwner reclaim =>
    match world.created world.guardDir, fails with
    | some dir, false =>
      ((world.withGuard (some dir)).draws index process,
        .writingGuardOwner reclaim world.owners.length)
    | _, _ => (world, .unmakingGuard)
  | .writingGuardOwner reclaim nonce =>
    if fails then (world, .unmakingGuard)
    else (world.withGuard (world.guardDir.map (LockDir.completes nonce)),
      .rechecking reclaim nonce)
  | .unmakingGuard =>
    (world.withGuard (if fails then world.guardDir else removeDir world.guardDir), .idle)
  | phase => (world, phase)

/-- `recoverDeadGuard` -/
def recoverStep (world : World) (index : Nat) (fails answers : Bool) : Phase → World × Phase
  | .observingGuard reclaim =>
    match readRecord .owner world.guardDir, fails with
    | some found, false => (world, .judgingGuard reclaim found)
    | _, _ => (world, .idle)
  | .judgingGuard reclaim found =>
    if world.guardDead answers found then (world, .claimingGuard reclaim found)
    else (world, .idle)
  | .claimingGuard reclaim found =>
    if fails || missing .owner world.guardDir then (world, .idle)
    else ((world.withGuard (world.guardDir.map
        (LockDir.renames world.clock .owner (.reaped world.claims.length)))).drawsClaim index,
      .readingClaim reclaim found world.claims.length)
  | .readingClaim reclaim found claim =>
    if readRecord (.reaped claim) world.guardDir = some found ∧ fails = false then
      (world, .droppingClaim reclaim claim)
    else (world, .returningClaim claim)
  | .returningClaim claim =>
    if fails then (world, .idle)
    else (world.withGuard (world.guardDir.map
      (LockDir.renames world.clock (.reaped claim) .owner)), .idle)
  | .droppingClaim reclaim claim =>
    if fails || missing (.reaped claim) world.guardDir then (world, .idle)
    else (world.withGuard (world.guardDir.map (LockDir.unlinks world.clock (.reaped claim))),
      .unmakingDeadGuard reclaim)
  | .unmakingDeadGuard reclaim =>
    if fails || !removable world.guardDir then (world, .idle)
    else (world.withGuard none, .makingGuard reclaim true)
  | phase => (world, phase)

def reclaimStep (world : World) (process : LockProcess) (fails answers : Bool) :
    Phase → World × Phase
  | .rechecking reclaim nonce =>
    match readRecord .owner world.lock, fails with
    | some found, false => (world, .rejudging reclaim nonce (.owner found))
    | _, _ => (world, .recheckingAge reclaim nonce)
  | .recheckingAge reclaim nonce =>
    match world.lock, fails with
    | some dir, false => (world, .rejudging reclaim nonce (.ownerless dir.mtime))
    | _, _ => (world, .releasingGuard reclaim.attempt nonce true)
  | .rejudging reclaim nonce recheck =>
    if sameInstance reclaim.observed recheck && world.abandoned process answers recheck then
      (world, .removingOwner reclaim.attempt nonce recheck)
    else (world, .releasingGuard reclaim.attempt nonce false)
  | .removingOwner attempt nonce _ =>
    (world.withLock (if fails then world.lock
      else world.lock.map (LockDir.unlinks world.clock .owner)), .removingLock attempt nonce)
  | .removingLock attempt nonce =>
    if fails || !removable world.lock then (world, .releasingGuard attempt nonce false)
    else (world.withLock none, .releasingGuard attempt nonce true)
  | phase => (world, phase)

/-- `releaseReclaimGuard` -/
def releaseGuardStep (world : World) (fails : Bool) : Phase → World × Phase
  | .releasingGuard attempt nonce reclaimed =>
    if (readRecord .owner world.guardDir).any (· ≠ nonce) && !fails then
      (world, afterReclaim attempt reclaimed)
    else (world, .removingGuardOwner attempt reclaimed)
  | .removingGuardOwner attempt reclaimed =>
    (world.withGuard (if fails then world.guardDir
      else world.guardDir.map (LockDir.unlinks world.clock .owner)),
      .removingGuard attempt reclaimed)
  | .removingGuard attempt reclaimed =>
    (world.withGuard (if fails then world.guardDir else removeDir world.guardDir),
      afterReclaim attempt reclaimed)
  | phase => (world, phase)

def operates (world : World) (index : Nat) (process : LockProcess) (fails answers : Bool) :
    World × Phase :=
  match process.phase with
  | .idle | .holding _ => (world, process.phase)
  | .makingLock _ | .creatingOwner | .writingOwner _ | .unmakingLock =>
    world.acquireStep index process fails process.phase
  | .releasing _ | .removingOwn _ | .removingOwnLock => world.releaseStep fails process.phase
  | .observing _ | .observingAge _ | .judging _ =>
    world.observeStep process fails answers process.phase
  | .makingGuard _ _ | .creatingGuardOwner _ | .writingGuardOwner _ _ | .unmakingGuard =>
    world.guardStep index process fails process.phase
  | .observingGuard _ | .judgingGuard _ _ | .claimingGuard _ _ | .readingClaim _ _ _
  | .returningClaim _ | .droppingClaim _ _ | .unmakingDeadGuard _ =>
    world.recoverStep index fails answers process.phase
  | .rechecking _ _ | .recheckingAge _ _ | .rejudging _ _ _ | .removingOwner _ _ _
  | .removingLock _ _ => world.reclaimStep process fails answers process.phase
  | .releasingGuard _ _ _ | .removingGuardOwner _ _ | .removingGuard _ _ =>
    world.releaseGuardStep fails process.phase

def fileStep (world : World) (index : Nat) (process : LockProcess) (fails answers : Bool) : World :=
  let next := world.operates index process fails answers
  next.1.goes index next.2

def live (world : World) (index : Nat) : Option LockProcess :=
  world.processes[index]?.filter (·.alive)

def acquires (world : World) (index : Nat) (ownerlessMaxAgeMs : Option Int) : World :=
  { world with
    processes := world.processes.modify index fun process =>
      { process with ownerlessMaxAgeMs, phase := .makingLock 0 } }

def crashes (world : World) (index : Nat) : World :=
  { world with
    processes := world.processes.modify index fun process => { process with alive := false } }

end World

inductive LockInput
  | spawn (pid : Nat) (identity : StartIdentity) (startKnown : Bool)
  | acquire (index : Nat) (ownerlessMaxAgeMs : Option Int)
  | release (index : Nat)
  | fileStep (index : Nat) (fails answers : Bool)
  | crash (index : Nat)
  | elapse (ms : Nat)

/-- The pid of a live process is never given to another. -/
def World.respond (world : World) : LockInput → World
  | .spawn pid identity startKnown =>
    if world.isPidAlive pid then world
    else { world with processes := world.processes ++ [{ pid, identity, startKnown }] }
  | .acquire index ownerlessMaxAgeMs =>
    match (world.live index).map LockProcess.phase with
    | some .idle => world.acquires index ownerlessMaxAgeMs
    | _ => world
  | .release index =>
    match (world.live index).map LockProcess.phase with
    | some (.holding nonce) => world.goes index (.releasing nonce)
    | _ => world
  | .fileStep index fails answers =>
    match world.live index with
    | none => world
    | some process => world.fileStep index process fails answers
  | .crash index => world.crashes index
  | .elapse ms => { world with clock := world.clock + ms }

def lockMachine : Machine World LockInput World where
  initial := {}
  respond := World.respond
  advance := id

end Adhdev.OwnedLock
