import Adhdev.HostHandoff.SourceView
import Adhdev.HostHandoff.TargetView

/-! # The invariant of the source

What holds of the source's store in every state of every run, given what the
targets have stored by then. `orderly` stands for the runs in which no resume
aborts a handoff that an advance in flight is about to move, and `careful` for
those in which no stop falls between the two writes of an abort. -/

namespace Adhdev.HostHandoff

def SourcePhase.beforeIntent : SourcePhase → Bool
  | .preflight | .freezing | .frozen | .exporting | .exported | .awaitingAck | .acked => true
  | _ => false

def SourcePhase.exportBegun : SourcePhase → Bool
  | .exporting | .exported | .awaitingAck | .acked => true
  | _ => false

def SourcePhase.digested : SourcePhase → Bool
  | .exported | .awaitingAck | .acked => true
  | _ => false

def SourcePhase.stopping : SourcePhase → Bool
  | .freezing | .frozen => true
  | _ => false

abbrev Targets := DaemonId → TargetData

namespace SourceView

variable (orderly careful : Prop) (targets : Targets)

def Live (handoffId : HandoffId) (handoff : Handoff) : Prop :=
  handoff.phase.terminal = false ∧
    (handoff.intended = true → ¬ (targets handoff.peer).Discarded handoffId)

structure Ordered (view : SourceView) : Prop where
  oneLive : ∀ {one other first second}, view.handoff one = some first →
    view.handoff other = some second → Live targets one first → Live targets other second →
    one = other
  oneIntended : ∀ {one other first second}, view.handoff one = some first →
    view.handoff other = some second → first.intended = true → second.intended = true →
    one = other ∨ (targets first.peer).Discarded one ∨ (targets second.peer).Discarded other
  followerIntended : ∀ {handoffId handoff}, view.handoff handoffId = some handoff →
    view.role = .member → handoff.phase.terminal = false → handoff.intended = true
  intendedPhase : ∀ {handoffId handoff}, view.handoff handoffId = some handoff →
    handoff.intended = true → handoff.phase.beforeIntent = false
  digestPhase : ∀ {handoffId handoff}, view.handoff handoffId = some handoff →
    handoff.phase.beforeIntent = true → handoff.digest.isSome = handoff.phase.digested
  ackStaged : ∀ {handoffId handoff}, view.handoff handoffId = some handoff →
    handoff.phase = .acked → ∃ manifest, handoff.digest = some manifest ∧
      (targets handoff.peer).Staged handoffId manifest
  ended : ∀ {handoffId handoff}, view.handoff handoffId = some handoff → view.ended handoffId →
    handoff.phase = .aborted ∧ handoff.intended = false ∨
      handoff.intended = true ∧ (targets handoff.peer).Discarded handoffId

/-- The snapshot the target was told to apply is the present contents. -/
def Current (view : SourceView) (handoffId : HandoffId) (handoff : Handoff) : Prop :=
  view.cut = some handoffId ∧ ∃ manifest, handoff.digest = some manifest ∧
    manifest.contents = view.contents ∧ (targets handoff.peer).Staged handoffId manifest

/-- What holds in every state. -/
structure Sound (view : SourceView) : Prop where
  fenced : ∀ {handoffId handoff}, view.handoff handoffId = some handoff →
    handoff.intended = true → view.role = .member ∨ view.fence = some handoffId ∨
      (targets handoff.peer).Discarded handoffId
  committed : ∀ {handoffId handoff}, view.handoff handoffId = some handoff →
    handoff.phase = .committed → (targets handoff.peer).Active handoffId ∧ view.role = .member
  intended : ∀ {handoffId handoff}, view.handoff handoffId = some handoff →
    handoff.phase.beforeIntent = false → handoff.phase ≠ .aborted → handoff.intended = true
  aborted : ∀ {handoffId handoff}, view.handoff handoffId = some handoff →
    handoff.phase = .aborted → view.ended handoffId ∧
      (handoff.intended = true → (targets handoff.peer).Discarded handoffId)
  stopped : ∀ {handoffId handoff}, view.handoff handoffId = some handoff →
    handoff.phase.exportBegun = true ∨ handoff.intended = true → view.stopped handoffId = true
  activates : ∀ {peer handoffId epoch certificate},
    (peer, Request.activate handoffId epoch certificate) ∈ view.sent →
    ∃ handoff, view.handoff handoffId = some handoff ∧ handoff.intended = true ∧
      handoff.peer = peer ∧ handoff.epoch = epoch
  known : ∀ {handoffId}, view.ended handoffId ∨ view.stopped handoffId = true →
    ∃ handoff, view.handoff handoffId = some handoff
  history : view.history = true → view.role = .member
  proved : view.proved
  ordered : orderly → Ordered targets view
  current : orderly → careful → ∀ {handoffId handoff}, view.handoff handoffId = some handoff →
    handoff.intended = true → ¬ (targets handoff.peer).Discarded handoffId →
    Current targets view handoffId handoff

def Fenced (view : SourceView) (handoffId : HandoffId) : Prop :=
  view.cut = some handoffId ∧ (view.fence = some handoffId ∨ view.role = .member)

/-- A stopped handoff whose abort is not journalled is fenced, and a snapshot it
has cut is still the present contents. -/
def Kept (view : SourceView) : Prop :=
  orderly → careful → ∀ {handoffId handoff}, view.handoff handoffId = some handoff →
    view.stopped handoffId = true → ¬ view.ended handoffId →
    view.Fenced handoffId ∧
      ∀ manifest, handoff.digest = some manifest → manifest.contents = view.contents

structure Grown (view later : SourceView) : Prop where
  handoff : ∀ {handoffId handoff}, view.handoff handoffId = some handoff →
    ∃ next, later.handoff handoffId = some next ∧ next.peer = handoff.peer ∧
      next.epoch = handoff.epoch ∧ (handoff.intended = true → next.intended = true) ∧
      (orderly → ∀ manifest, handoff.digest = some manifest → next.digest = some manifest)
  follows : view.role = .member → later.role = .member
  stopped : ∀ {handoffId}, view.stopped handoffId = true → later.stopped handoffId = true
  ended : ∀ {handoffId}, view.ended handoffId → later.ended handoffId
  released : orderly → ∀ {handoffId}, view.stopped handoffId = true →
    view.cut ≠ some handoffId → later.cut ≠ some handoffId

/-- The host role is here and every handoff has been aborted. -/
def Quiet (view : SourceView) : Prop :=
  view.role = .host ∧ ∀ {handoffId handoff}, view.handoff handoffId = some handoff →
    view.ended handoffId

def Guards (lock : SourceLock) (view later : SourceView) : Prop :=
  match lock with
  | .starting =>
    (∀ handoffId, view.handoff handoffId = none → later.handoff handoffId = none) ∧
      (orderly → view.Quiet → later.role = .host)
  | .busy handoffId =>
    orderly → ∀ handoff, view.handoff handoffId = some handoff → handoff.digest = none →
      handoff.phase.stopping = true →
      (∃ next, later.handoff handoffId = some next ∧ next.digest = none ∧
        next.phase = handoff.phase) ∧
      later.stopped handoffId = view.stopped handoffId ∧
      (view.fence = some handoffId → later.fence = some handoffId)
  | .activating _ => True

/-- A busy mark protects nothing once the snapshot is cut. -/
def Matters (lock : SourceLock) (view : SourceView) : Prop :=
  match lock with
  | .starting => True
  | .busy handoffId =>
    orderly ∧ ∀ handoff, view.handoff handoffId = some handoff → handoff.digest = none
  | .activating _ => False

structure Change (owned locks : List SourceLock) (view later : SourceView) : Prop where
  sound : later.Sound orderly careful targets
  kept : later.Kept orderly careful
  grown : view.Grown orderly later
  guards : ∀ lock ∈ locks, lock ∉ owned → view.Guards orderly lock later

end SourceView

end Adhdev.HostHandoff
