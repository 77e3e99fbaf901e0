import Adhdev.Transfer.Moves

/-! # The two ends of a transfer

The source and the target of one transfer, each with the daemon around it, and the
messages by which the target says that it has published. Whatever else passes between
them (link frames, other control messages, losses of both) is what the actions of
either engine may bring.
-/

namespace Adhdev.Transfer

open Engine

structure TransferPair where
  source : Engine
  target : Engine
  /-- The names of the `completed` messages that the target has sent. -/
  messages : List (Option String)

/-- A message may be delivered late, more than once or never. -/
inductive PairInput
  | source (env : Env) (action : Action)
  | target (env : Env) (action : Action)
  | deliver (env : Env) (publishedName : Option String)

def isPublished (engine : Engine) : Bool := engine.receipts.any (·.outcome == .completed)

def publishes (before after : Engine) : Bool :=
  (after.receipts.drop before.receipts.length).any (·.outcome == .completed)

def Action.isCompletion : Action → Bool
  | .peer (.state (.completed _)) => true
  | _ => false

section Pair

variable (validFinalName : String → Bool)

/-- `onPeerState` with the name as the message has it. -/
def stateMessage (publishedName : Option String) : PeerOp :=
  .state (.completed (publishedName.map fun name =>
    if validFinalName name then some name else none))

def TransferPair.step (pair : TransferPair) : PairInput → TransferPair
  | .source env action =>
    if action.isCompletion then pair
    else { pair with source := (pair.source.act env action).1 }
  | .target env action =>
    let later := (pair.target.act env action).1
    { pair with
      target := later
      messages :=
        if publishes pair.target later then pair.messages ++ [later.record.publishedName]
        else pair.messages }
  | .deliver env publishedName =>
    if publishedName ∈ pair.messages then
      { pair with
        source := (pair.source.act env
          (.peer (stateMessage validFinalName publishedName))).1 }
    else pair

def ready (source : Engine) (env : Env) (publishedName : Option String) : Bool :=
  env.peerAuthorized &&
    (source.record.state == .verifying || source.record.state == .transferring) &&
    Engine.acknowledged source.record && publishedName.all validFinalName

/-- A message that reaches an open source completes it. -/
def Agrees (before after : TransferPair) : PairInput → Prop
  | .deliver _ publishedName => publishedName ∈ before.messages →
      before.source.record.state.isTerminal = false → after.source.record.state = .completed
  | _ => True

instance (before after : TransferPair) :
    (input : PairInput) → Decidable (Agrees before after input)
  | .source _ _ => .isTrue trivial
  | .target _ _ => .isTrue trivial
  | .deliver _ publishedName => inferInstanceAs (Decidable (publishedName ∈ before.messages →
      before.source.record.state.isTerminal = false →
        after.source.record.state = .completed))

end Pair

/-! ## What an engine keeps -/

structure Grows (before after : Engine) : Prop where
  role : after.record.role = before.record.role
  receipts : before.receipts <+: after.receipts

theorem Grows.trans {first second third : Engine} (earlier : Grows first second)
    (later : Grows second third) : Grows first third :=
  ⟨later.role.trans earlier.role, earlier.receipts.trans later.receipts⟩

theorem grows_completeRecord (engine : Engine) (env : Env) :
    Grows engine (engine.completeRecord env) where
  role := by
    rw [completeRecord]
    dsimp only
    rw [teardownRun_record]
  receipts := by
    rw [completeRecord]
    dsimp only
    rw [teardownRun_receipts]
    exact List.prefix_append _ _

theorem grows_moves : Engine.Moves Grows where
  trans := Grows.trans
  same role _ _ receipts := ⟨role, by rw [receipts]⟩
  opens role receipts _ := ⟨role, by rw [receipts]⟩
  terminates before env termination code := by
    rw [terminate]
    split
    · exact ⟨rfl, List.prefix_refl _⟩
    constructor
    · dsimp only
      rw [teardownRun_record, cancelRun_record]
    dsimp only
    rw [teardownRun_receipts, cancelRun_receipts]
    exact List.prefix_append _ _

theorem act_grows (engine : Engine) (env : Env) (action : Action) :
    Grows engine (engine.act env action).1 :=
  act_moves grows_moves engine env action fun _ middle => grows_completeRecord middle env

theorem uncompleted_moves : Engine.Moves fun before after : Engine =>
    after.record.state = .completed → before.record.state = .completed where
  trans earlier later completed := earlier (later completed)
  same _ state _ _ completed := state.symm.trans completed
  opens _ _ goesOn completed := by
    rw [completed] at goesOn
    cases goesOn
  terminates before env termination code := by
    rw [terminate]
    split
    · exact id
    intro completed
    dsimp only at completed
    cases termination <;> cases completed

theorem act_uncompleted {engine : Engine} {env : Env} {action : Action}
    (isSource : engine.record.role = .source) (other : action.isCompletion = false)
    (completed : (engine.act env action).1.record.state = .completed) :
    engine.record.state = .completed := by
  refine act_moves uncompleted_moves engine env action (fun completes => ?_) completed
  cases action with
  | sessionFinished => exact absurd (isSource.symm.trans completes) (by decide)
  | peer op =>
    cases op with
    | state state =>
      cases state with
      | completed => cases other
      | failed | other => exact completes.elim
    | _ => exact completes.elim
  | _ => exact completes.elim

/-! ## Runs of both ends -/

section Runs

variable {validFinalName : String → Bool} {source target : Offered}

structure Sound (pair : TransferPair) : Prop where
  isSource : pair.source.record.role = .source
  isTarget : pair.target.record.role = .target
  sent : pair.messages ≠ [] → isPublished pair.target = true
  completed : pair.source.record.state = .completed → isPublished pair.target = true

theorem isPublished_of_grows {before after : Engine} (grows : Grows before after)
    (published : isPublished before = true) : isPublished after = true := by
  obtain ⟨receipt, member, outcome⟩ := List.any_eq_true.mp published
  exact List.any_eq_true.mpr ⟨receipt, grows.receipts.subset member, outcome⟩

theorem isPublished_of_publishes {before after : Engine}
    (publishes : publishes before after = true) : isPublished after = true := by
  obtain ⟨receipt, member, outcome⟩ := List.any_eq_true.mp publishes
  exact List.any_eq_true.mpr ⟨receipt, List.mem_of_mem_drop member, outcome⟩

variable {pair : TransferPair}

theorem Sound.step (sound : Sound pair) (input : PairInput) :
    Sound (pair.step validFinalName input) := by
  cases input with
  | source env action =>
    rw [TransferPair.step]
    split
    · exact sound
    next other =>
      have grows := act_grows pair.source env action
      refine ⟨grows.role.trans sound.isSource, sound.isTarget, sound.sent, fun completed => ?_⟩
      exact sound.completed (act_uncompleted sound.isSource (by simpa using other) completed)
  | target env action =>
    have grows := act_grows pair.target env action
    rw [TransferPair.step]
    refine ⟨sound.isSource, grows.role.trans sound.isTarget, ?_, fun completed =>
      isPublished_of_grows grows (sound.completed completed)⟩
    split
    next publishes => exact fun _ => isPublished_of_publishes publishes
    · exact fun sent => isPublished_of_grows grows (sound.sent sent)
  | deliver env publishedName =>
    rw [TransferPair.step]
    split
    next member =>
      have published := sound.sent (List.ne_nil_of_mem member)
      have grows := act_grows pair.source env (.peer (stateMessage validFinalName publishedName))
      exact ⟨grows.role.trans sound.isSource, sound.isTarget, sound.sent, fun _ => published⟩
    · exact sound

end Runs

namespace LostAcknowledgement

open OneFile

def content (linkGen blocks : Nat) : Action :=
  .peer (.content {
    selectionDigest := "d", content := .ok files, linkGen, relay := false, keyValid := true
    resume := .ok [blocks] })

/-- On the first link the target verifies the only block and the link is lost before the
source reads the acknowledgement. On the second link nothing is left to send. -/
def inputs : List PairInput := [
  .source env (.approve "d" none), .target env (.approve "d" none),
  .target env (.peer (.approval "d" true)), .source env (.peer (.approval "d" true)),
  .source env (.resume (.freezing 0 0) (.frozen (.ok files))),
  .target env (content 1 0), .source env (.resume (.sending 0 .start) (.replied (.ok ()))),
  .source env (.established 0 1 none), .target env (.established 0 1 none),
  .target env (.checkpointed 0 0 1),
  .source env (.sessionFailed 0 "LINK_LOST"), .target env (.sessionFailed 0 "LINK_LOST"),
  .source env (.retryFires 0), .target env (content 2 1),
  .source env (.resume (.sending 0 .retry) (.replied (.ok ()))),
  .source env (.established 0 2 none), .target env (.established 1 2 none),
  .target env (.sessionFinished 1 (.ok ()) (.ok "copy")),
  .source env (.sessionFinished 0 (.ok ()) (.ok "copy")),
  .deliver env (some "copy")]

end LostAcknowledgement

end Adhdev.Transfer
