import Adhdev.TransferLink.Position

/-! # An honest sender and an honest receiver

Neither aborts the other, whatever the order of their steps and whichever frames the
link repeats.
-/

namespace Adhdev.TransferLink

open Octets List

/-! ## One session -/

def numbered (setup : LinkSetup) (bodies : List FrameBody) : List Frame :=
  bodies.mapIdx fun seq body => ⟨setup.transferId, seq, body⟩

/-- What the link was given are these bodies, numbered, and nothing went wrong. -/
structure Spoken {Own : Type} (setup : LinkSetup) (session : Session Own)
    (bodies : List FrameBody) : Prop where
  sent : session.sent = numbered setup bodies
  outSeq : session.outSeq = bodies.length
  error : session.error = none

namespace Session

variable {Own : Type} {setup : LinkSetup} {session next : Session Own} {role : RoleName}
  {onHelloOk : Session Own → Session Own}
  {onFrame : Session Own → FrameBody → Except SessionFault (Session Own)}
  {bodies : List FrameBody} {seq : Nat} {body : FrameBody}

theorem spoken_sendFrame (spoken : Spoken setup session bodies) (body : FrameBody) :
    Spoken setup (session.sendFrame setup body) (bodies ++ [body]) where
  sent := by
    rw [sendFrame, spoken.sent, spoken.outSeq, numbered, numbered, mapIdx_append]
    simp only [mapIdx_cons, mapIdx_nil, Nat.zero_add]
  outSeq := by rw [sendFrame, spoken.outSeq, length_append, length_singleton]
  error := spoken.error

theorem frame_of_spoken (spoken : Spoken setup session bodies) {frame : Frame}
    (isFrame : session.sent[seq]? = some frame) :
    ∃ body, bodies[seq]? = some body ∧ frame = ⟨setup.transferId, seq, body⟩ := by
  rw [spoken.sent, numbered, getElem?_mapIdx, Option.map_eq_some_iff] at isFrame
  obtain ⟨body, isBody, same⟩ := isFrame
  exact ⟨body, isBody, same.symm⟩

theorem onRaw_done (done : session.done = true) (frame : Frame) :
    session.onRaw setup role onHelloOk onFrame frame = session :=
  if_pos done

theorem onRaw_earlier (earlier : seq < session.nextSeq) :
    session.onRaw setup role onHelloOk onFrame ⟨setup.transferId, seq, body⟩ = session := by
  rw [onRaw]
  split_ifs with done foreign
  · rfl
  · exact absurd rfl foreign
  · rfl

theorem onRaw_next (live : session.done = false) (isSeq : session.nextSeq = seq)
    (greeted : session.helloOk = true) (noAbort : ∀ code, body ≠ .abort code)
    (taken : onFrame { session with nextSeq := seq + 1 } body = .ok next) :
    session.onRaw setup role onHelloOk onFrame ⟨setup.transferId, seq, body⟩ = next := by
  rw [onRaw, if_neg (by rw [live]; exact Bool.false_ne_true), if_neg (not_not.mpr rfl),
    if_neg (by rw [isSeq]; exact lt_irrefl _), if_neg (not_not.mpr isSeq.symm)]
  dsimp only
  split
  · exact absurd rfl (noAbort _)
  · rw [if_pos greeted, taken]

theorem bindingTagsEqual_self (honest : setup.Honest) (role : RoleName) :
    bindingTagsEqual (setup.computeBindingTag role) (setup.computeBindingTag role) = true := by
  rw [bindingTagsEqual, LinkSetup.computeBindingTag, String.toList_ofList, ofHex_toHex,
    decide_eq_true (honest.tagLength role), decide_eq_true rfl]
  rfl

theorem onRaw_hello (honest : setup.Honest) (live : session.done = false)
    (isSeq : session.nextSeq = seq) (silent : session.helloOk = false) {peer : RoleName}
    (isPeer : role.peer = peer) : session.onRaw setup role onHelloOk onFrame
        ⟨setup.transferId, seq, .hello (setup.computeBindingTag peer) peer⟩ =
      onHelloOk { session with nextSeq := seq + 1, helloOk := true } := by
  rw [onRaw, if_neg (by rw [live]; exact Bool.false_ne_true), if_neg (not_not.mpr rfl),
    if_neg (by rw [isSeq]; exact lt_irrefl _), if_neg (not_not.mpr isSeq.symm)]
  dsimp only
  rw [if_neg (by rw [silent]; exact Bool.false_ne_true), onHello, isPeer,
    bindingTagsEqual_self honest, if_neg (by
      rw [not_or, not_not]
      exact ⟨rfl, by decide⟩)]

end Session

/-! ## The shape of the loop -/

/-- The window was waited for. -/
def Admitted : List PumpAction → Prop
  | .sendData _ _ _ _ :: rest => Admitted rest
  | .sendBlockEnd _ _ _ _ :: _ => True
  | _ => False

/-- Whole reads, blocks as the manifest has them, the window waited for before each block,
and the end of the loop at the end. -/
def Shaped : List PumpAction → Prop
  | [] => False
  | .waitForWindow :: rest => Shaped rest
  | .sendData _ _ length read :: rest => read.length = length ∧ Shaped rest
  | .sendBlockEnd _ _ digest expected :: rest =>
    expected = some digest ∧ ¬Admitted rest ∧ Shaped rest
  | .sendDone :: rest => rest = []

def Guarded (actions : List PumpAction) : Prop := Shaped actions ∧ ¬Admitted actions

variable {rest : List PumpAction}

theorem guarded_flatMap {Item : Type} {items : List Item} {actions : Item → List PumpAction}
    (guarded : Guarded rest)
    (each : ∀ item ∈ items, ∀ rest, Guarded rest → Guarded (actions item ++ rest)) :
    Guarded (items.flatMap actions ++ rest) := by
  induction items with
  | nil => exact guarded
  | cons item items induction =>
    rw [flatMap_cons, append_assoc]
    apply each item (.head _)
    exact induction (forall_mem_cons.mp each).2

section Shape

variable {setup : LinkSetup}

theorem piecesFrom_inside {last left offset : Nat} :
    ∀ piece ∈ piecesFrom last left offset, piece.1 + piece.2 ≤ last := by
  induction left generalizing offset with
  | zero =>
    intro piece member
    cases member
  | succ left induction =>
    rw [piecesFrom]
    split_ifs with inside
    · intro piece member
      rcases mem_cons.mp member with rfl | later
      · dsimp only
        omega
      · exact induction piece later
    · intro piece member
      cases member

theorem shaped_pieces {fileIndex : Nat} {pieces : List (Nat × Nat)} (shaped : Shaped rest)
    (inside : ∀ piece ∈ pieces, piece.1 + piece.2 ≤ (setup.spool fileIndex).length) :
    Shaped (pieces.map (sendPiece setup fileIndex) ++ rest) := by
  induction pieces with
  | nil => exact shaped
  | cons piece pieces induction =>
    exact ⟨length_slice (inside piece (.head _)), induction (forall_mem_cons.mp inside).2⟩

theorem guarded_pumpBlock (honest : setup.Honest) {fileIndex : Nat} {file : ContentFile}
    {block : Nat} (isFile : setup.files[fileIndex]? = some file)
    (listed : block < blockCount file.size) (guarded : Guarded rest) :
    Guarded (pumpBlock setup fileIndex file block ++ rest) := by
  have waits : ∀ actions, Shaped actions → Guarded (.waitForWindow :: actions) :=
    fun _ shaped => ⟨shaped, not_false⟩
  rw [pumpBlock, cons_append, cons_append, append_assoc, singleton_append]
  apply waits
  apply shaped_pieces
  · rw [Shaped, piecesRead_block listed]
    exact ⟨honest.hashed _ _ isFile block listed, guarded.2, guarded.1⟩
  intro piece member
  rw [honest.spooled _ _ isFile]
  have inside := piecesFrom_inside piece member
  omega

theorem shaped_pump (honest : setup.Honest) (resume : List Nat) : Shaped (pump setup resume) := by
  have last : Guarded [.sendDone] := ⟨rfl, not_false⟩
  apply (guarded_flatMap last _).1
  intro fileIndex _ rest guarded
  rw [pumpFile]
  split
  · exact guarded
  rename_i file isFile
  apply guarded_flatMap guarded
  intro block member rest guarded
  rw [mem_range'_1] at member
  exact guarded_pumpBlock honest isFile (by omega) guarded

theorem framesOf_pump (resume : List Nat) :
    framesOf (pump setup resume) = framesOf (pumpFiles setup resume 0) ++ [.done] :=
  framesOf_append _ _

theorem Shaped.ends {actions : List PumpAction} (shaped : Shaped actions) :
    ∃ frames, framesOf actions = frames ++ [.done] := by
  induction actions with
  | nil => exact shaped.elim
  | cons action rest induction =>
    cases action with
    | waitForWindow => exact induction shaped
    | sendData fileIndex offset length read =>
      obtain ⟨frames, same⟩ := induction shaped.2
      exact ⟨.data fileIndex offset read :: frames,
        congrArg (FrameBody.data fileIndex offset read :: ·) same⟩
    | sendBlockEnd fileIndex start digest expected =>
      obtain ⟨frames, same⟩ := induction shaped.2.2
      exact ⟨.blockEnd fileIndex start (ofHex digest.toList) :: frames,
        congrArg (FrameBody.blockEnd fileIndex start (ofHex digest.toList) :: ·) same⟩
    | sendDone =>
      cases shaped
      exact ⟨[], rfl⟩

end Shape

end Adhdev.TransferLink
