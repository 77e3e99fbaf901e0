import Adhdev.KeyedTranscript.Caps

/-! # Head changes

When a bubble is not written again, and whether the head that was last written for it is the one
that would be written now.
-/

namespace Adhdev.KeyedTranscript

open List Option Bool

/-! ## Heads that are written -/

def ChatRow.head? : ChatRow → Option ChatMsg
  | .msg head => some head
  | _ => none

def headRowsOf (rows : List ChatRow) : List ChatMsg := rows.filterMap ChatRow.head?

structure Written where
  head : ChatMsg
  text : String

abbrev HeadLog := String → Option Written

def HeadLog.add (log : HeadLog) (rows : List ChatRow) (textOf : String → String) : HeadLog :=
    fun id =>
  match (headRowsOf rows).find? (·.id = id) with
  | some head => some ⟨head, textOf id⟩
  | none => log id

variable {rows : List ChatRow}

variable {id : String}

def Desired.textOf (wanted : Desired) (id : String) : String :=
  ((wanted.observed.find? (·.id = id)).map (·.text)).getD ""

section Runs

variable (hashes : ChatHashes)

end Runs

/-! ## Heads and bubbles -/

section Frames

variable {hashes : ChatHashes} {state : SessionState} {observation : TranscriptObservation}
  {context : BuildContext} {wanted : Desired} {log : HeadLog}

variable {bubble : EncodedBubble}

variable {input : ChatArtifactInput}

end Frames

/-! ## Runs -/

section SettlesTorn

variable (hashes : ChatHashes)

end SettlesTorn

section Runs

variable {hashes : ChatHashes}

end Runs

/-! ## Heads that are not written again -/

section Current

variable (hashes : ChatHashes) (state : SessionState) (log : HeadLog)
  (observation : TranscriptObservation) (context : BuildContext)

variable {hashes state log observation context}

variable {bubble : EncodedBubble}

end Current

section Question

variable (hashes : ChatHashes)

end Question

end Adhdev.KeyedTranscript
