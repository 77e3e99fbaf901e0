import Adhdev.Foundation.KeyedMap

/-! # Keyed transcript rows

`transcript-keyed-codec.ts`: the rows of a keyed transcript topic. Payloads are as their readers
return them. The hashes and the order keys are parameters.
-/

namespace Adhdev.KeyedTranscript

inductive ChatBaseReason
  | epochStart | writerChange | resyncRequest | lineageSwitch
  deriving DecidableEq

structure ChatAttachment where
  artifactId : String
  title : String
  createdAt : Option Int
  updatedAt : Option Int
  details : String
  deriving DecidableEq

structure ShownFields where
  role : String
  kind : String
  turnKey : Option String
  bubbleState : Option String
  streaming : Option Bool
  senderName : Option String
  toolName : Option String
  attachment : Option ChatAttachment
  receivedAt : Option Int
  timestamp : Option Int
  expandable : Bool
  deriving DecidableEq

structure CarriedFields where
  sourceMessageId : Option String
  runtimeInputAck : Bool
  outgoingReceipt : Option String
  deriving DecidableEq

inductive ChatMsgBody
  | text (text : String)
  | parts (parts : Nat) (partRevs : List Nat)
  deriving DecidableEq

namespace ChatMsgBody

def partCount : ChatMsgBody → Nat
  | .text _ => 0
  | .parts count _ => count

def partRevs : ChatMsgBody → List Nat
  | .text _ => []
  | .parts _ revs => revs

end ChatMsgBody

structure ChatMsg where
  id : String
  rev : Nat
  epoch : String
  frame : Nat
  ord : String
  shown : ShownFields
  carried : CarriedFields
  srcId : Option String
  body : ChatMsgBody
  deriving DecidableEq

structure ChatPart where
  id : String
  k : Nat
  rev : Nat
  epoch : String
  frame : Nat
  text : String
  deriving DecidableEq

/-- The tombstone of a head, or of one part. -/
structure ChatDel where
  id : String
  k : Option Nat
  rev : Nat
  epoch : String
  frame : Nat
  deriving DecidableEq

structure ChatCoverage where
  mode : String
  omittedBefore : Bool
  deriving DecidableEq

structure MetaFields where
  providerType : String
  status : String
  title : Option String
  details : String
  deriving DecidableEq

structure ChatMeta where
  rev : Nat
  epoch : String
  frame : Nat
  sessionId : String
  historySessionId : Option String
  producerDaemonId : String
  fields : MetaFields
  coverage : ChatCoverage
  ledgerEpoch : String
  deriving DecidableEq

structure ChatCommit where
  sessionId : String
  writer : String
  producerDaemonId : String
  epoch : String
  frame : Nat
  observedAt : String
  liveCount : Nat
  metaRev : Nat
  digest : String
  baseReason : Option ChatBaseReason
  deriving DecidableEq

inductive ChatRow
  | msg (head : ChatMsg)
  | part (part : ChatPart)
  | del (del : ChatDel)
  | metadata (metadata : ChatMeta)
  | commit (commit : ChatCommit)
  deriving DecidableEq

structure ChatHashes where
  sha1 : String → String
  headKey : String → ShownFields → Option String → String → String
  metaKey : ChatMeta → String
  digest : List (String × Nat) → Nat → String
  generateKeyAfter : List String → String

/-! ## Digests -/

def codeUnits (text : String) : List Nat :=
  text.toList.flatMap fun character =>
    if character.toNat < 0x10000 then [character.toNat]
    else
      [0xd800 + (character.toNat - 0x10000) / 0x400, 0xdc00 + (character.toNat - 0x10000) % 0x400]

def pairLe (one two : String × Nat) : Prop := one.1 < two.1 ∨ (one.1 = two.1 ∧ one.2 ≤ two.2)

instance decidablePairLe : DecidableRel pairLe :=
  fun one two => inferInstanceAs (Decidable (one.1 < two.1 ∨ (one.1 = two.1 ∧ one.2 ≤ two.2)))

instance totalPairLe : Std.Total pairLe where
  total one two := by
    rcases lt_trichotomy one.1 two.1 with less | same | more
    · exact .inl (.inl less)
    · rcases Nat.le_total one.2 two.2 with rev | rev
      · exact .inl (.inr ⟨same, rev⟩)
      · exact .inr (.inr ⟨same.symm, rev⟩)
    · exact .inr (.inl more)

instance transPairLe : IsTrans (String × Nat) pairLe where
  trans one two three first second := by
    rcases first with less | ⟨same, rev⟩ <;> rcases second with more | ⟨equal, next⟩
    · exact .inl (less.trans more)
    · exact .inl (equal ▸ less)
    · exact .inl (same ▸ more)
    · exact .inr ⟨same.trans equal, rev.trans next⟩

instance antisymmPairLe : Std.Antisymm pairLe where
  antisymm one two first second := by
    rcases first with less | ⟨same, rev⟩ <;> rcases second with more | ⟨equal, next⟩
    · exact absurd (less.trans more) (lt_irrefl _)
    · exact absurd (equal ▸ less) (lt_irrefl _)
    · exact absurd (same ▸ more) (lt_irrefl _)
    · exact Prod.ext same (Nat.le_antisymm rev next)

def computeChatCommitDigest (hashes : ChatHashes) (live : List (String × Nat)) (metaRev : Nat) :
    String :=
  hashes.digest (live.insertionSort pairLe) metaRev

theorem computeChatCommitDigest_perm {hashes : ChatHashes} {live other : List (String × Nat)}
    (same : live.Perm other) (metaRev : Nat) :
    computeChatCommitDigest hashes live metaRev = computeChatCommitDigest hashes other metaRev := by
  have sorted : live.insertionSort pairLe = other.insertionSort pairLe :=
    List.Perm.eq_of_pairwise' (List.pairwise_insertionSort pairLe live)
      (List.pairwise_insertionSort pairLe other)
      (((List.perm_insertionSort pairLe live).trans same).trans
        (List.perm_insertionSort pairLe other).symm)
  rw [computeChatCommitDigest, computeChatCommitDigest, sorted]

/-! ## Bodies -/

def chatPartMaxJcsBytes : Nat := 24 * 1024

def chatMetaLabelMax : Nat := 1024

def chatLiveBytesMax : Nat := 256 * 1024

def chatLiveBubblesMax : Nat := 200

def jcsCodePointBytes (character : Char) : Nat :=
  if character = '"' ∨ character.toNat = 0x5c then 2
  else if character.toNat < 0x20 then
    if character.toNat ∈ [0x08, 0x09, 0x0a, 0x0c, 0x0d] then 2 else 6
  else if character.toNat < 0x80 then 1
  else if character.toNat < 0x800 then 2
  else if character.toNat < 0x10000 then 3
  else 4

def chatJcsTextBytes (text : String) : Nat := (text.toList.map jcsCodePointBytes).sum

/-- The loop of `splitChatBody`: the characters of the part that it is in, and their bytes. -/
def splitFrom : List Char → Nat → List Char → List String
  | current, _, [] => [String.ofList current]
  | current, bytes, character :: characters =>
    if chatPartMaxJcsBytes < bytes + jcsCodePointBytes character ∧ current ≠ [] then
      String.ofList current :: splitFrom [character] (jcsCodePointBytes character) characters
    else splitFrom (current ++ [character]) (bytes + jcsCodePointBytes character) characters

def splitChatBody (text : String) : List String := splitFrom [] 0 text.toList

end Adhdev.KeyedTranscript
