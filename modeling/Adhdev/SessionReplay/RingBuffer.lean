import Adhdev.Foundation.Utf16

/-! # The ring buffer of a session

`buffer.ts`: the output of a session in chunks, of which the oldest are evicted.
-/

namespace Adhdev.SessionReplay

open Text

/-! ## Healing the head -/

/-- Leading halves of characters are dropped. -/
def dropEncodingDamage : Text → Text
  | [] => []
  | unit :: rest =>
    if unit = 0xfffd then dropEncodingDamage rest
    else if isHighSurrogate unit then
      if rest.head?.any isLowSurrogate then unit :: rest else dropEncodingDamage rest
    else if isLowSurrogate unit then dropEncodingDamage rest
    else unit :: rest

def escape : UInt16 := 0x1b

def bell : UInt16 := 0x07

def openBracket : UInt16 := 0x5b

def closeBracket : UInt16 := 0x5d

/-- `CSI_FINAL`. -/
def isCsiFinal (unit : UInt16) : Bool := 0x40 ≤ unit && unit ≤ 0x7e

/-- `CSI_COMMON_FINAL`. -/
def isCsiCommonFinal (unit : UInt16) : Bool :=
  "ABCDEFGHJKSTLMPX@mnchlsurdfgqit".toList.any fun character => character.toNat = unit.toNat

/-- Digits and the characters from the colon to the question mark. -/
def isParameter (unit : UInt16) : Bool := 0x30 ≤ unit && unit ≤ 0x3f

def danglingEscapeTailLength (text : Text) : Nat :=
  match text.head? with
  | none => 0
  | some first =>
    if first = escape then 0
    else
      let hasIntroducer := first = openBracket ∨ first = closeBracket
      let start := if hasIntroducer then 1 else 0
      let i := start + ((text.drop start).takeWhile isParameter).length
      match text[i]? with
      | none => 0
      | some final =>
        if first = closeBracket then
          match text.findIdx? (· = bell) with
          | some bel => bel + 1
          | none => 0
        else if !isCsiFinal final then 0
        else if ¬ hasIntroducer ∧ (i = start ∨ !isCsiCommonFinal final) then 0
        else i + 1

def stripDanglingPrefix (text : Text) : Text :=
  let rest := dropEncodingDamage text
  rest.drop (danglingEscapeTailLength rest)

/-! ## Appending -/

structure BufferChunk where
  seq : Nat
  data : Text
  bytes : Nat
  deriving DecidableEq

structure SessionRingBuffer where
  maxBytes : Nat
  chunks : List BufferChunk := []
  nextSeq : Nat := 1
  totalBytes : Int := 0

namespace SessionRingBuffer

/-- The loop of `trim`: what is left of the chunks and of the total. -/
def evict (maxBytes : Nat) : Int → List BufferChunk → Int × List BufferChunk
  | totalBytes, removed :: next :: chunks =>
    if (maxBytes : Int) < totalBytes then
      evict maxBytes (totalBytes - removed.bytes) (next :: chunks)
    else (totalBytes, removed :: next :: chunks)
  | totalBytes, chunks => (totalBytes, chunks)

def healHead (buffer : SessionRingBuffer) : SessionRingBuffer :=
  match buffer.chunks with
  | [] => buffer
  | head :: chunks =>
    let repaired := stripDanglingPrefix head.data
    if repaired = head.data then buffer
    else
      let bytes := utf8ByteLength repaired
      { buffer with
        totalBytes := buffer.totalBytes - ((head.bytes : Int) - bytes)
        chunks := { head with data := repaired, bytes } :: chunks }

def trim (buffer : SessionRingBuffer) : SessionRingBuffer :=
  let (totalBytes, chunks) := evict buffer.maxBytes buffer.totalBytes buffer.chunks
  let trimmed := { buffer with totalBytes, chunks }
  if chunks.length < buffer.chunks.length then trimmed.healHead else trimmed

def append (buffer : SessionRingBuffer) (data : Text) : SessionRingBuffer :=
  let bytes := utf8ByteLength data
  trim { buffer with
    nextSeq := buffer.nextSeq + 1
    chunks := buffer.chunks ++ [{ seq := buffer.nextSeq, data, bytes }]
    totalBytes := buffer.totalBytes + bytes }

def appendAll (maxBytes : Nat) (appended : List Text) : SessionRingBuffer :=
  appended.foldl append { maxBytes }

/-! ## Snapshots -/

structure SessionBufferSnapshot where
  seq : Int
  text : Text
  truncated : Bool

def snapshot (buffer : SessionRingBuffer) (sinceSeq : Option Int) : SessionBufferSnapshot where
  seq := buffer.nextSeq - 1
  text := (buffer.chunks.filter fun chunk => sinceSeq.all (· < chunk.seq)).flatMap (·.data)
  truncated := buffer.chunks.head?.any fun head =>
    sinceSeq.any fun since => since < (head.seq : Int) - 1

end SessionRingBuffer

end Adhdev.SessionReplay
