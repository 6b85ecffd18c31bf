import DeviceBus.Bytes
import DeviceBus.SystemFault

/-!
# Frames

A frame is the length of a body in four bytes, the highest first, and the body.  `Decoder` cuts frames out
of a buffer; it takes the length off the buffer as soon as it is complete, and refuses a length that is
too large without taking it off.

`Reader` is a decoder over a stream that arrives in pieces.  It asks for more when the buffer holds no
whole frame, and it tells the end of the stream from a stream that ends inside a frame.  After a fault it
reports the end once and then goes on.
-/

namespace DeviceBus

namespace Frame

/-- The longest body. -/
def maxLength : Nat := 10 * 1024 * 1024

/-- How many bytes give the length. -/
def headerLength : Nat := 4

/-- A length in four bytes. -/
def lengthBytes (length : Nat) : ByteArray :=
  ⟨#[(length / 0x1000000).toUInt8, (length / 0x10000).toUInt8, (length / 0x100).toUInt8,
    length.toUInt8]⟩

/-- The length that the first four bytes of a buffer give. -/
def lengthOf (buffer : ByteArray) : Nat :=
  let byte := fun index => ((buffer[index]?).getD 0).toNat
  ((byte 0 * 256 + byte 1) * 256 + byte 2) * 256 + byte 3

/-- The frame of a body; a body that is too long has none. -/
def encode (body : ByteArray) : Except SystemFault ByteArray :=
  if maxLength < body.size then .error .frameTooBig else .ok (lengthBytes body.size ++ body)

/-- Bytes that were received, and the length of the body they begin with if it is known. -/
structure Decoder where
  buffer : ByteArray
  awaited : Option Nat
  deriving DecidableEq

namespace Decoder

/-- The decoder before anything was received. -/
def start : Decoder := ⟨.empty, none⟩

/-- More bytes were received. -/
def append (decoder : Decoder) (bytes : ByteArray) : Decoder :=
  { decoder with buffer := decoder.buffer ++ bytes }

/-- Cut off a body of known length, if the buffer holds it. -/
def takeBody (decoder : Decoder) (length : Nat) : Option ByteArray × Decoder :=
  if decoder.buffer.size < length then (none, { decoder with awaited := some length })
  else
    (some (decoder.buffer.extract 0 length),
      ⟨decoder.buffer.extract length decoder.buffer.size, none⟩)

/-- Cut off the next body, if the buffer holds it. -/
def next (decoder : Decoder) : Except SystemFault (Option ByteArray × Decoder) :=
  match decoder.awaited with
  | some length => .ok (decoder.takeBody length)
  | none =>
      if decoder.buffer.size < headerLength then .ok (none, decoder)
      else
        let length := lengthOf decoder.buffer
        if maxLength < length then .error .frameTooBig
        else
          let body : Decoder :=
            ⟨decoder.buffer.extract headerLength decoder.buffer.size, some length⟩
          .ok (body.takeBody length)

end Decoder

/-- What a reader does next: cut frames, cut frames of a stream that has ended, ask for more bytes, ask
whether a stream that has ended goes on, or report the end after a fault. -/
inductive Phase where
  | reading
  | cutting
  | ending
  | paused
  | failed (ended : Bool)
  deriving DecidableEq, Repr

/-- A decoder over a stream. -/
structure Reader where
  decoder : Decoder
  phase : Phase
  deriving DecidableEq

/-- What a stream has to offer: bytes, its end, a fault, or nothing yet. -/
inductive Supply where
  | bytes (piece : ByteArray)
  | ended
  | broken (fault : SystemFault)
  | nothing

/-- What a reader comes up with: a body, the end, a fault, or the wish for more. -/
inductive Yield where
  | frame (body : ByteArray)
  | finished
  | failed (fault : SystemFault)
  | hungry
  deriving DecidableEq

namespace Reader

/-- The reader of a fresh stream. -/
def start : Reader := ⟨.start, .reading⟩

/-- Go on with what has been received. -/
def advance (reader : Reader) : Yield × Reader :=
  match reader.phase with
  | .reading | .paused => (.hungry, reader)
  | .failed ended => (.finished, { reader with phase := if ended then .paused else .reading })
  | .cutting =>
      match reader.decoder.next with
      | .error fault => (.failed fault, { reader with phase := .failed false })
      | .ok (some body, decoder) => (.frame body, ⟨decoder, .cutting⟩)
      | .ok (none, decoder) => (.hungry, ⟨decoder, .reading⟩)
  | .ending =>
      match reader.decoder.next with
      | .error fault => (.failed fault, { reader with phase := .failed true })
      | .ok (some body, decoder) => (.frame body, ⟨decoder, .ending⟩)
      | .ok (none, decoder) =>
          if decoder.buffer.size = 0 then (.finished, ⟨decoder, .paused⟩)
          else (.failed .bytesRemaining, ⟨decoder, .failed true⟩)

/-- Take in what a stream offers to a reader that asked for more. -/
def feed (reader : Reader) : Supply → Yield × Reader
  | .nothing => (.hungry, reader)
  | .bytes piece => (.hungry, ⟨reader.decoder.append piece, .cutting⟩)
  | .ended =>
      if reader.phase = .paused then (.finished, reader) else (.hungry, { reader with phase := .ending })
  | .broken fault => (.failed fault, { reader with phase := .failed (reader.phase = .paused) })

end Reader

end Frame

end DeviceBus
