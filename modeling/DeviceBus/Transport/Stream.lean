import DeviceBus.Transport.Network

/-!
# Streams of frames

A stream reads frames from a socket.  One step either goes on with what has been read before or reads
what the socket offers; there is no step when there is nothing to do.
-/

namespace DeviceBus

/-- The reading side of a connection. -/
structure Stream where
  socket : SocketId
  reader : Frame.Reader := .start
  deriving DecidableEq

namespace Stream

/-- One step of reading. -/
def step (net : Network) (stream : Stream) : Option (Frame.Yield × Stream × Network) :=
  match stream.reader.phase with
  | .reading | .paused =>
      match net.take stream.socket with
      | (.nothing, _) => none
      | (supply, net) =>
          let (yield, reader) := stream.reader.feed supply
          -- the end of a stream that is known to have ended is nothing new
          some (yield, { stream with reader }, net)
  | _ =>
      let (yield, reader) := stream.reader.advance
      some (yield, { stream with reader }, net)

/-- Read up to the next frame, the end, or a fault; nothing comes if more has to arrive first. -/
def receive (net : Network) (stream : Stream) : Nat → Option Frame.Yield × Stream × Network
  | 0 => (none, stream, net)
  | fuel + 1 =>
      match stream.step net with
      | none => (none, stream, net)
      | some (.hungry, stream, net) => stream.receive net fuel
      | some (yield, stream, net) => (some yield, stream, net)

/-- Three steps read all that is there, and one more finds the frame in it or the end. -/
def patience : Nat := 8

end Stream

end DeviceBus
