import DeviceBus.Proofs.Transport.Frames
import DeviceBus.Proofs.Transport.Network
import DeviceBus.Transport.Stream

/-!
# Reading a stream step by step

What a stream has not read yet lies in two places: in the buffer of its decoder and in its socket.
`Stream.unread` puts the two together.  A step of a stream moves bytes from the one to the other, or cuts
a frame off the front; it never loses, changes or reorders any.

* `Live`: what holds of a stream in use, from its beginning until it is over.
* `stepped_step`: everything that a step of such a stream can come to.
* `Reads`: the book of a stream, which is what has arrived, what was cut off, and what is unread.
* `Reads.of_same`, `Reads.of_append`: what goes on at the other end keeps it.
* `Traffic`, `Network.carry`, `Reads.carry`: bytes arrive at a connection, or its end, or neither.
* `hungry_of_step`, `step_of_complete`: a frame that has arrived is cut off after a few steps.
* `verdict_of_step`: a stream is over with the verdict on what is left, or because of a reset.
-/

namespace DeviceBus

/-! ## What happens at a connection -/

/-- What happens at the other end of a connection and elsewhere: bytes arrive, nothing more will arrive, or
the rest of the network changes in any way. -/
inductive Traffic where
  | bytes (piece : ByteArray)
  | ends (reset : Bool)
  | elsewhere (after : Network)

namespace Network

/-- The network after some traffic at a socket.  Nothing arrives after the end. -/
def carry (net : Network) (id : SocketId) : Traffic → Network
  | .bytes piece =>
      if (net.socket id).finished then net
      else net.modify id fun socket => { socket with incoming := socket.incoming ++ piece }
  | .ends reset =>
      net.modify id fun socket => { socket with finished := true, broken := socket.broken || reset }
  | .elsewhere after =>
      if id < after.sockets.size then after.modify id fun _ => net.socket id else net

/-- The bytes that some traffic brings to a socket. -/
def brought (net : Network) (id : SocketId) : Traffic → List UInt8
  | .bytes piece => if (net.socket id).finished then [] else bytesOf piece
  | .ends _ => []
  | .elsewhere _ => []

theorem lt_size_carry {net : Network} {id : SocketId} (h : id < net.sockets.size) (traffic : Traffic) :
    id < (net.carry id traffic).sockets.size := by
  cases traffic with
  | bytes piece =>
      rw [carry]
      split
      · exact h
      · rwa [size_modify]
  | ends reset => rwa [carry, size_modify]
  | elsewhere after =>
      rw [carry]
      split
      · rwa [size_modify]
      · exact h

section Sockets

variable {net : Network} {id : SocketId}

/-- Nothing that happens behind the end of a stream is noticed. -/
theorem carry_of_finished (hin : id < net.sockets.size) (hfinished : (net.socket id).finished = true)
    (traffic : Traffic) :
    ((net.carry id traffic).socket id).incoming = (net.socket id).incoming ∧
      ((net.carry id traffic).socket id).finished = true ∧ net.brought id traffic = [] := by
  cases traffic with
  | bytes piece =>
      rw [carry, brought, if_pos hfinished, if_pos hfinished]
      exact ⟨rfl, hfinished, rfl⟩
  | ends reset =>
      rw [carry, socket_modify_self hin]
      exact ⟨rfl, rfl, rfl⟩
  | elsewhere after =>
      rw [carry]
      split
      · rename_i hthere
        rw [socket_modify_self hthere]
        exact ⟨rfl, hfinished, rfl⟩
      · exact ⟨rfl, hfinished, rfl⟩

theorem broken_carry (hin : id < net.sockets.size) {traffic : Traffic} (h : traffic ≠ .ends true) :
    ((net.carry id traffic).socket id).broken = (net.socket id).broken := by
  cases traffic with
  | bytes piece =>
      rw [carry]
      split
      · rfl
      · rw [socket_modify_self hin]
  | ends reset =>
      cases reset with
      | true => exact absurd rfl h
      | false => rw [carry, socket_modify_self hin, Bool.or_false]
  | elsewhere after =>
      rw [carry]
      split
      · rename_i hthere
        rw [socket_modify_self hthere]
      · rfl

/-- A connection that was reset is at its end. -/
theorem finished_of_broken_carry (hin : id < net.sockets.size)
    (h : (net.socket id).broken = true → (net.socket id).finished = true) (traffic : Traffic) :
    ((net.carry id traffic).socket id).broken = true →
      ((net.carry id traffic).socket id).finished = true := by
  cases traffic with
  | bytes piece =>
      rw [carry]
      split
      · exact h
      · rw [socket_modify_self hin]
        exact h
  | ends reset =>
      rw [carry, socket_modify_self hin]
      exact fun _ => rfl
  | elsewhere after =>
      rw [carry]
      split
      · rename_i hthere
        rw [socket_modify_self hthere]
        exact h
      · exact h

end Sockets

end Network

namespace Stream

/-- The bytes that have arrived and were not read as frames. -/
def unread (net : Network) (stream : Stream) : List UInt8 :=
  stream.reader.decoder.pending ++ bytesOf (net.socket stream.socket).incoming

/-- With nothing in the socket all that is unread is in the decoder. -/
theorem unread_of_empty {net : Network} {stream : Stream}
    (h : (net.socket stream.socket).incoming = .empty) :
    stream.unread net = stream.reader.decoder.pending := by
  rw [unread, h, bytesOf_empty, List.append_nil]

/-- A stream was read to its end, or to a fault. -/
def isOver (stream : Stream) : Bool :=
  match stream.reader.phase with
  | .paused | .failed _ => true
  | .reading | .cutting | .ending => false

/-- What holds of a stream in use: while it waits for more bytes those that it has hold no frame, and once
it knows that no more will come there are none left in the socket. -/
structure Live (net : Network) (stream : Stream) : Prop where
  sound : stream.reader.decoder.Sound
  going : stream.isOver = false
  reading : stream.reader.phase = .reading →
    stream.reader.decoder.next = .ok (none, stream.reader.decoder)
  ending : stream.reader.phase = .ending →
    (net.socket stream.socket).incoming = .empty ∧ (net.socket stream.socket).finished = true

theorem live_start (net : Network) (socket : SocketId) : Live net { socket } where
  sound := Frame.Decoder.sound_start
  going := rfl
  reading _ := rfl
  ending := nofun

/-- A stream that waits for more bytes has no frame in its decoder. -/
theorem Live.complete_of_reading {net : Network} {stream : Stream} (h : stream.Live net)
    (hreading : stream.reader.phase = .reading) : Frame.complete stream.reader.decoder.pending = [] := by
  have hanswers := Frame.Decoder.answers_next h.sound
  rw [h.reading hreading] at hanswers
  cases hanswers with
  | none _ _ noFrame => exact noFrame

/-- Everything that a step of a stream in use can come to. -/
inductive Stepped (net : Network) (stream : Stream) :
    Option (Frame.Yield × Stream × Network) → Prop where
  /-- nothing to do: all that has arrived is in the buffer and holds no frame -/
  | idle (empty : (net.socket stream.socket).incoming = .empty)
      (whole : (net.socket stream.socket).broken = false)
      (unfinished : (net.socket stream.socket).finished = false)
      (noFrame : Frame.complete (stream.unread net) = []) : Stepped net stream none
  /-- bytes are moved, or the end is noticed -/
  | hungry {stream' : Stream} {net' : Network} (live : stream'.Live net')
      (socket : stream'.socket = stream.socket) (same : stream'.unread net' = stream.unread net)
      (recedes : net.Recedes stream.socket net') : Stepped net stream (some (.hungry, stream', net'))
  /-- a frame is cut off -/
  | frame {body : ByteArray} {stream' : Stream} (live : stream'.Live net)
      (socket : stream'.socket = stream.socket) (fits : body.size ≤ Frame.maxLength)
      (split : stream.unread net = Frame.bytes body ++ stream'.unread net) :
      Stepped net stream (some (.frame body, stream', net))
  /-- the stream is over -/
  | ends {yield : Frame.Yield} {stream' : Stream} {net' : Network}
      (yields : yield = .finished ∨ ∃ fault, yield = .failed fault)
      (isOver : stream'.isOver = true) (socket : stream'.socket = stream.socket)
      (recedes : net.Recedes stream.socket net')
      (noFrame : Frame.complete (stream.unread net) = [])
      (cause : Frame.Malformed (stream.unread net) ∨ (net.socket stream.socket).broken = true ∨
        (net.socket stream.socket).finished = true) :
      Stepped net stream (some (yield, stream', net'))

theorem stepped_step {net : Network} {stream : Stream} (h : stream.Live net) :
    Stepped net stream (stream.step net) := by
  obtain ⟨socket, decoder, phase⟩ := stream
  have hanswers := Frame.Decoder.answers_next h.sound
  dsimp only at hanswers
  cases phase with
  | reading =>
      have htaken := Network.taken_take net socket
      simp only [step]
      generalize net.take socket = taken at htaken
      cases htaken with
      | bytes recedes empty =>
          refine .hungry ⟨h.sound, rfl, nofun, nofun⟩ rfl ?_ recedes
          simp only [unread, Frame.Reader.feed, Frame.Decoder.pending_append, empty, bytesOf_empty,
            List.append_nil]
      | broken recedes empty broken =>
          refine .ends (.inr ⟨_, rfl⟩) rfl rfl recedes ?_ (.inr (.inl broken))
          rw [unread_of_empty empty]
          exact h.complete_of_reading rfl
      | ended empty finished =>
          exact .hungry ⟨h.sound, rfl, nofun, fun _ => ⟨empty, finished⟩⟩ rfl rfl (.refl _ _)
      | nothing empty whole unfinished =>
          refine .idle empty whole unfinished ?_
          rw [unread_of_empty empty]
          exact h.complete_of_reading rfl
  | cutting =>
      simp only [step, Frame.Reader.advance]
      generalize decoder.next = answer at hanswers
      cases hanswers with
      | error malformed =>
          -- the rest in the socket does not make the length any smaller
          have hall := malformed.append (bytesOf (net.socket socket).incoming)
          exact .ends (.inr ⟨_, rfl⟩) rfl rfl (.refl _ _) hall.complete_eq_nil (.inl hall)
      | frame sound fits split =>
          refine .frame ⟨sound, rfl, nofun, nofun⟩ rfl fits ?_
          simp only [unread, split, List.append_assoc]
      | none sound same noFrame again =>
          refine .hungry ⟨sound, rfl, fun _ => again, nofun⟩ rfl ?_ (.refl _ _)
          simp only [unread, same]
  | ending =>
      obtain ⟨empty, finished⟩ := h.ending rfl
      dsimp only at empty finished
      have hunread : unread net ⟨socket, decoder, .ending⟩ = decoder.pending := unread_of_empty empty
      simp only [step, Frame.Reader.advance]
      generalize decoder.next = answer at hanswers
      cases hanswers with
      | error malformed =>
          rw [← hunread] at malformed
          exact .ends (.inr ⟨_, rfl⟩) rfl rfl (.refl _ _) malformed.complete_eq_nil (.inl malformed)
      | frame sound fits split =>
          refine .frame ⟨sound, rfl, nofun, fun _ => ⟨empty, finished⟩⟩ rfl fits ?_
          simp only [unread, split, List.append_assoc]
      | none sound same noFrame again =>
          rw [← hunread] at noFrame
          dsimp only
          split
          · exact .ends (.inl rfl) rfl rfl (.refl _ _) noFrame (.inr (.inr finished))
          · exact .ends (.inr ⟨_, rfl⟩) rfl rfl (.refl _ _) noFrame (.inr (.inr finished))
  | paused => cases h.going
  | failed ended => cases h.going

/-! ## What goes on around a stream -/

/-- A stream sees no more of a network than what its socket has to offer. -/
theorem unread_of_same {net after : Network} {stream : Stream}
    (h : (after.socket stream.socket).incoming = (net.socket stream.socket).incoming) :
    stream.unread after = stream.unread net := by
  rw [unread, unread, h]

theorem Live.of_same {net after : Network} {stream : Stream} (hlive : stream.Live net)
    (h : (after.socket stream.socket).incoming = (net.socket stream.socket).incoming)
    (hstays : (net.socket stream.socket).finished = true →
      (after.socket stream.socket).finished = true) : stream.Live after where
  sound := hlive.sound
  going := hlive.going
  reading := hlive.reading
  ending := by
    intro hphase
    obtain ⟨hempty, hfinished⟩ := hlive.ending hphase
    exact ⟨h.trans hempty, hstays hfinished⟩

/-- What the other end writes comes behind what is unread. -/
theorem unread_of_append {net after : Network} {stream : Stream} {piece : ByteArray}
    (h : (after.socket stream.socket).incoming = (net.socket stream.socket).incoming ++ piece) :
    stream.unread after = stream.unread net ++ bytesOf piece := by
  rw [unread, unread, h, bytesOf_append, List.append_assoc]

theorem Live.of_append {net after : Network} {stream : Stream} (hlive : stream.Live net)
    (hopen : (net.socket stream.socket).finished = false) : stream.Live after where
  sound := hlive.sound
  going := hlive.going
  reading := hlive.reading
  ending := by
    intro hphase
    rw [(hlive.ending hphase).2] at hopen
    cases hopen

/-! ## The book of a stream -/

/-- The book of a stream in use: what has arrived at its socket is the frames of the bodies that were cut
off, and what is unread. -/
structure Reads (net : Network) (arrived : List UInt8) (bodies : List ByteArray) (stream : Stream) :
    Prop where
  live : stream.Live net
  account : arrived = bodies.flatMap Frame.bytes ++ stream.unread net

namespace Reads

variable {net after : Network} {arrived : List UInt8} {bodies : List ByteArray} {stream : Stream}

/-- A stream that begins has read nothing of what waits at its socket. -/
theorem start {socket : SocketId} (h : arrived = bytesOf (net.socket socket).incoming) :
    Reads net arrived [] { socket } where
  live := live_start net socket
  account := h

theorem of_same (hreads : stream.Reads net arrived bodies)
    (h : (after.socket stream.socket).incoming = (net.socket stream.socket).incoming)
    (hstays : (net.socket stream.socket).finished = true →
      (after.socket stream.socket).finished = true) : stream.Reads after arrived bodies where
  live := hreads.live.of_same h hstays
  account := by
    rw [unread_of_same h]
    exact hreads.account

theorem of_append (hreads : stream.Reads net arrived bodies) {piece : ByteArray}
    (h : (after.socket stream.socket).incoming = (net.socket stream.socket).incoming ++ piece)
    (hopen : (net.socket stream.socket).finished = false) :
    stream.Reads after (arrived ++ bytesOf piece) bodies where
  live := hreads.live.of_append hopen
  account := by rw [unread_of_append h, ← List.append_assoc, ← hreads.account]

/-- Bytes were moved, or the end was noticed. -/
theorem of_hungry (hreads : stream.Reads net arrived bodies) {stream' : Stream}
    (hlive : stream'.Live after) (hsame : stream'.unread after = stream.unread net) :
    stream'.Reads after arrived bodies where
  live := hlive
  account := by
    rw [hsame]
    exact hreads.account

/-- A frame was cut off. -/
theorem of_frame (hreads : stream.Reads net arrived bodies) {stream' : Stream}
    (hlive : stream'.Live net) {body : ByteArray}
    (hsplit : stream.unread net = Frame.bytes body ++ stream'.unread net) :
    stream'.Reads net arrived (bodies ++ [body]) where
  live := hlive
  account := by
    rw [List.flatMap_append, List.flatMap_singleton, List.append_assoc, ← hsplit]
    exact hreads.account

/-- The complete frames that have arrived are those that were cut off and those that are unread. -/
theorem complete_eq (hreads : stream.Reads net arrived bodies)
    (hfits : ∀ body ∈ bodies, body.size ≤ Frame.maxLength) :
    Frame.complete arrived = bodies ++ Frame.complete (stream.unread net) := by
  rw [hreads.account, Frame.complete_append_frames hfits]

end Reads

/-- Traffic at the socket of a stream comes behind what is unread. -/
theorem unread_carry {net : Network} {stream : Stream} (hin : stream.socket < net.sockets.size)
    (traffic : Traffic) :
    stream.unread (net.carry stream.socket traffic) =
      stream.unread net ++ net.brought stream.socket traffic := by
  cases traffic with
  | bytes piece =>
      rw [Network.carry, Network.brought]
      split
      · rw [List.append_nil]
      · exact unread_of_append (by rw [Network.socket_modify_self hin])
  | ends reset =>
      rw [Network.carry, Network.brought, List.append_nil]
      exact unread_of_same (by rw [Network.socket_modify_self hin])
  | elsewhere after =>
      rw [Network.carry, Network.brought, List.append_nil]
      split
      · rename_i hthere
        exact unread_of_same (by rw [Network.socket_modify_self hthere])
      · rfl

/-- Traffic at its socket keeps the book of a stream, with the bytes that it brings. -/
theorem Reads.carry {net : Network} {arrived : List UInt8} {bodies : List ByteArray}
    {stream : Stream} (h : stream.Reads net arrived bodies) (hin : stream.socket < net.sockets.size)
    (traffic : Traffic) :
    stream.Reads (net.carry stream.socket traffic) (arrived ++ net.brought stream.socket traffic)
      bodies := by
  cases traffic with
  | bytes piece =>
      rw [Network.carry, Network.brought]
      split
      · rwa [List.append_nil]
      · rename_i hopen
        exact h.of_append (by rw [Network.socket_modify_self hin]) (Bool.eq_false_iff.2 hopen)
  | ends reset =>
      rw [Network.carry, Network.brought, List.append_nil]
      exact h.of_same (by rw [Network.socket_modify_self hin])
        (by rw [Network.socket_modify_self hin]; exact fun _ => rfl)
  | elsewhere after =>
      rw [Network.carry, Network.brought, List.append_nil]
      split
      · rename_i hthere
        exact h.of_same (by rw [Network.socket_modify_self hthere])
          (by rw [Network.socket_modify_self hthere]; exact id)
      · exact h

/-- Traffic at its socket keeps a stream in use. -/
theorem Live.carry {net : Network} {stream : Stream} (h : stream.Live net)
    (hin : stream.socket < net.sockets.size) (traffic : Traffic) :
    stream.Live (net.carry stream.socket traffic) := by
  have hreads : stream.Reads net (stream.unread net) [] := ⟨h, rfl⟩
  exact (hreads.carry hin traffic).live

/-- Whatever the state of a stream, a step of it only reads from its socket. -/
theorem step_network {net after : Network} {stream stream' : Stream} {yield : Frame.Yield}
    (h : stream.step net = some (yield, stream', after)) :
    stream'.socket = stream.socket ∧ (after = net ∨ after = (net.take stream.socket).2) := by
  unfold step at h
  split at h
  -- both phases that look at the socket take from it in the same way
  iterate 2
    · split at h
      · cases h
      · rename_i supply taken _ heq
        rw [heq]
        cases h
        exact ⟨rfl, .inr rfl⟩
  · cases h
    exact ⟨rfl, .inl rfl⟩

theorem recedes_step {net after : Network} {stream stream' : Stream} {yield : Frame.Yield}
    (h : stream.step net = some (yield, stream', after)) : net.Recedes stream.socket after := by
  rcases (step_network h).2 with rfl | rfl
  · exact .refl _ _
  · exact Network.recedes_take _ _

/-! ## Frames that have arrived -/

/-- How many steps a stream makes at most before it cuts off a frame that has arrived. -/
def stepsBefore (stream : Stream) : Nat :=
  match stream.reader.phase with
  | .reading => 1
  | .cutting => if Frame.complete stream.reader.decoder.pending = [] then 2 else 0
  | .ending | .paused | .failed _ => 0

theorem stepsBefore_le (stream : Stream) : stream.stepsBefore ≤ 2 := by
  unfold stepsBefore
  repeat' split
  all_goals omega

/-- Everything that a step of a stream in use can come to that hands nothing on. -/
inductive Hungry (net after : Network) (stream stream' : Stream) : Prop where
  /-- the decoder takes in what the socket offers -/
  | fed (reading : stream.reader.phase = .reading) (offered : (net.socket stream.socket).incoming ≠ .empty)
      (empty : (after.socket stream'.socket).incoming = .empty)
      (cutting : stream'.reader.phase = .cutting)
      (all : stream'.reader.decoder.pending = stream.unread net)
  /-- the end is noticed -/
  | ended (reading : stream.reader.phase = .reading) (empty : (net.socket stream.socket).incoming = .empty)
      (ending : stream'.reader.phase = .ending)
  /-- the decoder asks for more -/
  | asked (cutting : stream.reader.phase = .cutting)
      (noFrame : Frame.complete stream.reader.decoder.pending = [])
      (reading : stream'.reader.phase = .reading) (socket : stream'.socket = stream.socket) (same : after = net)

theorem hungry_of_step {net after : Network} {stream stream' : Stream} (h : stream.Live net)
    (hstep : stream.step net = some (.hungry, stream', after)) : Hungry net after stream stream' := by
  obtain ⟨socket, decoder, phase⟩ := stream
  have hanswers := Frame.Decoder.answers_next h.sound
  dsimp only at hanswers
  cases phase with
  | reading =>
      have htaken := Network.taken_take net socket
      simp only [step] at hstep
      generalize htake : net.take socket = taken at htaken hstep
      cases htaken with
      | bytes recedes empty =>
          cases hstep
          exact .fed rfl (Network.incoming_ne_of_take htake) empty rfl (Frame.Decoder.pending_append _ _)
      | broken recedes empty broken => cases hstep
      | ended empty finished =>
          cases hstep
          exact .ended rfl empty rfl
      | nothing empty whole unfinished => cases hstep
  | cutting =>
      simp only [step, Frame.Reader.advance] at hstep
      generalize decoder.next = answer at hanswers hstep
      cases hanswers with
      | error malformed => cases hstep
      | frame sound fits split => cases hstep
      | none sound same noFrame again =>
          cases hstep
          exact .asked rfl noFrame rfl rfl rfl
  | ending =>
      simp only [step, Frame.Reader.advance] at hstep
      generalize decoder.next = answer at hanswers hstep
      cases hanswers with
      | error malformed => cases hstep
      | frame sound fits split => cases hstep
      | none sound same noFrame again =>
          dsimp only at hstep
          split at hstep <;> cases hstep
  | paused => cases h.going
  | failed ended => cases h.going

/-- A step that cuts off nothing, where a frame has arrived, brings the frame closer. -/
theorem stepsBefore_of_hungry {net after : Network} {stream stream' : Stream} (h : stream.Live net)
    (hcomplete : Frame.complete (stream.unread net) ≠ [])
    (hstep : stream.step net = some (.hungry, stream', after)) :
    stream'.stepsBefore < stream.stepsBefore := by
  cases hungry_of_step h hstep with
  | fed reading offered empty cutting all => simp [stepsBefore, reading, cutting, all, hcomplete]
  | ended reading empty ending =>
      rw [unread_of_empty empty] at hcomplete
      exact absurd (h.complete_of_reading reading) hcomplete
  | asked cutting noFrame reading socket same => simp [stepsBefore, reading, cutting, noFrame]

/-- A frame that has arrived is cut off by the next step, or the next step brings it closer. -/
theorem step_of_complete {net : Network} {stream : Stream} (h : stream.Live net) {body : ByteArray}
    {rest : List ByteArray} (hcomplete : Frame.complete (stream.unread net) = body :: rest) :
    (∃ stream', stream.step net = some (.frame body, stream', net)) ∨
      ∃ stream' after, stream.step net = some (.hungry, stream', after) ∧
        stream'.stepsBefore < stream.stepsBefore := by
  have hstepped := stepped_step h
  generalize hstep : stream.step net = found at hstepped
  cases hstepped with
  | idle empty whole unfinished noFrame =>
      rw [hcomplete] at noFrame
      cases noFrame
  | hungry live socket same recedes =>
      exact .inr ⟨_, _, rfl, stepsBefore_of_hungry h (by rw [hcomplete]; simp) hstep⟩
  | @frame first stream' live socket fits split =>
      rw [split, Frame.complete_append_frame fits] at hcomplete
      obtain ⟨rfl, -⟩ := List.cons.inj hcomplete
      exact .inl ⟨stream', rfl⟩
  | ends yields isOver socket recedes noFrame cause =>
      rw [hcomplete] at noFrame
      cases noFrame

/-! ## How a stream is over -/

/-- How many steps a stream in use makes at most before it hands something on or waits for more to arrive. -/
def toil (net : Network) (stream : Stream) : Nat :=
  let waiting := if (net.socket stream.socket).incoming = .empty then 0 else 2
  match stream.reader.phase with
  | .cutting => waiting + 2
  | .reading => waiting + 1
  | .ending | .paused | .failed _ => 0

theorem toil_le (net : Network) (stream : Stream) : stream.toil net ≤ 4 := by
  unfold toil
  dsimp only
  repeat' split
  all_goals omega

theorem toil_of_hungry {net after : Network} {stream stream' : Stream} (h : stream.Live net)
    (hstep : stream.step net = some (.hungry, stream', after)) :
    stream'.toil after < stream.toil net := by
  cases hungry_of_step h hstep with
  | fed reading offered empty cutting all => simp [toil, reading, cutting, offered, empty]
  | ended reading empty ending => simp [toil, reading, ending, empty]
  | asked cutting noFrame reading socket same => simp [toil, reading, cutting, socket, same]

/-- How the last step of a stream in use leaves it: with a length that is too large in front of its decoder,
or at the end of what arrives. -/
inductive Over (net : Network) (stream stream' : Stream) : Prop where
  | spoilt (malformed : Frame.Malformed stream.reader.decoder.pending)
      (reader : stream'.reader = { stream.reader with phase := .failed false })
  | ended (empty : (net.socket stream.socket).incoming = .empty)
      (finished : (net.socket stream.socket).finished = true)
      (phase : stream'.reader.phase = .paused ∨ stream'.reader.phase = .failed true)

/-- A stream is over with the verdict on the bytes that are unread, or because its connection was reset. -/
theorem verdict_of_step {net after : Network} {stream stream' : Stream} {yield : Frame.Yield}
    (h : stream.Live net) (hstep : stream.step net = some (yield, stream', after))
    (hover : stream'.isOver = true) :
    after = net ∧ yield = Frame.verdict (stream.unread net) ∧ Over net stream stream' ∨
      (net.socket stream.socket).broken = true ∧ yield = .failed (.system .connectionReset) := by
  obtain ⟨socket, decoder, phase⟩ := stream
  have hanswers := Frame.Decoder.answers_next h.sound
  dsimp only at hanswers
  cases phase with
  | reading =>
      have htaken := Network.taken_take net socket
      simp only [step] at hstep
      generalize htake : net.take socket = taken at htaken hstep
      cases htaken with
      | bytes recedes empty =>
          cases hstep
          cases hover
      | broken recedes empty broken =>
          cases hstep
          rw [Network.fault_of_take htake]
          exact .inr ⟨broken, rfl⟩
      | ended empty finished =>
          cases hstep
          cases hover
      | nothing empty whole unfinished => cases hstep
  | cutting =>
      simp only [step, Frame.Reader.advance] at hstep
      generalize hnext : decoder.next = answer at hanswers hstep
      cases hanswers with
      | error malformed =>
          obtain rfl := Frame.Decoder.fault_of_next h.sound hnext
          cases hstep
          exact .inl ⟨rfl, (Frame.verdict_of_malformed (malformed.append _)).symm, .spoilt malformed rfl⟩
      | frame sound fits split =>
          cases hstep
          cases hover
      | none sound same noFrame again =>
          cases hstep
          cases hover
  | ending =>
      obtain ⟨empty, finished⟩ := h.ending rfl
      dsimp only at empty finished
      rw [unread_of_empty empty]
      simp only [step, Frame.Reader.advance] at hstep
      generalize hnext : decoder.next = answer at hanswers hstep
      cases hanswers with
      | error malformed =>
          obtain rfl := Frame.Decoder.fault_of_next h.sound hnext
          cases hstep
          exact .inl
            ⟨rfl, (Frame.verdict_of_malformed malformed).symm, .ended empty finished (.inr rfl)⟩
      | frame sound fits split =>
          cases hstep
          cases hover
      | none sound same noFrame again =>
          rw [Frame.Decoder.verdict_of_next h.sound hnext]
          dsimp only at hstep
          split at hstep
          · rename_i hnothing
            cases hstep
            exact .inl ⟨rfl, (if_pos hnothing).symm, .ended empty finished (.inl rfl)⟩
          · rename_i hsome
            cases hstep
            exact .inl ⟨rfl, (if_neg hsome).symm, .ended empty finished (.inr rfl)⟩
  | paused => cases h.going
  | failed ended => cases h.going

end Stream

end DeviceBus
