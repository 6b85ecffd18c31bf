import DeviceBus.Device.Operations
import DeviceBus.Proofs.Transport.Stream
import Mathlib.Data.List.Basic

/-!
# Frames there and back

Whoever writes bodies puts their frames on a stream, one after the other; whoever reads the stream gets them
in whatever pieces they arrive in, and may look for more between any two of them.  `Frame.due` tells what is
to be read from the bytes alone.  This module follows a reader through all pieces and shows that it hands on
nothing else, in this order, and that it hands on all of it when it is asked often enough.

* `Intake`: a stream with what has arrived at it and what was read from it.
* `Intake.Stage`, `Intake.Sound`, `Intake.sound_run`: a stream is in use, or stuck at a length that is too large, or at its
  end; in each stage it is known what was read.
* `Intake.Sound.exists_reads`: the reader gets to everything that is due.
* `Intake.framing_round_trip`: the frames that were written are the frames that are read.
-/

namespace DeviceBus

/-- The bytes on a stream after some bodies were written to it. -/
def Frame.written (bodies : List ByteArray) : List UInt8 :=
  bodies.flatMap fun body =>
    match Frame.encode body with
    | .ok frame => bytesOf frame
    | .error _ => []

/-- What a reader hands on; the wish for more stays between it and its socket. -/
def Frame.Yield.told : Frame.Yield → List Frame.Yield
  | .hungry => []
  | yield => [yield]

namespace Frame

theorem written_eq {bodies : List ByteArray} (h : ∀ body ∈ bodies, body.size ≤ maxLength) :
    written bodies = bodies.flatMap bytes := by
  refine List.flatMap_congr fun body hbody => ?_
  have hencode : encode body = .ok (lengthBytes body.size ++ body) :=
    if_neg (Nat.not_lt.2 (h body hbody))
  rw [hencode]
  exact bytesOf_append _ _

/-- Frames as a whole are read as their bodies, and then as the end. -/
theorem due_written {bodies : List ByteArray} (h : ∀ body ∈ bodies, body.size ≤ maxLength) :
    due true (written bodies) = bodies.map .frame ++ [.finished] := by
  have hdue := due_append_frames h complete_nil true
  rw [List.append_nil] at hdue
  rw [written_eq h, hdue]
  rfl

/-- A length that is too large is a fault behind the frames in front of it, whatever follows. -/
theorem due_large {bodies : List ByteArray} (h : ∀ body ∈ bodies, body.size ≤ maxLength) {length : Nat}
    (hlarge : maxLength < length) (hlength : length < 0x100000000) (more : List UInt8) (ended : Bool) :
    due ended (written bodies ++ (bytesOf (lengthBytes length) ++ more)) =
      bodies.map .frame ++ [.failed .frameTooBig] := by
  have hmalformed : Malformed (bytesOf (lengthBytes length) ++ more) := by
    refine ⟨?_, ?_⟩
    · rw [List.length_append, length_lengthBytes]
      omega
    · rwa [headerOf_lengthBytes hlength]
  rw [written_eq h, due_append_frames h hmalformed.complete_eq_nil, if_pos (.inr hmalformed),
    verdict_of_malformed hmalformed]

/-- A part of a frame is never read as a body. -/
theorem due_part {bodies : List ByteArray} (h : ∀ body ∈ bodies, body.size ≤ maxLength) {body : ByteArray}
    (hbody : body.size ≤ maxLength) {cut : Nat} (hcut : cut < (written [body]).length) :
    due true (written bodies ++ (written [body]).take cut) =
      bodies.map .frame ++
        [if cut = 0 ∨ cut = headerLength then .finished else .failed .bytesRemaining] := by
  have hone : written [body] = bytes body := by
    rw [written_eq fun other hother => List.mem_singleton.1 hother ▸ hbody, List.flatMap_singleton]
  rw [hone] at hcut ⊢
  rw [written_eq h, due_append_frames h (complete_take_bytes hbody hcut), if_pos (.inl rfl), verdict,
    if_neg (not_malformed_of_part hbody cut), List.length_take, Nat.min_eq_left (Nat.le_of_lt hcut)]

end Frame

/-- A body that is too long is refused, the connection is let go, and nothing is written to anybody. -/
theorem Device.send_of_long {η : Type} {device : Device η} {behaviour : Behaviour η} {id : PublisherId}
    {message : Message} {publisher : Publisher} {socket : SocketId}
    (hpublisher : device.publishers[id]? = some publisher) (houtlet : publisher.outlet = .ok socket)
    (hlong : Frame.maxLength < message.encode.size) :
    (device.send behaviour id message).1 = .failed (.transport "send" .frameTooBig) ∧
      ∀ other, other ≠ socket → ((device.send behaviour id message).2.net.socket other).incoming =
        (device.net.socket other).incoming := by
  have hwriter : publisher.writer = some socket := by
    unfold Publisher.outlet at houtlet
    split at houtlet
    · cases houtlet
    · split at houtlet
      · rename_i writer hwriter
        rw [hwriter, Except.ok.inj houtlet]
      · cases houtlet
  have hencode : Frame.encode message.encode = .error .frameTooBig := if_pos hlong
  have hsend : device.send behaviour id message = device.loseConnection id .frameTooBig := by
    simp only [send, hpublisher, houtlet, hencode]
  rw [hsend]
  refine ⟨rfl, fun other hother => ?_⟩
  simp only [loseConnection, withPublisher, hpublisher, Publisher.lose, hwriter]
  have hrecedes := Network.recedes_dropWriter device.net socket
  by_cases hpeer : other = Network.peerOf socket
  · rw [hpeer]
    exact hrecedes.peerIncoming
  · rw [hrecedes.others other hother hpeer]

theorem Frame.told_verdict (left : List UInt8) : (Frame.verdict left).told = [Frame.verdict left] := by
  unfold Frame.verdict
  repeat' split
  all_goals rfl

namespace Stream

variable {net after : Network} {stream stream' : Stream} {yield : Frame.Yield}

/-- A stream with a length that is too large in front of its decoder says so again and again. -/
theorem step_of_malformed (hsound : stream.reader.decoder.Sound)
    (hmalformed : Frame.Malformed stream.reader.decoder.pending)
    (hwhole : (net.socket stream.socket).broken = false)
    (hstep : stream.step net = some (yield, stream', after)) :
    stream'.reader.decoder.Sound ∧ Frame.Malformed stream'.reader.decoder.pending ∧
      stream'.unread after = stream.unread net ∧
      (yield = .hungry ∨ yield = .finished ∨ yield = .failed .frameTooBig) := by
  obtain ⟨socket, decoder, phase⟩ := stream
  have hnext := Frame.Decoder.next_of_malformed hsound hmalformed
  have htaken := Network.taken_take net socket
  dsimp only at hsound hmalformed hwhole hnext
  unfold step at hstep
  dsimp only at hstep
  split at hstep
  -- both phases that look at the socket take in what it offers
  iterate 2
    · generalize net.take socket = taken at htaken hstep
      cases htaken with
      | bytes recedes empty =>
          cases hstep
          refine ⟨hsound, ?_, ?_, .inl rfl⟩
          · simp only [Frame.Reader.feed, Frame.Decoder.pending_append]
            exact hmalformed.append _
          · simp only [unread, Frame.Reader.feed, Frame.Decoder.pending_append, empty, bytesOf_empty,
              List.append_nil]
      | broken recedes empty broken =>
          rw [hwhole] at broken
          cases broken
      | ended empty finished =>
          cases hstep
          exact ⟨hsound, hmalformed, rfl, by simp [Frame.Reader.feed]⟩
      | nothing empty whole unfinished => cases hstep
  · cases hstep
    unfold Frame.Reader.advance unread
    rw [hnext]
    cases phase with
    | reading => exact ⟨hsound, hmalformed, rfl, .inl rfl⟩
    | cutting => exact ⟨hsound, hmalformed, rfl, .inr (.inr rfl)⟩
    | ending => exact ⟨hsound, hmalformed, rfl, .inr (.inr rfl)⟩
    | paused => exact ⟨hsound, hmalformed, rfl, .inl rfl⟩
    | failed ended => exact ⟨hsound, hmalformed, rfl, .inr (.inl rfl)⟩

/-- A stream at its end says nothing else any more. -/
theorem step_at_end (hempty : (net.socket stream.socket).incoming = .empty)
    (hfinished : (net.socket stream.socket).finished = true)
    (hwhole : (net.socket stream.socket).broken = false)
    (hphase : stream.reader.phase = .paused ∨ stream.reader.phase = .failed true) :
    ∃ stream', stream.step net = some (.finished, stream', net) ∧ stream'.socket = stream.socket ∧
      stream'.reader.phase = .paused := by
  obtain ⟨socket, decoder, phase⟩ := stream
  rcases hphase with rfl | rfl
  · have htake : net.take socket = (.ended, net) := by
      rw [Network.take, if_neg (by rw [hempty]; decide), hwhole, if_neg Bool.false_ne_true,
        if_pos hfinished]
    refine ⟨⟨socket, decoder, .paused⟩, ?_, rfl, rfl⟩
    simp only [step, htake, Frame.Reader.feed, if_true]
  · exact ⟨⟨socket, decoder, .paused⟩, rfl, rfl, rfl⟩

/-- A stream that waits for more has no length that is too large in front of it. -/
theorem not_malformed_of_idle (h : stream.Live net) (hstep : stream.step net = none) :
    ¬ Frame.Malformed (stream.unread net) := by
  have hstepped := stepped_step h
  rw [hstep] at hstepped
  cases hstepped with
  | idle empty whole unfinished noFrame =>
      rw [unread_of_empty empty]
      intro hmalformed
      have hnext := Frame.Decoder.next_of_malformed h.sound hmalformed
      have hreading := h.reading
      obtain ⟨socket, decoder, phase⟩ := stream
      cases phase with
      | reading =>
          rw [hreading rfl] at hnext
          cases hnext
      | cutting => cases hstep
      | ending => cases hstep
      | paused => cases h.going
      | failed ended => cases h.going

end Stream

/-! ## A reader and what it reads -/

/-- A stream with what has arrived at it and what was read from it. -/
structure Intake where
  stream : Stream
  net : Network
  /-- every byte that has arrived -/
  arrived : List UInt8
  /-- what was read, without the times when there was nothing to hand on -/
  results : List Frame.Yield := []

namespace Intake

/-- Something happens at the socket or elsewhere, or the reader goes one step on. -/
inductive Event where
  | traffic (traffic : Traffic)
  | read

/-- The other end does not reset the connection. -/
def Event.Orderly : Event → Prop
  | .traffic (.ends reset) => reset = false
  | _ => True

/-- The piece that arrives, if one does. -/
def Event.piece : Event → List UInt8
  | .traffic (.bytes piece) => bytesOf piece
  | _ => []

/-- The stream is not ended. -/
def Event.GoesOn : Event → Prop
  | .traffic (.ends _) => False
  | _ => True

theorem Event.GoesOn.orderly {event : Event} (h : event.GoesOn) : event.Orderly := by
  cases event with
  | read => trivial
  | traffic traffic =>
      cases traffic with
      | bytes piece => trivial
      | ends reset => cases h
      | elsewhere after => trivial

/-- A stream that begins, with what waits at its socket. -/
def start (net : Network) (socket : SocketId) : Intake where
  stream := { socket }
  net := net
  arrived := bytesOf (net.socket socket).incoming

/-- One event. -/
def step (intake : Intake) : Event → Intake
  | .traffic traffic =>
      { intake with
        net := intake.net.carry intake.stream.socket traffic
        arrived := intake.arrived ++ intake.net.brought intake.stream.socket traffic }
  | .read =>
      match intake.stream.step intake.net with
      | none => intake
      | some (yield, stream, net) =>
          { intake with stream, net, results := intake.results ++ yield.told }

/-- Some events, one after the other. -/
def run (intake : Intake) (events : List Event) : Intake := events.foldl step intake

/-- Nothing more will arrive. -/
def ended (intake : Intake) : Bool := (intake.net.socket intake.stream.socket).finished

/-- What is to be read from all that has arrived. -/
def due (intake : Intake) : List Frame.Yield := Frame.due intake.ended intake.arrived

/-- How far reading has got: the stream is in use, or it is stuck at a length that is too large, or it is at
its end. -/
inductive Stage (intake : Intake) : Prop where
  | inUse {bodies : List ByteArray}
      (reads : intake.stream.Reads intake.net intake.arrived bodies)
      (fits : ∀ body ∈ bodies, body.size ≤ Frame.maxLength)
      (results : intake.results = bodies.map .frame) : Stage intake
  | spoilt {bodies : List ByteArray} {tail : List Frame.Yield}
      (sound : intake.stream.reader.decoder.Sound)
      (malformed : Frame.Malformed intake.stream.reader.decoder.pending)
      (account : intake.arrived = bodies.flatMap Frame.bytes ++ intake.stream.unread intake.net)
      (fits : ∀ body ∈ bodies, body.size ≤ Frame.maxLength)
      (results : intake.results = bodies.map .frame ++ .failed .frameTooBig :: tail)
      (repeats : ∀ yield ∈ tail, yield = .finished ∨ yield = .failed .frameTooBig) : Stage intake
  | atEnd {bodies : List ByteArray} {left : List UInt8} {tail : List Frame.Yield}
      (account : intake.arrived = bodies.flatMap Frame.bytes ++ left)
      (noFrame : Frame.complete left = [])
      (fits : ∀ body ∈ bodies, body.size ≤ Frame.maxLength)
      (results : intake.results = bodies.map .frame ++ Frame.verdict left :: tail)
      (repeats : ∀ yield ∈ tail, yield = .finished)
      (empty : (intake.net.socket intake.stream.socket).incoming = .empty)
      (ended : intake.ended = true)
      (phase : intake.stream.reader.phase = .paused ∨ intake.stream.reader.phase = .failed true) :
      Stage intake

/-- What holds of an intake at all times. -/
structure Sound (intake : Intake) : Prop where
  exists_socket : intake.stream.socket < intake.net.sockets.size
  whole : (intake.net.socket intake.stream.socket).broken = false
  stage : Stage intake

theorem sound_start {net : Network} {socket : SocketId} (hsocket : socket < net.sockets.size)
    (hwhole : (net.socket socket).broken = false) : Sound (start net socket) where
  exists_socket := hsocket
  whole := hwhole
  stage := .inUse (.start rfl) nofun rfl

section Events

variable {intake : Intake}

/-- What arrives is entered, and nothing that was read changes. -/
theorem Sound.traffic (h : Sound intake) {traffic : Traffic} (horderly : traffic ≠ .ends true) :
    Sound (intake.step (.traffic traffic)) where
  exists_socket := Network.lt_size_carry h.exists_socket traffic
  whole := (Network.broken_carry h.exists_socket horderly).trans h.whole
  stage := by
    rcases h.stage with ⟨reads, fits, results⟩ |
      ⟨sound, malformed, account, fits, results, repeats⟩ |
      ⟨account, noFrame, fits, results, repeats, empty, ended, phase⟩
    · exact .inUse (reads.carry h.exists_socket traffic) fits results
    · refine .spoilt sound malformed ?_ fits results repeats
      show _ ++ _ = _ ++ intake.stream.unread (intake.net.carry intake.stream.socket traffic)
      rw [Stream.unread_carry h.exists_socket, account, List.append_assoc]
    · obtain ⟨hincoming, hended, hbrought⟩ := Network.carry_of_finished h.exists_socket ended traffic
      refine .atEnd ?_ noFrame fits results repeats (hincoming.trans empty) hended phase
      show _ ++ _ = _
      rw [hbrought, List.append_nil, account]

theorem step_read {yield : Frame.Yield} {stream : Stream} {net : Network}
    (hstep : intake.stream.step intake.net = some (yield, stream, net)) :
    intake.step .read = { intake with stream, net, results := intake.results ++ yield.told } := by
  rw [step, hstep]

section Steps

variable {yield : Frame.Yield} {stream : Stream} {net : Network} {bodies : List ByteArray}
  {left : List UInt8} {tail : List Frame.Yield}

/-- A reader in use cuts off a frame, or comes to the verdict on what is left. -/
theorem stage_of_inUse (reads : intake.stream.Reads intake.net intake.arrived bodies)
    (fits : ∀ body ∈ bodies, body.size ≤ Frame.maxLength) (results : intake.results = bodies.map .frame)
    (hwhole : (intake.net.socket intake.stream.socket).broken = false)
    (hstep : intake.stream.step intake.net = some (yield, stream, net)) :
    Stage { intake with stream, net, results := intake.results ++ yield.told } := by
  have hstepped := Stream.stepped_step reads.live
  rw [hstep] at hstepped
  cases hstepped with
  | hungry live socket same recedes =>
      refine .inUse (reads.of_hungry live same) fits ?_
      rw [results]
      exact List.append_nil _
  | @frame body stream live socket fitsToo split =>
      refine .inUse (reads.of_frame live split) ?_ ?_
      · intro other hother
        rcases List.mem_append.1 hother with hold | hnew
        · exact fits other hold
        · rw [List.mem_singleton.1 hnew]
          exact fitsToo
      · rw [results, List.map_append]
        rfl
  | ends yields isOver socket recedes noFrame cause =>
      obtain ⟨rfl, rfl, hover⟩ :=
        (Stream.verdict_of_step reads.live hstep isOver).resolve_right
          fun hreset => Bool.eq_false_iff.1 hwhole hreset.1
      rw [Frame.told_verdict, results]
      cases hover with
      | spoilt malformed reader =>
          -- what is unread begins with the length that the decoder found
          have hverdict : Frame.verdict (intake.stream.unread intake.net) = .failed .frameTooBig :=
            Frame.verdict_of_malformed (malformed.append _)
          rw [hverdict]
          have hdecoder : stream.reader.decoder = intake.stream.reader.decoder := by rw [reader]
          refine .spoilt (by rw [hdecoder]; exact reads.live.sound) (by rw [hdecoder]; exact malformed)
            ?_ fits rfl (fun _ hnone => absurd hnone List.not_mem_nil)
          rw [Stream.unread, hdecoder, socket]
          exact reads.account
      | ended empty finished phase =>
          have hsocket : intake.net.socket stream.socket = intake.net.socket intake.stream.socket := by
            rw [socket]
          exact .atEnd reads.account noFrame fits rfl (fun _ hnone => absurd hnone List.not_mem_nil)
            (hsocket ▸ empty) (by rw [Intake.ended, hsocket]; exact finished) phase

/-- A reader at a length that is too large only repeats itself. -/
theorem stage_of_spoilt (sound : intake.stream.reader.decoder.Sound)
    (malformed : Frame.Malformed intake.stream.reader.decoder.pending)
    (account : intake.arrived = bodies.flatMap Frame.bytes ++ intake.stream.unread intake.net)
    (fits : ∀ body ∈ bodies, body.size ≤ Frame.maxLength)
    (results : intake.results = bodies.map .frame ++ .failed .frameTooBig :: tail)
    (repeats : ∀ yield ∈ tail, yield = .finished ∨ yield = .failed .frameTooBig)
    (hwhole : (intake.net.socket intake.stream.socket).broken = false)
    (hstep : intake.stream.step intake.net = some (yield, stream, net)) :
    Stage { intake with stream, net, results := intake.results ++ yield.told } := by
  obtain ⟨hsound, hmalformed, hsame, hyield⟩ :=
    Stream.step_of_malformed sound malformed hwhole hstep
  have htold : ∀ other ∈ yield.told, other = .finished ∨ other = .failed .frameTooBig := by
    rcases hyield with rfl | rfl | rfl
    · exact fun _ hnone => absurd hnone List.not_mem_nil
    · exact fun _ hone => .inl (List.mem_singleton.1 hone)
    · exact fun _ hone => .inr (List.mem_singleton.1 hone)
  refine .spoilt hsound hmalformed (by rw [hsame]; exact account) fits
    (by rw [results, List.append_assoc, List.cons_append]) fun other hother => ?_
  exact (List.mem_append.1 hother).elim (repeats other) (htold other)

/-- A reader at the end goes on to say so. -/
theorem stage_of_atEnd (account : intake.arrived = bodies.flatMap Frame.bytes ++ left)
    (noFrame : Frame.complete left = []) (fits : ∀ body ∈ bodies, body.size ≤ Frame.maxLength)
    (results : intake.results = bodies.map .frame ++ Frame.verdict left :: tail)
    (repeats : ∀ yield ∈ tail, yield = .finished)
    (empty : (intake.net.socket intake.stream.socket).incoming = .empty) (ended : intake.ended = true)
    (phase : intake.stream.reader.phase = .paused ∨ intake.stream.reader.phase = .failed true)
    (hwhole : (intake.net.socket intake.stream.socket).broken = false)
    (hstep : intake.stream.step intake.net = some (yield, stream, net)) :
    Stage { intake with stream, net, results := intake.results ++ yield.told } := by
  obtain ⟨stream', hstep', hsocket, hphase⟩ := Stream.step_at_end empty ended hwhole phase
  rw [hstep'] at hstep
  cases hstep
  have hsame : intake.net.socket stream.socket = intake.net.socket intake.stream.socket := by
    rw [hsocket]
  refine .atEnd account noFrame fits (by rw [results, List.append_assoc, List.cons_append]) ?_
    (hsame ▸ empty) (by rw [Intake.ended, hsame]; exact ended) (.inl hphase)
  intro other hother
  rcases List.mem_append.1 hother with hold | hnew
  · exact repeats other hold
  · exact List.mem_singleton.1 hnew

end Steps

/-- A step of the reader hands on the next thing that is due, or nothing. -/
theorem Sound.read (h : Sound intake) : Sound (intake.step .read) := by
  cases hstep : intake.stream.step intake.net with
  | none =>
      rw [step, hstep]
      exact h
  | some found =>
      obtain ⟨yield, stream, net⟩ := found
      rw [step_read hstep]
      have hrecedes := Stream.recedes_step hstep
      have hsocket := (Stream.step_network hstep).1
      refine ⟨?_, ?_, ?_⟩
      · show stream.socket < _
        rw [hsocket, hrecedes.size]
        exact h.exists_socket
      · show (net.socket stream.socket).broken = false
        rw [hsocket, Bool.eq_false_iff]
        exact fun hbroken => Bool.eq_false_iff.1 h.whole (hrecedes.broken hbroken)
      · rcases h.stage with ⟨reads, fits, results⟩ |
          ⟨sound, malformed, account, fits, results, repeats⟩ |
          ⟨account, noFrame, fits, results, repeats, empty, ended, phase⟩
        · exact stage_of_inUse reads fits results h.whole hstep
        · exact stage_of_spoilt sound malformed account fits results repeats h.whole hstep
        · exact stage_of_atEnd account noFrame fits results repeats empty ended phase h.whole hstep

theorem sound_step (h : Sound intake) {event : Event} (horderly : event.Orderly) :
    Sound (intake.step event) := by
  cases event with
  | traffic traffic =>
      refine h.traffic ?_
      rintro rfl
      exact Bool.noConfusion horderly
  | read => exact h.read

theorem sound_run (h : Sound intake) {events : List Event} (horderly : ∀ event ∈ events, event.Orderly) :
    Sound (intake.run events) :=
  List.foldlRecOn (motive := Sound) events step h fun _ h event hmem => sound_step h (horderly event hmem)

/-- A reader is in use, or it has read all that is due and after it nothing but what is over and over the
same. -/
theorem Sound.inUse_or_over (h : Sound intake) :
    (∃ bodies, intake.stream.Reads intake.net intake.arrived bodies ∧
      (∀ body ∈ bodies, body.size ≤ Frame.maxLength) ∧ intake.results = bodies.map .frame) ∨
      (intake.ended ∨ Frame.Malformed (Frame.rest intake.arrived)) ∧
        ∃ tail, intake.results = intake.due ++ tail ∧ ∀ yield ∈ tail, yield = .finished ∨
          Frame.Malformed (Frame.rest intake.arrived) ∧ yield = .failed .frameTooBig := by
  rcases h.stage with ⟨reads, fits, results⟩ |
    ⟨sound, malformed, account, fits, results, repeats⟩ |
    ⟨account, noFrame, fits, results, repeats, empty, ended, phase⟩
  · exact .inl ⟨_, reads, fits, results⟩
  · have hmalformed := malformed.append (bytesOf (intake.net.socket intake.stream.socket).incoming)
    rw [← Stream.unread] at hmalformed
    have hrest := Frame.rest_append_frames fits hmalformed.complete_eq_nil
    rw [← account] at hrest
    rw [hrest]
    refine .inr ⟨.inr hmalformed, _, ?_, fun yield hyield => (repeats yield hyield).imp_right fun heq =>
      ⟨hmalformed, heq⟩⟩
    rw [results, due, account, Frame.due_append_frames fits hmalformed.complete_eq_nil,
      if_pos (.inr hmalformed), Frame.verdict_of_malformed hmalformed, List.append_assoc]
    rfl
  · refine .inr ⟨.inl ended, _, ?_, fun yield hyield => .inl (repeats yield hyield)⟩
    rw [results, due, account, ended, Frame.due_append_frames fits noFrame, if_pos (.inl rfl),
      List.append_assoc]
    rfl

/-- Nothing but what is due was read, in its order; and once it is known how the stream is over, nothing but
that comes again. -/
theorem Sound.outcome (h : Sound intake) :
    intake.results <+: intake.due ∨
      (intake.ended ∨ Frame.Malformed (Frame.rest intake.arrived)) ∧
        ∃ tail, intake.results = intake.due ++ tail ∧ ∀ yield ∈ tail, yield = .finished ∨
          Frame.Malformed (Frame.rest intake.arrived) ∧ yield = .failed .frameTooBig := by
  refine h.inUse_or_over.imp_left ?_
  rintro ⟨bodies, reads, fits, results⟩
  rw [results, due, Frame.due, reads.complete_eq fits, List.map_append, List.append_assoc]
  exact List.prefix_append _ _

/-- Reading brings nothing and ends nothing. -/
theorem ended_read (intake : Intake) :
    (intake.step .read).arrived = intake.arrived ∧ (intake.step .read).ended = intake.ended := by
  rw [step]
  split
  · exact ⟨rfl, rfl⟩
  · rename_i yield stream net hstep
    refine ⟨rfl, ?_⟩
    rw [ended, (Stream.step_network hstep).1]
    exact (Stream.recedes_step hstep).finished

/-- Reading changes nothing about what is due. -/
theorem due_read (intake : Intake) : (intake.step .read).due = intake.due := by
  rw [due, due, (ended_read intake).1, (ended_read intake).2]

theorem run_read (intake : Intake) (count : Nat) :
    intake.run (List.replicate (count + 1) .read) =
      (intake.step .read).run (List.replicate count .read) := rfl

theorem orderly_reads (count : Nat) : ∀ event ∈ List.replicate count Event.read, event.Orderly := by
  intro event hevent
  rw [List.eq_of_mem_replicate hevent]
  trivial

theorem due_reads (intake : Intake) (count : Nat) :
    (intake.run (List.replicate count .read)).due = intake.due := by
  induction count generalizing intake with
  | zero => rfl
  | succ count ih => rw [run_read, ih, due_read]

/-- A reader that waits for more has read all that is due. -/
theorem due_of_idle {bodies : List ByteArray}
    (reads : intake.stream.Reads intake.net intake.arrived bodies)
    (fits : ∀ body ∈ bodies, body.size ≤ Frame.maxLength) (results : intake.results = bodies.map .frame)
    (hstep : intake.stream.step intake.net = none) : intake.due = intake.results := by
  have hnone := Stream.not_malformed_of_idle reads.live hstep
  have hstepped := Stream.stepped_step reads.live
  rw [hstep] at hstepped
  cases hstepped with
  | idle empty whole unfinished noFrame =>
      have hunended : ¬ (intake.ended = true) := by
        rw [ended, unfinished]
        exact Bool.false_ne_true
      rw [due, reads.account, Frame.due_append_frames fits noFrame,
        if_neg (not_or.2 ⟨hunended, hnone⟩), List.append_nil, results]

/-- As long as something is due that was not read, reading goes on. -/
theorem Sound.exists_more (h : Sound intake) (hless : intake.results.length < intake.due.length) :
    ∃ count, intake.results.length <
      (intake.run (List.replicate count .read)).results.length := by
  -- induction on the steps until something is handed on
  induction htoil : intake.stream.toil intake.net using Nat.strongRecOn generalizing intake with
  | _ toil ih =>
      rcases h.inUse_or_over with ⟨bodies, reads, fits, results⟩ | ⟨-, tail, hall, -⟩
      · cases hstep : intake.stream.step intake.net with
        | none =>
            rw [due_of_idle reads fits results hstep] at hless
            omega
        | some found =>
            obtain ⟨yield, stream, net⟩ := found
            by_cases hhungry : yield = .hungry
            · subst hhungry
              have hread := step_read hstep
              have hresults : (intake.step .read).results = intake.results := by
                rw [hread]
                exact List.append_nil _
              have hcloser := Stream.toil_of_hungry reads.live hstep
              obtain ⟨count, hcount⟩ := ih (stream.toil net) (htoil ▸ hcloser) h.read
                (by rw [due_read, hresults]; exact hless) (by rw [hread])
              refine ⟨count + 1, ?_⟩
              rw [run_read, ← hresults]
              exact hcount
            · refine ⟨1, ?_⟩
              rw [run_read, step_read hstep]
              show _ < (intake.results ++ yield.told).length
              rw [List.length_append]
              have htold : 0 < yield.told.length := by
                cases yield with
                | hungry => exact absurd rfl hhungry
                | frame body => exact Nat.one_pos
                | finished => exact Nat.one_pos
                | failed fault => exact Nat.one_pos
              omega
      · rw [hall, List.length_append] at hless
        omega

/-- A reader that is asked often enough reads all that is due. -/
theorem Sound.exists_reads (h : Sound intake) :
    ∃ count, intake.due <+: (intake.run (List.replicate count .read)).results := by
  -- induction on how much is missing
  induction hmissing : intake.due.length - intake.results.length using Nat.strongRecOn
    generalizing intake with
  | _ missing ih =>
      by_cases hless : intake.results.length < intake.due.length
      · obtain ⟨first, hfirst⟩ := h.exists_more hless
        have hdue := due_reads intake first
        obtain ⟨count, hcount⟩ := ih _ (by rw [hdue]; omega) (sound_run h (orderly_reads first)) rfl
        refine ⟨first + count, ?_⟩
        rw [hdue] at hcount
        rw [List.replicate_add, run, List.foldl_append, ← run, ← run]
        exact hcount
      · refine ⟨0, ?_⟩
        show intake.due <+: intake.results
        rcases h.outcome with hbegins | ⟨-, tail, hall, -⟩
        · have heq := hbegins.eq_of_length_le (Nat.le_of_not_lt hless)
          exact ⟨[], (List.append_nil _).trans heq.symm⟩
        · exact ⟨tail, hall.symm⟩

/-- As long as the stream is not ended, a piece comes behind what has arrived. -/
theorem Sound.arrived_step (h : Sound intake) (hopen : intake.ended = false) {event : Event}
    (hgoes : event.GoesOn) :
    (intake.step event).arrived = intake.arrived ++ event.piece ∧ (intake.step event).ended = false := by
  cases event with
  | read =>
      rw [(ended_read intake).1, (ended_read intake).2]
      exact ⟨(List.append_nil _).symm, hopen⟩
  | traffic traffic =>
      cases traffic with
      | bytes piece =>
          simp only [step, ended, Network.brought, Network.carry]
          rw [ended] at hopen
          rw [hopen, if_neg Bool.false_ne_true, if_neg Bool.false_ne_true,
            Network.socket_modify_self h.exists_socket]
          exact ⟨rfl, hopen⟩
      | ends reset => cases hgoes
      | elsewhere after =>
          refine ⟨rfl, ?_⟩
          simp only [step, ended, Network.carry]
          split
          · rename_i hthere
            rw [Network.socket_modify_self hthere]
            exact hopen
          · exact hopen

/-- As long as the stream is not ended, what has arrived is one piece after the other. -/
theorem Sound.arrived_run (h : Sound intake) (hopen : intake.ended = false) {events : List Event}
    (hgoes : ∀ event ∈ events, event.GoesOn) :
    (intake.run events).arrived = intake.arrived ++ events.flatMap Event.piece := by
  induction events generalizing intake with
  | nil => exact (List.append_nil _).symm
  | cons event events ih =>
      have hgoesFirst := hgoes event List.mem_cons_self
      obtain ⟨harrived, hopen'⟩ := h.arrived_step hopen hgoesFirst
      have hrest := ih (sound_step h hgoesFirst.orderly) hopen'
        fun other hother => hgoes other (List.mem_cons_of_mem _ hother)
      rw [harrived, List.append_assoc, ← List.flatMap_cons] at hrest
      exact hrest

end Events

/-- **Frames there and back.**  Let the stream at a socket begin, and let pieces arrive at it and its reader
go on at any times, with no reset of the connection.  Then at every moment, where what is due is the bodies of
the frames that have arrived as a whole, and then how the stream is over if it was ended or if a length that is
too large has arrived:

* what was read is what is due up to some place, or all of it and after it the end again and again, with the
  fault again if it was a length that is too large;
* a reader that is asked often enough reads all that is due;
* before the end, what has arrived is the pieces one after the other, wherever they were cut.

What is due is the bodies that were written and then the end, where their frames have arrived; a length that
is too large is a fault after exactly the frames before it; and of a frame that was cut off nothing is read.
A body that is too long has no frame: sending it fails, and nothing arrives anywhere. -/
theorem framing_round_trip {net : Network} {socket : SocketId} (hsocket : socket < net.sockets.size)
    (hwhole : (net.socket socket).broken = false) (events : List Event)
    (horderly : ∀ event ∈ events, event.Orderly) :
    let intake := (start net socket).run events
    let due := Frame.due intake.ended intake.arrived
    (intake.results <+: due ∨
      (intake.ended ∨ Frame.Malformed (Frame.rest intake.arrived)) ∧
        ∃ tail, intake.results = due ++ tail ∧ ∀ yield ∈ tail, yield = .finished ∨
          Frame.Malformed (Frame.rest intake.arrived) ∧ yield = .failed .frameTooBig) ∧
    (∃ count, due <+: (intake.run (List.replicate count .read)).results) ∧
    ((net.socket socket).finished = false → (∀ event ∈ events, event.GoesOn) →
      intake.arrived = bytesOf (net.socket socket).incoming ++ events.flatMap Event.piece ∧
        (intake.step (.traffic (.ends false))).arrived = intake.arrived ∧
        (intake.step (.traffic (.ends false))).ended = true) ∧
    (∀ bodies : List ByteArray, (∀ body ∈ bodies, body.size ≤ Frame.maxLength) →
      Frame.due true (Frame.written bodies) = bodies.map .frame ++ [.finished] ∧
      (∀ length more ended, Frame.maxLength < length → length < 0x100000000 →
        Frame.due ended (Frame.written bodies ++ (bytesOf (Frame.lengthBytes length) ++ more)) =
          bodies.map .frame ++ [.failed .frameTooBig]) ∧
      (∀ body cut, body.size ≤ Frame.maxLength → cut < (Frame.written [body]).length →
        Frame.due true (Frame.written bodies ++ (Frame.written [body]).take cut) =
          bodies.map .frame ++
            [if cut = 0 ∨ cut = Frame.headerLength then .finished else .failed .bytesRemaining])) ∧
    (∀ body, Frame.maxLength < body.size →
      Frame.encode body = .error .frameTooBig ∧ Frame.written [body] = []) ∧
    (∀ (η : Type) (device : Device η) (behaviour : Behaviour η) (id : PublisherId) (message : Message)
      (publisher : Publisher) (outlet : SocketId), device.publishers[id]? = some publisher →
      publisher.outlet = .ok outlet → Frame.maxLength < message.encode.size →
      (device.send behaviour id message).1 = .failed (.transport "send" .frameTooBig) ∧
        ∀ other, other ≠ outlet → ((device.send behaviour id message).2.net.socket other).incoming =
          (device.net.socket other).incoming) := by
  intro intake due
  have h : Sound intake := sound_run (sound_start hsocket hwhole) horderly
  refine ⟨h.outcome, h.exists_reads, ?_, ?_, ?_, ?_⟩
  · intro hopen hgoes
    refine ⟨(sound_start hsocket hwhole).arrived_run hopen hgoes, List.append_nil _, ?_⟩
    show ((intake.net.modify _ _).socket intake.stream.socket).finished = true
    rw [Network.socket_modify_self h.exists_socket]
  · intro bodies hbodies
    refine ⟨Frame.due_written hbodies, ?_, ?_⟩
    · intro length more ended hlarge hlength
      exact Frame.due_large hbodies hlarge hlength more ended
    · intro body cut hbody hcut
      exact Frame.due_part hbodies hbody hcut
  · intro body hlong
    have hencode : Frame.encode body = .error .frameTooBig := if_pos hlong
    refine ⟨hencode, ?_⟩
    rw [Frame.written, List.flatMap_singleton, hencode]
  · intro η device behaviour id message publisher outlet hpublisher houtlet hlong
    exact Device.send_of_long hpublisher houtlet hlong

/-- Two sockets that are connected. -/
def cutNetwork : Network := { files := .fresh, sockets := #[{}, {}] }

/-- Two frames and a part of a third, cut inside a length and inside a body. -/
def cutEvents : List Event :=
  [.read, .traffic (.bytes ⟨#[0, 0]⟩), .read, .read, .traffic (.bytes ⟨#[0, 1, 97, 0, 0, 0, 0, 0]⟩), .read,
    .read, .read, .traffic (.bytes ⟨#[0, 0, 2, 98]⟩), .traffic (.ends false), .read]

theorem framing_round_trip_cut :
    let intake := (start cutNetwork 0).run cutEvents
    intake.results = [.frame ⟨#[97]⟩, .frame ⟨#[]⟩] ∧
      ∃ count, [.frame ⟨#[97]⟩, .frame ⟨#[]⟩, .failed .bytesRemaining] <+:
        (intake.run (List.replicate count .read)).results := by
  intro intake
  have horderly : ∀ event ∈ cutEvents, event.Orderly := by
    simp [cutEvents, Event.Orderly]
  obtain ⟨-, hreads, -, hdue, -⟩ :=
    @framing_round_trip cutNetwork 0 (by decide) (by decide) cutEvents horderly
  have hparts := (hdue [⟨#[97]⟩, ⟨#[]⟩] (by decide)).2.2 ⟨#[98, 99]⟩ 5 (by decide) (by decide)
  have harrived : ((start cutNetwork 0).run cutEvents).arrived =
      Frame.written [⟨#[97]⟩, ⟨#[]⟩] ++ (Frame.written [⟨#[98, 99]⟩]).take 5 := by decide +kernel
  have hended : ((start cutNetwork 0).run cutEvents).ended = true := by decide +kernel
  rw [harrived, hended, hparts] at hreads
  exact ⟨by decide +kernel, hreads⟩

end Intake

end DeviceBus
