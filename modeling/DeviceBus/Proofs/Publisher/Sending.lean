import DeviceBus.Device.Operations
import DeviceBus.Proofs.Transport.Frames
import DeviceBus.Proofs.Transport.Network

/-!
# Sending in any surroundings

While a publisher sends, the rest of the world goes on: the other end reads, or does not, or closes the
connection.  So a call is described here by what its attempts to write find, whatever that is.  A device, in
which proxies and subscribers go on in between, is a special case.

* `Network.added`: the bytes that have come to the other end of a socket from one network to another.
* `Network.writeAll`, `Network.writeAll_begins`: writing all of some bytes, attempt by attempt, writes a part
  of them from the front, and all of them exactly if it is complete.
* `Publisher.Reply`, `Publisher.send`, `Publisher.publish`: what publishing comes to.
* `Publisher.Published`, `Publisher.published_publish`: everything that it can come to.
* `Device.exists_publish_eq`: publishing on a device is publishing in its surroundings.
-/

namespace DeviceBus

/-! ## Writing -/

namespace Network

/-- The bytes that have come to the other end of a socket on top of those that were there before. -/
def added (socket : SocketId) (before after : Network) : List UInt8 :=
  (bytesOf (after.socket (peerOf socket)).incoming).drop (before.socket (peerOf socket)).incoming.size

theorem added_of_incoming {socket : SocketId} {before after : Network}
    (h : (after.socket (peerOf socket)).incoming = (before.socket (peerOf socket)).incoming) :
    added socket before after = [] := by
  rw [added, h, ← length_bytesOf, List.drop_length]

theorem added_of_delivers {socket : SocketId} {piece : ByteArray} {before after : Network}
    (h : Delivers socket piece before after) : added socket before after = bytesOf piece := by
  rw [added, h.peer]
  dsimp only
  rw [bytesOf_append, ← length_bytesOf, List.drop_left]

/-- A write adds as many of its bytes as it says. -/
theorem added_of_write {net after : Network} {socket : SocketId} {bytes : ByteArray} {offset count : Nat}
    (h : net.write socket bytes offset = .ok (count, after)) :
    count ≤ bytes.size - offset ∧ added socket net after = ((bytesOf bytes).drop offset).take count := by
  obtain ⟨-, hcount, hdelivers⟩ := delivers_write h
  refine ⟨hcount, ?_⟩
  rw [added_of_delivers hdelivers, bytesOf_extract, Nat.add_sub_cancel_left]

/-- Write bytes from a position on.  Each attempt finds the network as it is by then; `later` lists what the
attempts after the first one find, and where they are used up writing goes no further.  The result tells how
it ended, what network it left, and what it added. -/
def writeAll (socket : SocketId) (bytes : ByteArray) (offset : Nat) (net : Network) (later : List Network) :
    Written × Network × List UInt8 :=
  match net.write socket bytes offset with
  | .error fault => (.failed fault, net, [])
  | .ok (count, after) =>
      if bytes.size ≤ offset + count then (.complete, after, added socket net after)
      else
        match later with
        | [] => (.stuck, after, added socket net after)
        | next :: later =>
            let (written, last, rest) := writeAll socket bytes (offset + count) next later
            (written, last, added socket net after ++ rest)

/-- Bytes are written from the front, and all of them exactly if writing is complete. -/
theorem writeAll_begins {socket : SocketId} {bytes : ByteArray} {offset : Nat} (hinside : offset < bytes.size)
    (net : Network) (later : List Network) :
    (writeAll socket bytes offset net later).2.2 <+: (bytesOf bytes).drop offset ∧
      ((writeAll socket bytes offset net later).1 = .complete ↔
        (writeAll socket bytes offset net later).2.2 = (bytesOf bytes).drop offset) := by
  have hlength : ∀ offset, ((bytesOf bytes).drop offset).length = bytes.size - offset := by simp
  fun_induction writeAll socket bytes offset net later with
  | case1 later offset net fault hwrite =>
      refine ⟨List.nil_prefix, iff_of_false (fun h => Written.noConfusion h) fun hnil => ?_⟩
      have hzero := hlength offset
      rw [← hnil, List.length_nil] at hzero
      omega
  | case2 later offset net count after hwrite hall =>
      obtain ⟨hcount, hadded⟩ := added_of_write hwrite
      have hwhole : added socket net after = (bytesOf bytes).drop offset := by
        rw [hadded, List.take_of_length_le (by rw [hlength]; omega)]
      exact ⟨hwhole ▸ List.prefix_rfl, iff_of_true rfl hwhole⟩
  | case3 offset net count after hwrite hpart =>
      obtain ⟨hcount, hadded⟩ := added_of_write hwrite
      rw [hadded]
      refine ⟨List.take_prefix _ _, iff_of_false (fun h => Written.noConfusion h) fun hwhole => ?_⟩
      have hsize := congrArg List.length hwhole
      rw [List.length_take, hlength] at hsize
      omega
  | case4 offset net count after hwrite hpart next later written last rest heq ih =>
      obtain ⟨hcount, hadded⟩ := added_of_write hwrite
      rw [heq] at ih
      obtain ⟨hbegins, hcomplete⟩ := ih (by omega)
      have hsplit : (bytesOf bytes).drop offset =
          added socket net after ++ (bytesOf bytes).drop (offset + count) := by
        rw [hadded, ← List.drop_drop, List.take_append_drop]
      rw [hsplit]
      exact ⟨(List.prefix_append_right_inj _).2 hbegins,
        hcomplete.trans (List.append_cancel_left_eq _ _ _).symm.to_iff⟩

end Network

/-! ## Publishing -/

namespace Publisher

/-- What a message is published on: a topic, or one that was registered. -/
inductive Address where
  | topic (head method : String)
  | registered (index : Nat)

/-- The message that a publisher sends to an address. -/
def messageTo (publisher : Publisher) (payload : ByteArray) : Address → Except BusError Message
  | .topic head method => message head method payload
  | .registered index => publisher.registeredMessage index payload

/-- What a call has come to: its answer, the publisher and the network as it leaves them, and the bytes that
it has added to the connection.  A call without an answer does not return. -/
structure Reply where
  answer : Option (Except BusError Unit)
  publisher : Publisher
  net : Network
  added : List UInt8

/-- The bytes that have come to the other end of the connection of a publisher. -/
def added (publisher : Publisher) (before after : Network) : List UInt8 :=
  match publisher.writer with
  | some socket => Network.added socket before after
  | none => []

/-- A call that leaves everything as it is. -/
def Reply.still (answer : Except BusError Unit) (publisher : Publisher) (net : Network) : Reply :=
  ⟨some answer, publisher, net, publisher.added net net⟩

/-- Sending fails after some bytes were added: the connection is let go. -/
def fail (publisher : Publisher) (fault : SystemFault) (net : Network) (part : List UInt8) : Reply :=
  let (after, last) := publisher.lose net
  ⟨some (.error (.transport "send" fault)), after, last, part ++ publisher.added net last⟩

/-- Send a message; the attempts to write its frame find `net` and then what is in `later`. -/
def send (publisher : Publisher) (message : Message) (net : Network) (later : List Network) : Reply :=
  match publisher.outlet, Frame.encode message.encode with
  | .error error, _ => .still (.error error) publisher net
  | .ok _, .error fault => publisher.fail fault net []
  | .ok socket, .ok frame =>
      match Network.writeAll socket frame 0 net later with
      | (.complete, last, part) => ⟨some (.ok ()), publisher, last, part⟩
      | (.failed fault, last, part) => publisher.fail fault last part
      | (.stuck, last, part) => ⟨none, publisher, last, part⟩

/-- Publish a payload to an address. -/
def publish (publisher : Publisher) (address : Address) (payload : ByteArray) (net : Network)
    (later : List Network) : Reply :=
  match publisher.messageTo payload address with
  | .error error => .still (.error error) publisher net
  | .ok message => publisher.send message net later

/-- A publisher is connected exactly while it holds the half for writing of a connection. -/
def Coherent (publisher : Publisher) : Prop :=
  publisher.state = .connected ↔ publisher.writer.isSome = true

/-- A publisher that has lost its connection. -/
def disconnected (publisher : Publisher) : Publisher := { publisher with state := .opened, writer := none }

theorem added_self (publisher : Publisher) (net : Network) : publisher.added net net = [] := by
  rw [added]
  cases publisher.writer with
  | none => rfl
  | some socket => exact Network.added_of_incoming rfl

/-- Letting the connection go adds nothing to it. -/
theorem added_lose (publisher : Publisher) (net : Network) :
    publisher.added net (publisher.lose net).2 = [] := by
  rw [added]
  cases hwriter : publisher.writer with
  | none => rfl
  | some socket =>
      rw [lose, hwriter]
      exact Network.added_of_incoming (Network.recedes_dropWriter net socket).peerIncoming

theorem still_eq (answer : Except BusError Unit) (publisher : Publisher) (net : Network) :
    Reply.still answer publisher net = ⟨some answer, publisher, net, []⟩ := by
  rw [Reply.still, added_self]

theorem fail_eq (publisher : Publisher) (fault : SystemFault) (net : Network) (part : List UInt8) :
    publisher.fail fault net part =
      ⟨some (.error (.transport "send" fault)), publisher.disconnected, (publisher.lose net).2, part⟩ := by
  rw [fail]
  dsimp only
  rw [added_lose, List.append_nil]
  rfl

/-- What a message is published on may be wrong: a topic with a fault, or an index that was not given out. -/
def Address.Wrong (publisher : Publisher) : Address → Prop
  | .topic head method => Topic.fault? head method ≠ none
  | .registered index => publisher.registry.size ≤ index

/-- A message can be made exactly for an address that is not wrong, and what is wrong with one is told as an
error of the topic. -/
theorem messageTo_cases (publisher : Publisher) (payload : ByteArray) (address : Address) :
    (address.Wrong publisher ∧
        ∃ reason, publisher.messageTo payload address = .error (.invalidTopic reason)) ∨
      ¬address.Wrong publisher ∧ ∃ message, publisher.messageTo payload address = .ok message := by
  cases address with
  | topic head method =>
      simp only [messageTo, message, Topic.validate, Address.Wrong]
      cases Topic.fault? head method with
      | none => exact .inr ⟨fun h => h rfl, _, rfl⟩
      | some fault => exact .inl ⟨Option.some_ne_none fault, _, rfl⟩
  | registered index =>
      simp only [messageTo, registeredMessage, Registry.entry?, Address.Wrong, Registry.size]
      rcases Nat.lt_or_ge index publisher.registry.entries.length with hinside | houtside
      · rw [List.getElem?_eq_getElem hinside]
        exact .inr ⟨Nat.not_le_of_lt hinside, _, rfl⟩
      · rw [List.getElem?_eq_none houtside]
        exact .inl ⟨houtside, _, rfl⟩

/-- Everything that publishing can come to. -/
inductive Published (publisher : Publisher) (address : Address) (payload : ByteArray) (net : Network) :
    Reply → Prop where
  | invalid (wrong : address.Wrong publisher) (reason : String) :
      Published publisher address payload net ⟨some (.error (.invalidTopic reason)), publisher, net, []⟩
  | refused (right : ¬address.Wrong publisher) (state : publisher.state ≠ .connected) :
      Published publisher address payload net ⟨some (.error (publisher.refuse "publish")), publisher, net, []⟩
  | tooLong {message : Message} (right : ¬address.Wrong publisher)
      (hmessage : publisher.messageTo payload address = .ok message) (state : publisher.state = .connected)
      (long : Frame.maxLength < message.encode.size) :
      Published publisher address payload net
        ⟨some (.error (.transport "send" .frameTooBig)), publisher.disconnected, (publisher.lose net).2, []⟩
  | sent {message : Message} {last : Network} (right : ¬address.Wrong publisher)
      (hmessage : publisher.messageTo payload address = .ok message) (state : publisher.state = .connected)
      (fits : message.encode.size ≤ Frame.maxLength) :
      Published publisher address payload net
        ⟨some (.ok ()), publisher, last, Frame.bytes message.encode⟩
  | broken {message : Message} {fault : SystemFault} {last : Network} {part : List UInt8}
      (right : ¬address.Wrong publisher) (hmessage : publisher.messageTo payload address = .ok message)
      (state : publisher.state = .connected) (fits : message.encode.size ≤ Frame.maxLength)
      (begins : part <+: Frame.bytes message.encode) (less : part ≠ Frame.bytes message.encode) :
      Published publisher address payload net
        ⟨some (.error (.transport "send" fault)), publisher.disconnected, (publisher.lose last).2, part⟩
  | waiting {message : Message} {last : Network} {part : List UInt8}
      (right : ¬address.Wrong publisher) (hmessage : publisher.messageTo payload address = .ok message)
      (state : publisher.state = .connected) (fits : message.encode.size ≤ Frame.maxLength)
      (begins : part <+: Frame.bytes message.encode) (less : part ≠ Frame.bytes message.encode) :
      Published publisher address payload net ⟨none, publisher, last, part⟩

theorem outlet_of_connected {publisher : Publisher} (h : publisher.Coherent)
    (hstate : publisher.state = .connected) : ∃ socket, publisher.outlet = .ok socket := by
  obtain ⟨socket, hwriter⟩ := Option.isSome_iff_exists.1 (h.1 hstate)
  refine ⟨socket, ?_⟩
  rw [outlet, if_neg (not_not.2 hstate), hwriter]

theorem outlet_of_not_connected {publisher : Publisher} (hstate : publisher.state ≠ .connected) :
    publisher.outlet = .error (publisher.refuse "publish") := if_pos hstate

theorem published_publish {publisher : Publisher} (h : publisher.Coherent) (address : Address)
    (payload : ByteArray) (net : Network) (later : List Network) :
    Published publisher address payload net (publisher.publish address payload net later) := by
  rw [publish]
  rcases publisher.messageTo_cases payload address with
    ⟨hwrong, reason, hmessage⟩ | ⟨hright, message, hmessage⟩
  · rw [hmessage]
    dsimp only
    rw [still_eq]
    exact .invalid hwrong reason
  · rw [hmessage]
    dsimp only
    rw [send]
    by_cases hstate : publisher.state = .connected
    · obtain ⟨socket, houtlet⟩ := outlet_of_connected h hstate
      rw [houtlet]
      by_cases hlong : Frame.maxLength < message.encode.size
      · rw [Frame.encode, if_pos hlong]
        dsimp only
        rw [fail_eq]
        exact .tooLong hright hmessage hstate hlong
      · have hfits : message.encode.size ≤ Frame.maxLength := Nat.le_of_not_lt hlong
        obtain ⟨frame, hframe, hbytes⟩ := Frame.exists_encode hfits
        rw [hframe]
        have hbegins := @Network.writeAll_begins socket frame 0 (Frame.size_pos_of_encode hframe) net later
        rw [List.drop_zero, hbytes] at hbegins
        dsimp only
        generalize Network.writeAll socket frame 0 net later = result at hbegins
        obtain ⟨written, last, part⟩ := result
        obtain ⟨hfront, hcomplete⟩ := hbegins
        cases written with
        | complete =>
            obtain rfl : part = Frame.bytes message.encode := hcomplete.1 rfl
            exact .sent hright hmessage hstate hfits
        | failed fault =>
            dsimp only
            rw [fail_eq]
            exact .broken hright hmessage hstate hfits hfront fun hall => Written.noConfusion (hcomplete.2 hall)
        | stuck =>
            exact .waiting hright hmessage hstate hfits hfront fun hall => Written.noConfusion (hcomplete.2 hall)
    · rw [outlet_of_not_connected hstate]
      dsimp only
      rw [still_eq]
      exact .refused hright hstate

end Publisher

/-! ## Publishing on a device -/

/-- What the owner of a publisher is told, if anything. -/
def Publication.answer : Publication → Option (Except BusError Unit)
  | .sent => some (.ok ())
  | .failed error => some (.error error)
  | .waiting => none

namespace Device

variable {η : Type}

/-- Publish a payload to an address. -/
def publishTo (device : Device η) (behaviour : Behaviour η) (id : PublisherId) (payload : ByteArray) :
    Publisher.Address → Publication × Device η
  | .topic head method => device.publish behaviour id head method payload
  | .registered index => device.publishRegistered behaviour id index payload

theorem publishers_performProxy {device after : Device η} {id : ProxyId}
    {step : Proxy → Network → Option (Proxy × Network)} (h : device.performProxy id step = some after) :
    after.publishers = device.publishers := by
  rw [performProxy] at h
  split at h
  · cases h
  · obtain ⟨_, -, rfl⟩ := Option.map_eq_some_iff.1 h
    rfl

/-- No activity touches a publisher. -/
theorem publishers_perform {device after : Device η} {behaviour : Behaviour η} {activity : Activity}
    (h : device.perform behaviour activity = some after) : after.publishers = device.publishers := by
  cases activity with
  | acceptPublisher => exact publishers_performProxy h
  | acceptSubscriber => exact publishers_performProxy h
  | pumpSubscriber =>
      rw [perform] at h
      exact publishers_performProxy h
  | pumpPublisher =>
      rw [perform] at h
      exact publishers_performProxy h
  | receive id =>
      simp only [perform, performReceive] at h
      split at h
      · cases h
      · split at h
        · cases h
        · split at h
          · cases h
            rfl
          · obtain ⟨_, -, rfl⟩ := Option.map_eq_some_iff.1 h
            rfl

theorem publishers_follow (behaviour : Behaviour η) (steps : Nat) (device : Device η) :
    (device.follow behaviour steps).publishers = device.publishers := by
  induction steps generalizing device with
  | zero => rfl
  | succ steps ih =>
      rw [follow]
      split
      · rename_i after hnext
        obtain ⟨activity, -, hperform⟩ := List.exists_of_findSome?_eq_some hnext
        rw [ih, publishers_perform hperform]
      · rfl

theorem publishers_awaitRoom (device : Device η) (behaviour : Behaviour η) (socket : SocketId) :
    (device.awaitRoom behaviour socket).publishers = device.publishers := by
  rw [awaitRoom]
  split
  · rfl
  · split
    · exact publishers_follow behaviour _ device
    · rfl

/-- Writing on a device is writing in its surroundings. -/
theorem exists_writeAll_eq (device : Device η) (behaviour : Behaviour η) (socket : SocketId)
    (frame : ByteArray) {offset : Nat} (hinside : offset < frame.size) :
    ∃ net later last part,
      Network.writeAll socket frame offset net later =
        ((device.writeFrom behaviour socket frame offset).1, last, part) ∧
      (device.writeFrom behaviour socket frame offset).2.publishers = device.publishers ∧
      ((device.writeFrom behaviour socket frame offset).1 ≠ .stuck →
        (device.writeFrom behaviour socket frame offset).2.net = last) := by
  -- induction on what is left, for every attempt that goes on makes that less
  induction hleft : frame.size - offset using Nat.strongRecOn generalizing device offset with
  | ind left ih =>
      rw [writeFrom, if_neg (Nat.not_le_of_lt hinside)]
      have hpublishers := device.publishers_awaitRoom behaviour socket
      generalize device.awaitRoom behaviour socket = found at hpublishers
      dsimp only
      cases hwrite : found.net.write socket frame offset with
      | error fault =>
          refine ⟨found.net, [], found.net, [], ?_, hpublishers, fun _ => rfl⟩
          rw [Network.writeAll.eq_def, hwrite]
      | ok written =>
          obtain ⟨count, after⟩ := written
          dsimp only
          by_cases hall : frame.size ≤ offset + count
          · have hsome : count ≠ 0 := by omega
            rw [if_neg hsome, writeFrom, if_pos hall]
            refine ⟨found.net, [], after, Network.added socket found.net after, ?_, hpublishers, fun _ => rfl⟩
            rw [Network.writeAll.eq_def, hwrite]
            exact if_pos hall
          by_cases hnothing : count = 0
          · rw [if_pos hnothing]
            refine ⟨found.net, [], after, Network.added socket found.net after, ?_, hpublishers,
              fun hstuck => absurd rfl hstuck⟩
            rw [Network.writeAll.eq_def, hwrite]
            exact if_neg hall
          · rw [if_neg hnothing]
            obtain ⟨next, later, last, rest, hrest, hkept, hlast⟩ := ih (frame.size - (offset + count))
              (by omega) { found with net := after } (Nat.lt_of_not_le hall) rfl
            refine ⟨found.net, next :: later, last, Network.added socket found.net after ++ rest, ?_,
              hkept.trans hpublishers, hlast⟩
            rw [Network.writeAll.eq_def, hwrite]
            dsimp only
            rw [if_neg hall, hrest]

/-- An operation on a device has come to what a call of one of its publishers comes to.  Where it does not
return, the device is left with the publisher still at it. -/
structure Agrees (id : PublisherId) (result : Publication × Device η) (reply : Publisher.Reply) : Prop where
  answer : result.1.answer = reply.answer
  publisher : result.2.publishers[id]? = some reply.publisher
  net : reply.answer ≠ none → result.2.net = reply.net

variable {device : Device η} {behaviour : Behaviour η} {id : PublisherId} {publisher : Publisher}

theorem agrees_still (h : device.publishers[id]? = some publisher) (error : BusError) :
    Agrees id (.failed error, device) (.still (.error error) publisher device.net) :=
  ⟨rfl, h, fun _ => rfl⟩

theorem agrees_loseConnection (h : device.publishers[id]? = some publisher) (fault : SystemFault)
    (part : List UInt8) :
    Agrees id (device.loseConnection id fault) (publisher.fail fault device.net part) := by
  obtain ⟨hinside, -⟩ := Array.getElem?_eq_some_iff.1 h
  have hlost : device.loseConnection id fault = (.failed (.transport "send" fault),
      { device with
        net := (publisher.lose device.net).2
        publishers := device.publishers.setIfInBounds id (publisher.lose device.net).1 }) := by
    simp only [loseConnection, withPublisher, h]
  rw [hlost]
  exact ⟨rfl, Array.getElem?_setIfInBounds_self_of_lt hinside, fun _ => rfl⟩

/-- Sending on a device is sending in its surroundings. -/
theorem exists_send_eq (h : device.publishers[id]? = some publisher) (behaviour : Behaviour η)
    (message : Message) :
    ∃ net later, Agrees id (device.send behaviour id message) (publisher.send message net later) := by
  simp only [send, h, Publisher.send]
  cases publisher.outlet with
  | error error => exact ⟨device.net, [], agrees_still h error⟩
  | ok socket =>
      cases hframe : Frame.encode message.encode with
      | error fault => exact ⟨device.net, [], agrees_loseConnection h fault []⟩
      | ok frame =>
          obtain ⟨net, later, last, part, hwritten, hpublishers, hlast⟩ :=
            device.exists_writeAll_eq behaviour socket frame (Frame.size_pos_of_encode hframe)
          refine ⟨net, later, ?_⟩
          dsimp only
          rw [hwritten, write]
          generalize device.writeFrom behaviour socket frame 0 = result at hpublishers hlast
          obtain ⟨written, after⟩ := result
          have hafter : after.publishers[id]? = some publisher := hpublishers ▸ h
          cases written with
          | complete => exact ⟨rfl, hafter, fun _ => hlast fun h => Written.noConfusion h⟩
          | failed fault =>
              obtain rfl : after.net = last := hlast fun h => Written.noConfusion h
              exact agrees_loseConnection hafter fault part
          | stuck => exact ⟨rfl, hafter, fun hreturns => absurd rfl hreturns⟩

/-- Publishing to an address sends the message that is made for it, if there is one. -/
theorem publishTo_of_error (h : device.publishers[id]? = some publisher) {payload : ByteArray}
    {address : Publisher.Address} {error : BusError}
    (hmessage : publisher.messageTo payload address = .error error) :
    device.publishTo behaviour id payload address = (.failed error, device) := by
  cases address with
  | topic head method =>
      rw [publishTo, publish, show Publisher.message head method payload = .error error from hmessage]
  | registered index =>
      rw [publishTo, publishRegistered, h]
      dsimp only
      rw [show publisher.registeredMessage index payload = .error error from hmessage]

theorem publishTo_of_ok (h : device.publishers[id]? = some publisher) {payload : ByteArray}
    {address : Publisher.Address} {message : Message}
    (hmessage : publisher.messageTo payload address = .ok message) :
    device.publishTo behaviour id payload address = device.send behaviour id message := by
  cases address with
  | topic head method =>
      rw [publishTo, publish, show Publisher.message head method payload = .ok message from hmessage]
  | registered index =>
      rw [publishTo, publishRegistered, h]
      dsimp only
      rw [show publisher.registeredMessage index payload = .ok message from hmessage]

/-- Publishing on a device is publishing in its surroundings. -/
theorem exists_publish_eq (h : device.publishers[id]? = some publisher) (behaviour : Behaviour η)
    (address : Publisher.Address) (payload : ByteArray) :
    ∃ net later,
      Agrees id (device.publishTo behaviour id payload address) (publisher.publish address payload net later) := by
  simp only [Publisher.publish]
  cases hmessage : publisher.messageTo payload address with
  | error error =>
      rw [publishTo_of_error h hmessage]
      exact ⟨device.net, [], agrees_still h error⟩
  | ok message =>
      rw [publishTo_of_ok h hmessage]
      exact exists_send_eq h behaviour message

end Device

end DeviceBus
