import DeviceBus.Proofs.Device.Session
import DeviceBus.Proofs.Proxy.Surroundings
import DeviceBus.Proofs.Receive
import DeviceBus.Proofs.Topic

/-!
# Endpoints and their connections

An endpoint uses no sockets but those it holds, and it comes to hold a socket only by connecting.

* `Subscriber.Attached`: what a subscriber finds at its connection.
* `Subscriber.Performed`, `Subscriber.performed_perform`: everything that an operation can come to.
* `Subscriber.Advanced`, `Subscriber.advanced_step`: everything that a step of its loop can come to.
* `Publisher.Performed`, `Publisher.performed_perform`: the same for a publisher.
-/

namespace DeviceBus

open Exchange (Used)

/-! ## Subscribers -/

namespace ReceiveLoop

variable {η : Type}

/-- A loop that has not ended, or that was cancelled and gives its reader back. -/
def KeepsReader (loop : ReceiveLoop η) : Prop :=
  loop.ended.getD (.returned .canceled) = .returned .canceled

theorem keepsReader_of_going {loop : ReceiveLoop η} (h : loop.ended = none) : loop.KeepsReader := by
  rw [KeepsReader, h]
  rfl

/-- Everything that a step of a loop can come to whose stream has read `bodies`. -/
inductive Advanced (loop : ReceiveLoop η) (subscription : Subscription η) (behaviour : Behaviour η)
    (stopped : Bool) (net : Network) (arrived : List UInt8) (bodies : List ByteArray) : Step η → Prop where
  | canceled (cause : (loop.isCancelled || stopped) = true) :
      Advanced loop subscription behaviour stopped net arrived bodies
        ⟨loop.finish .canceled, subscription, none, net⟩
  | hungry {stream : Stream} {net' : Network} (reads : stream.Reads net' arrived bodies) :
      Advanced loop subscription behaviour stopped net arrived bodies
        ⟨{ loop with stream }, subscription, none, net'⟩
  | frame {stream : Stream} {body : ByteArray} (reads : stream.Reads net arrived (bodies ++ [body]))
      (fits : body.size ≤ Frame.maxLength) :
      Advanced loop subscription behaviour stopped net arrived bodies
        (loop.react subscription behaviour stream net (.frame body))
  /-- only a malformed frame or the other end can end the stream -/
  | ends {loop' : ReceiveLoop η} {net' : Network} (lost : ¬ loop'.KeepsReader)
      (cause : Frame.Malformed (loop.stream.unread net) ∨ (net.socket loop.stream.socket).broken = true ∨
        (net.socket loop.stream.socket).finished = true) :
      Advanced loop subscription behaviour stopped net arrived bodies ⟨loop', subscription, none, net'⟩

theorem advanced_step {loop : ReceiveLoop η} {subscription : Subscription η} {behaviour : Behaviour η}
    {stopped : Bool} {net : Network} {arrived : List UInt8} {bodies : List ByteArray} {next : Step η}
    (hreads : loop.stream.Reads net arrived bodies)
    (hstep : loop.step subscription behaviour stopped net = some next) :
    Advanced loop subscription behaviour stopped net arrived bodies next := by
  obtain ⟨-, ⟨hcause, rfl⟩ | ⟨-, yield, stream, after, hread, rfl⟩⟩ := step_cases hstep
  · exact .canceled hcause
  · have hstepped := Stream.stepped_step hreads.live
    rw [hread] at hstepped
    cases hstepped with
    | hungry live socket same recedes => exact .hungry (hreads.of_hungry live same)
    | frame live socket fits split => exact .frame (hreads.of_frame live split) fits
    | ends yields isOver socket recedes noFrame cause =>
        rcases yields with rfl | ⟨fault, rfl⟩
        · exact .ends nofun cause
        · exact .ends nofun cause

/-- Only a loop that has not ended has anything to do. -/
theorem ended_of_step {loop : ReceiveLoop η} {subscription : Subscription η} {behaviour : Behaviour η}
    {stopped : Bool} {net : Network} {next : Step η}
    (hstep : loop.step subscription behaviour stopped net = some next) : loop.ended = none :=
  (step_cases hstep).1

/-- What a step of a loop leaves as it is: it uses no socket but its own, and not the half for writing. -/
structure KeptBy (loop : ReceiveLoop η) (net : Network) (next : Step η) : Prop where
  used : Used (fun socket => loop.stream.socket = socket) net next.net
  socket : next.loop.stream.socket = loop.stream.socket
  isCancelled : next.loop.isCancelled = loop.isCancelled
  target : next.loop.target = loop.target
  writeHeld : (net.socket loop.stream.socket).writeHeld = true →
    (next.net.socket loop.stream.socket).writeHeld = true

theorem keptBy_step {loop : ReceiveLoop η} {subscription : Subscription η} {behaviour : Behaviour η}
    {stopped : Bool} {net : Network} {next : Step η}
    (heven : @HMod.hMod Nat Nat Nat _ loop.stream.socket 2 = 0)
    (hstep : loop.step subscription behaviour stopped net = some next) : KeptBy loop net next := by
  obtain ⟨-, ⟨-, rfl⟩ | ⟨-, yield, stream, after, hread, rfl⟩⟩ := step_cases hstep
  · exact ⟨.refl, rfl, rfl, rfl, fun h => h⟩
  · obtain ⟨hsocket, hafter⟩ := Stream.step_network hread
    -- a stream takes bytes from its own socket, and does nothing else
    have hused : Used (fun socket => loop.stream.socket = socket) net after := by
      rcases hafter with rfl | rfl
      · exact .refl
      · exact .take .refl heven rfl
    have hheld : (net.socket loop.stream.socket).writeHeld = true →
        (after.socket loop.stream.socket).writeHeld = true := by
      intro hheld
      rcases hafter with rfl | rfl
      · exact hheld
      · rw [(Network.held_take _ _).2]
        exact hheld
    cases yield with
    | hungry => exact ⟨hused, hsocket, rfl, rfl, hheld⟩
    | finished => exact ⟨hused, hsocket, rfl, rfl, hheld⟩
    | failed fault => exact ⟨hused, hsocket, rfl, rfl, hheld⟩
    | frame body =>
        simp only [react]
        split
        · exact {
            -- a handler that crashes takes the reader with it
            used := by
              rw [hsocket]
              exact .dropReader hused heven rfl
            socket := hsocket
            isCancelled := rfl
            target := rfl
            writeHeld := by
              intro hbefore
              dsimp only
              rw [hsocket, Network.socket_dropReader (hheld hbefore)]
              exact hheld hbefore }
        · exact ⟨hused, hsocket, rfl, rfl, hheld⟩

/-- A loop that still has its reader after a step has its book in order. -/
theorem Advanced.reads {loop : ReceiveLoop η} {subscription : Subscription η} {behaviour : Behaviour η}
    {stopped : Bool} {net : Network} {arrived : List UInt8} {bodies : List ByteArray} {next : Step η}
    (h : Advanced loop subscription behaviour stopped net arrived bodies next)
    (hreads : loop.stream.Reads net arrived bodies) (hkeeps : next.loop.KeepsReader) :
    ∃ bodies, next.loop.stream.Reads next.net arrived bodies := by
  cases h with
  | canceled => exact ⟨bodies, hreads⟩
  | hungry reads => exact ⟨bodies, reads⟩
  | @frame _ body reads =>
      cases hcrash : (subscription.deliver behaviour loop.target body).crash with
      | none =>
          refine ⟨bodies ++ [body], ?_⟩
          simp only [react, hcrash, Option.isSome_none, Bool.false_eq_true, if_false]
          exact reads
      | some reason => simp [react, KeepsReader, hcrash] at hkeeps
  | ends lost => exact absurd hkeeps lost

end ReceiveLoop

namespace Subscriber

variable {η : Type}

/-- The sockets that a subscriber holds: that of its link, that of its reader, or that of its loop. -/
def Holds (subscriber : Subscriber η) (socket : SocketId) : Prop :=
  subscriber.link = some socket ∨
    (∃ stream, subscriber.reader = some stream ∧ stream.socket = socket) ∨
    ∃ loop, subscriber.receive = some loop ∧ loop.stream.socket = socket

/-- What a subscriber finds at its connection: it holds one socket, whose half for writing is its link, and
the book of whatever reads there is in order. -/
structure Attached (net : Network) (arrived : SocketId → List UInt8) (subscriber : Subscriber η) :
    Prop where
  coherent : subscriber.Coherent
  link : ∀ socket, subscriber.link = some socket → (net.socket socket).writeHeld = true
  reader : ∀ stream, subscriber.reader = some stream → subscriber.link = some stream.socket ∧
    ∃ bodies, stream.Reads net (arrived stream.socket) bodies
  receive : ∀ loop, subscriber.receive = some loop → subscriber.link = some loop.stream.socket ∧
    (loop.KeepsReader → ∃ bodies, loop.stream.Reads net (arrived loop.stream.socket) bodies)

/-- The parts of a subscriber change places: its reader goes to its loop or comes back from there. -/
structure Rearranged (before after : Subscriber η) : Prop where
  link : after.link = before.link
  reader : ∀ stream, after.reader = some stream → before.reader = some stream ∨
    ∃ loop, before.receive = some loop ∧ loop.KeepsReader ∧ loop.stream = stream
  receive : ∀ loop, after.receive = some loop → before.receive = some loop ∨
    before.reader = some loop.stream

/-- A subscriber without a connection. -/
structure Detached (subscriber : Subscriber η) : Prop where
  link : subscriber.link = none
  reader : subscriber.reader = none
  receive : subscriber.receive = none

/-- Everything that stopping a subscriber can come to: it keeps its connection or loses it. -/
inductive Stopped (subscriber : Subscriber η) (net : Network) : Subscriber η → Network → Prop where
  | rearranged {after : Subscriber η} (h : Rearranged subscriber after) : Stopped subscriber net after net
  | detached {after : Subscriber η} {net' : Network} (h : Detached after)
      (used : Used subscriber.Holds net net') : Stopped subscriber net after net'

/-- Everything that an operation on a subscriber can come to. -/
inductive Performed (subscriber : Subscriber η) (net : Network) : Subscriber η → Network → Prop where
  | stopped {after : Subscriber η} {net' : Network} (h : Stopped subscriber net after net') :
      Performed subscriber net after net'
  | dialed {after : Subscriber η} (id : ListenerId) (link : after.link = some net.sockets.size)
      (reader : after.reader = some { socket := net.sockets.size }) (receive : after.receive = none) :
      Performed subscriber net after (net.join id)

theorem Rearranged.of_same {before after : Subscriber η} (hlink : after.link = before.link)
    (hreader : after.reader = before.reader) (hreceive : after.receive = before.receive) :
    Rearranged before after where
  link := hlink
  reader _ hstream := .inl (hreader.symm.trans hstream)
  receive _ hloop := .inl (hreceive.symm.trans hloop)

theorem Rearranged.holds {before after : Subscriber η} (h : Rearranged before after) {socket : SocketId}
    (hholds : after.Holds socket) : before.Holds socket := by
  rcases hholds with hlink | ⟨stream, hstream, hsocket⟩ | ⟨loop, hloop, hsocket⟩
  · exact .inl (h.link.symm.trans hlink)
  · rcases h.reader stream hstream with hold | ⟨loop, hloop, -, rfl⟩
    · exact .inr (.inl ⟨stream, hold, hsocket⟩)
    · exact .inr (.inr ⟨loop, hloop, hsocket⟩)
  · rcases h.receive loop hloop with hold | hstream
    · exact .inr (.inr ⟨loop, hold, hsocket⟩)
    · exact .inr (.inl ⟨loop.stream, hstream, hsocket⟩)

theorem Detached.not_holds {subscriber : Subscriber η} (h : Detached subscriber) (socket : SocketId) :
    ¬ subscriber.Holds socket := by
  rintro (hlink | ⟨stream, hstream, -⟩ | ⟨loop, hloop, -⟩)
  · rw [h.link] at hlink
    cases hlink
  · rw [h.reader] at hstream
    cases hstream
  · rw [h.receive] at hloop
    cases hloop

section Uses

variable {subscriber : Subscriber η} {net net' : Network}

theorem used_dropLink {uses : SocketId → Prop} (hused : Used uses net net')
    (huses : ∀ socket, subscriber.link = some socket → socket % 2 = 0 ∧ uses socket) :
    Used uses net (subscriber.dropLink net').2 := by
  unfold dropLink
  dsimp only
  split
  · rename_i socket hlink
    exact .dropWriter hused (huses socket hlink).1 (huses socket hlink).2
  · exact hused

theorem used_dropReader {uses : SocketId → Prop} (hused : Used uses net net')
    (huses : ∀ stream, subscriber.reader = some stream →
      stream.socket % 2 = 0 ∧ uses stream.socket) : Used uses net (subscriber.dropReader net').2 := by
  unfold dropReader
  dsimp only
  split
  · rename_i stream hstream
    exact .dropReader hused (huses stream hstream).1 (huses stream hstream).2
  · exact hused

theorem used_lose {uses : SocketId → Prop} (hused : Used uses net net')
    (huses : ∀ socket, subscriber.link = some socket → socket % 2 = 0 ∧ uses socket) :
    Used uses net (subscriber.lose net').2 :=
  used_dropLink hused huses

end Uses

/-- What stopping a subscriber comes to. -/
theorem stopped_stop {subscriber : Subscriber η} (net : Network) (hcoherent : subscriber.Coherent)
    (heven : ∀ socket : Nat, subscriber.Holds socket → socket % 2 = 0) :
    Stopped subscriber net (subscriber.stop net).2.1 (subscriber.stop net).2.2 := by
  have hlink : ∀ socket : Nat, subscriber.link = some socket →
      socket % 2 = 0 ∧ subscriber.Holds socket :=
    fun socket hsocket => ⟨heven socket (.inl hsocket), .inl hsocket⟩
  unfold stop
  split
  · exact .rearranged (.of_same rfl rfl rfl)
  · rename_i loop hloop
    have hholds : subscriber.Holds loop.stream.socket := .inr (.inr ⟨loop, hloop, rfl⟩)
    have hnone := hcoherent.reader_of_receive hloop
    dsimp only
    split
    · rename_i hended
      refine .rearranged {
        link := rfl
        reader := fun stream hstream => ?_
        receive := fun other hother => ?_ }
      · cases hstream
        exact .inr ⟨loop, hloop, hended, rfl⟩
      · cases hother
    · refine .detached ⟨rfl, hnone, rfl⟩ (used_lose ?_ hlink)
      exact .dropReader .refl (heven _ hholds) hholds
    · exact .detached ⟨rfl, hnone, rfl⟩ (used_lose .refl hlink)

/-- What closing a subscriber comes to. -/
theorem stopped_close {subscriber : Subscriber η} {net : Network} (hcoherent : subscriber.Coherent)
    (heven : ∀ socket : Nat, subscriber.Holds socket → socket % 2 = 0) :
    Stopped subscriber net (subscriber.close net).2.1 (subscriber.close net).2.2 := by
  unfold close
  split
  · exact .rearranged (.of_same rfl rfl rfl)
  · have hstop := stopped_stop net hcoherent heven
    have hreceive := receive_stop subscriber net
    generalize subscriber.stop net = stopped at hstop hreceive
    obtain ⟨result, after, net'⟩ := stopped
    dsimp only at hstop hreceive
    cases result with
    | error error => exact hstop
    | ok outcome =>
        have hheld : ∀ socket : Nat, after.Holds socket →
            socket % 2 = 0 ∧ subscriber.Holds socket := by
          intro socket hholds
          cases hstop with
          | rearranged h => exact ⟨heven socket (h.holds hholds), h.holds hholds⟩
          | detached h => exact absurd hholds (h.not_holds socket)
        have hused : Used subscriber.Holds net net' := by
          cases hstop with
          | rearranged h => exact .refl
          | detached h hused => exact hused
        refine .detached ⟨rfl, rfl, hreceive⟩ (used_dropLink (used_dropReader hused ?_) ?_)
        · exact fun stream hstream => hheld _ (.inr (.inl ⟨stream, hstream, rfl⟩))
        · exact fun socket hsocket => hheld socket (.inl hsocket)

theorem performed_dial {subscriber : Subscriber η} {net : Network} (hcoherent : subscriber.Coherent) :
    Performed subscriber net (subscriber.dial net).2.1 (subscriber.dial net).2.2 := by
  have hsame : Performed subscriber net subscriber net :=
    .stopped (.rearranged (.of_same rfl rfl rfl))
  unfold dial
  split
  · exact hsame
  · rename_i hopened
    have hne : subscriber.state ≠ .connected := by
      rw [not_not.1 hopened]
      decide
    split
    · exact hsame
    · rename_i far after hconnect
      obtain ⟨id, -, rfl, rfl⟩ := Network.connect_eq_ok hconnect
      exact .dialed id rfl rfl (hcoherent.apart hne).2

theorem performed_arm {subscriber : Subscriber η} (net : Network) (target : Target η) (stopped : Bool) :
    Performed subscriber net (subscriber.arm target stopped).2 net := by
  have hsame : Performed subscriber net subscriber net :=
    .stopped (.rearranged (.of_same rfl rfl rfl))
  unfold arm
  split
  · exact hsame
  · split
    · exact hsame
    · rename_i stream hstream
      refine .stopped (.rearranged { link := rfl, reader := nofun, receive := fun loop hloop => ?_ })
      cases hloop
      exact .inr hstream

/-- Every operation of a subscriber keeps its connection, or loses it, or makes a new one. -/
theorem performed_perform {subscriber : Subscriber η} {net : Network} (hcoherent : subscriber.Coherent)
    (heven : ∀ socket : Nat, subscriber.Holds socket → socket % 2 = 0) (stopped : Bool)
    (operation : Operation η) :
    Performed subscriber net (subscriber.perform stopped net operation).2.1
      (subscriber.perform stopped net operation).2.2 := by
  have hrearranged : ∀ {after : Subscriber η}, after.link = subscriber.link →
      after.reader = subscriber.reader → after.receive = subscriber.receive →
      Performed subscriber net after net :=
    fun hlink hreader hreceive => .stopped (.rearranged (.of_same hlink hreader hreceive))
  cases operation with
  | openUp =>
      simp only [perform, openUp]
      split <;> exact hrearranged rfl rfl rfl
  | dial => exact performed_dial hcoherent
  | addTopic head method handler =>
      simp only [perform, addTopic]
      split <;> exact hrearranged rfl rfl rfl
  | subscribePrefix text => exact hrearranged rfl rfl rfl
  | arm target => exact performed_arm net target stopped
  | stop => exact .stopped (stopped_stop net hcoherent heven)
  | close => exact .stopped (stopped_close hcoherent heven)

theorem Performed.used {subscriber after : Subscriber η} {net net' : Network}
    (h : Performed subscriber net after net') : Used subscriber.Holds net net' := by
  cases h with
  | stopped h =>
      cases h with
      | rearranged h => exact .refl
      | detached h used => exact used
  | dialed id => exact .join .refl id

/-- A subscriber comes to hold no socket but that of a new connection. -/
theorem Performed.holds {subscriber after : Subscriber η} {net net' : Network}
    (h : Performed subscriber net after net') {socket : SocketId} (hholds : after.Holds socket) :
    subscriber.Holds socket ∨
      @Eq Nat socket net.sockets.size ∧ net.sockets.size < net'.sockets.size := by
  cases h with
  | stopped h =>
      cases h with
      | rearranged h => exact .inl (h.holds hholds)
      | detached h => exact absurd hholds (h.not_holds socket)
  | dialed id link reader receive =>
      have hnew : net.sockets.size < (net.join id).sockets.size := by
        rw [Network.size_join]
        omega
      rcases hholds with hlink | ⟨stream, hstream, hsocket⟩ | ⟨loop, hloop, -⟩
      · rw [link] at hlink
        exact .inr ⟨(Option.some.inj hlink).symm, hnew⟩
      · rw [reader] at hstream
        cases hstream
        exact .inr ⟨hsocket.symm, hnew⟩
      · rw [receive] at hloop
        cases hloop

/-- After every operation a subscriber finds its connection in order. -/
theorem Performed.attached {subscriber after : Subscriber η} {net net' : Network}
    {arrived : SocketId → List UInt8} (h : Performed subscriber net after net')
    (hattached : subscriber.Attached net arrived) (hcoherent : after.Coherent)
    (hfresh : arrived net.sockets.size = []) : after.Attached net' arrived := by
  cases h with
  | stopped h =>
      cases h with
      | rearranged h =>
          exact {
            coherent := hcoherent
            link := by
              rw [h.link]
              exact hattached.link
            reader := by
              rw [h.link]
              intro stream hstream
              -- a reader was there before, or comes back from a loop that kept it
              rcases h.reader stream hstream with hold | ⟨loop, hloop, hkeeps, rfl⟩
              · exact hattached.reader stream hold
              · obtain ⟨hlink, hreads⟩ := hattached.receive loop hloop
                exact ⟨hlink, hreads hkeeps⟩
            receive := by
              rw [h.link]
              intro loop hloop
              rcases h.receive loop hloop with hold | hreader
              · exact hattached.receive loop hold
              · obtain ⟨hlink, hreads⟩ := hattached.reader loop.stream hreader
                exact ⟨hlink, fun _ => hreads⟩ }
      | detached h =>
          exact {
            coherent := hcoherent
            link := by
              rw [h.link]
              nofun
            reader := by
              rw [h.reader]
              nofun
            receive := by
              intro loop hloop
              rw [h.receive] at hloop
              cases hloop }
  | dialed id link reader receive =>
      -- nothing has arrived yet at the far end of a new connection
      have hnew := Network.socket_join_far net id
      exact {
        coherent := hcoherent
        link := by
          intro socket hsocket
          rw [link] at hsocket
          cases hsocket
          rw [hnew]
        reader := by
          intro stream hstream
          rw [reader] at hstream
          cases hstream
          refine ⟨link, [], .start ?_⟩
          rw [hnew, hfresh]
          rfl
        receive := by
          intro loop hloop
          rw [receive] at hloop
          cases hloop }

/-- No operation gives a subscriber up. -/
theorem isDropped_perform (subscriber : Subscriber η) (stopped : Bool) (net : Network)
    (operation : Operation η) :
    (subscriber.perform stopped net operation).2.1.isDropped = subscriber.isDropped := by
  have hstop : (subscriber.stop net).2.1.isDropped = subscriber.isDropped := by
    unfold stop
    split
    · rfl
    · split <;> rfl
  cases operation with
  | openUp =>
      simp only [perform, openUp]
      split <;> rfl
  | dial =>
      simp only [perform, dial]
      split
      · rfl
      · split <;> rfl
  | addTopic head method handler =>
      simp only [perform, addTopic]
      split <;> rfl
  | subscribePrefix text => rfl
  | arm target =>
      simp only [perform, arm]
      split
      · rfl
      · split <;> rfl
  | stop => exact hstop
  | close =>
      simp only [perform, close]
      split
      · rfl
      · split
        · rename_i hstopped
          rw [hstopped] at hstop
          exact hstop
        · rename_i hstopped
          rw [hstopped] at hstop
          exact hstop

/-- Giving a subscriber up uses no sockets but its own, and leaves it no more than its loop. -/
theorem used_drop {subscriber : Subscriber η} (net : Network)
    (heven : ∀ socket : Nat, subscriber.Holds socket → socket % 2 = 0) :
    Used subscriber.Holds net (subscriber.drop net).2 ∧
      ∀ socket, (subscriber.drop net).1.Holds socket → subscriber.Holds socket := by
  have hheld : ∀ socket : Nat, subscriber.Holds socket → socket % 2 = 0 ∧ subscriber.Holds socket :=
    fun socket hholds => ⟨heven socket hholds, hholds⟩
  have hreader : Used subscriber.Holds net (subscriber.dropReader net).2 :=
    used_dropReader .refl fun stream hstream => hheld _ (.inr (.inl ⟨stream, hstream, rfl⟩))
  refine ⟨used_dropLink hreader fun socket hsocket => hheld socket (.inl hsocket), ?_⟩
  rintro socket (hlink | ⟨stream, hstream, -⟩ | ⟨loop, hloop, hsocket⟩)
  · cases hlink
  · cases hstream
  · obtain ⟨old, hold, rfl⟩ := Option.map_eq_some_iff.1 hloop
    exact .inr (.inr ⟨old, hold, hsocket⟩)

end Subscriber

/-! ## Publishers -/

/-- A head and a method that may be published make a topic that can be told from its payload. -/
theorem Message.sendable_of_validate {head method : String} (h : Topic.validate head method = .ok ())
    (payload : ByteArray) : (Message.of head method payload).Sendable := by
  obtain ⟨-, ⟨hhead, hmethod⟩, -⟩ :=
    (Topic.fault?_eq_none_iff head method).1 ((Topic.validate_eq_ok_iff head method).1 h)
  show '\x00' ∉ (Topic.compose head method).toList
  rw [Topic.toList_compose, List.mem_append, List.mem_cons]
  rintro (hin | hin | hin)
  · exact hhead hin
  · exact absurd hin (by decide)
  · exact hmethod hin

namespace Publisher

/-- Every registered topic can be told from the payload behind it. -/
def Registered (publisher : Publisher) : Prop :=
  ∀ entry ∈ publisher.registry.entries, ∀ payload, Message.Sendable ⟨entry.topic, payload⟩

/-- Everything that an operation on a publisher can come to. -/
inductive Performed (publisher : Publisher) (net : Network) : Publisher → Network → Prop where
  | kept {after : Publisher} (writer : after.writer = publisher.writer) :
      Performed publisher net after net
  | lost {after : Publisher} {net' : Network} (writer : after.writer = none)
      (used : Used (fun socket => publisher.writer = some socket) net net') :
      Performed publisher net after net'
  | dialed {after : Publisher} (id : ListenerId)
      (destination : net.destination publisher.url = .ok (some id) ∨
        net.destination publisher.url = .ok none)
      (writer : after.writer = some net.sockets.size) :
      Performed publisher net after ((net.join id).dropReader net.sockets.size)

section Operations

variable {publisher : Publisher} {net : Network}

theorem used_lose (heven : ∀ socket : Nat, publisher.writer = some socket → socket % 2 = 0) :
    Used (fun socket => publisher.writer = some socket) net (publisher.lose net).2 := by
  unfold lose
  dsimp only
  split
  · rename_i socket hwriter
    exact .dropWriter .refl (heven socket hwriter) hwriter
  · exact .refl

/-- Every operation of a publisher keeps its connection, or lets it go, or makes a new one. -/
theorem performed_perform (heven : ∀ socket : Nat, publisher.writer = some socket → socket % 2 = 0)
    (operation : Operation) :
    Performed publisher net (publisher.perform net operation).2.1
      (publisher.perform net operation).2.2 := by
  cases operation with
  | openUp =>
      simp only [perform, openUp]
      split <;> exact .kept rfl
  | dial =>
      simp only [perform, dial]
      split
      · exact .kept rfl
      · split
        · exact .kept rfl
        · rename_i far after hconnect
          obtain ⟨id, hplace, rfl, rfl⟩ := Network.connect_eq_ok hconnect
          exact .dialed id (hplace.imp_right And.left) rfl
  | addTopic head method => exact .kept rfl
  | close =>
      simp only [perform, close]
      split
      · exact .kept rfl
      · exact .lost rfl (used_lose heven)

theorem url_perform (publisher : Publisher) (net : Network) (operation : Operation) :
    (publisher.perform net operation).2.1.url = publisher.url := by
  cases operation with
  | openUp =>
      simp only [perform, openUp]
      split <;> rfl
  | dial =>
      simp only [perform, dial]
      split
      · rfl
      · split <;> rfl
  | addTopic head method => rfl
  | close =>
      simp only [perform, close]
      split <;> rfl

theorem registered_perform (h : publisher.Registered) (net : Network) (operation : Operation) :
    (publisher.perform net operation).2.1.Registered := by
  cases operation with
  | openUp =>
      simp only [perform, openUp]
      split <;> exact h
  | dial =>
      simp only [perform, dial]
      split
      · exact h
      · split <;> exact h
  | addTopic head method =>
      simp only [perform, addTopic, Registry.add]
      split
      · exact h
      · rename_i hvalid
        intro entry hentry payload
        rcases List.mem_append.1 hentry with hold | hnew
        · exact h entry hold payload
        · rw [List.mem_singleton.1 hnew]
          exact Message.sendable_of_validate hvalid payload
  | close =>
      simp only [perform, close]
      split <;> exact h

/-- A message of a registered topic can be sent. -/
theorem sendable_of_registeredMessage (h : publisher.Registered) {index : Nat} {payload : ByteArray}
    {message : Message} (hmessage : publisher.registeredMessage index payload = .ok message) :
    message.Sendable := by
  unfold registeredMessage at hmessage
  split at hmessage
  · rename_i entry hentry
    cases hmessage
    exact h entry (List.mem_of_getElem? hentry) payload
  · cases hmessage

end Operations

/-- A message that may be published can be sent. -/
theorem sendable_of_message {head method : String} {payload : ByteArray} {message : Message}
    (h : Publisher.message head method payload = .ok message) : message.Sendable := by
  unfold Publisher.message at h
  cases hvalid : Topic.validate head method with
  | error error =>
      rw [hvalid] at h
      cases h
  | ok =>
      rw [hvalid] at h
      cases h
      exact Message.sendable_of_validate hvalid payload

end Publisher

end DeviceBus
