import DeviceBus.Proofs.Device.Endpoints

/-!
# The account of a session

What holds at every moment of a session, whatever the order of events.  No two endpoints hold the same
socket, so that what one of them does at its connection leaves the others alone.

* `Session.Line`: what has arrived from a publisher is the frames of what it has published on its
  connection, and the part that is written of the frame that it is sending.
* `Session.Account`: the books of the proxy, the line of every publisher, and what every subscriber finds.
* `Session.Account.of_evolves`: what happens at one socket keeps the account of everybody else.
* `Session.account_perform`, `Session.account_dropSubscriber`, `Session.account_receive`: what a subscriber does
  keeps it.
-/

namespace DeviceBus

open Exchange (Books Evolves Undisturbed Used)
open Network (peerOf)

/-- Whoever may hold a socket. -/
inductive Owner where
  | publisher (id : PublisherId)
  | subscriber (id : SubscriberId)

/-- Whether an endpoint of a device holds a socket. -/
def Device.Holds {η : Type} (device : Device η) : Owner → SocketId → Prop
  | .publisher id, socket =>
      ∃ publisher, device.publishers[id]? = some publisher ∧ publisher.writer = some socket
  | .subscriber id, socket =>
      ∃ subscriber, device.subscribers[id]? = some subscriber ∧ subscriber.Holds socket

/-- The bytes that are written of the frame that a publisher is sending. -/
def Outgoing.part : Option Outgoing → List UInt8
  | none => []
  | some outgoing => (bytesOf outgoing.frame).take outgoing.written

/-- The frames of some messages. -/
def Message.frames (messages : List Message) : List UInt8 :=
  messages.flatMap fun message => Frame.bytes message.encode

/-- What a subscriber finds: its connection as long as it is owned, and a loop that is told to stop after
it was given up. -/
structure Subscriber.InOrder {η : Type} (net : Network) (arrived : SocketId → List UInt8)
    (subscriber : Subscriber η) : Prop where
  owned : subscriber.isDropped = false → subscriber.Attached net arrived
  dropped : subscriber.isDropped = true →
    ∀ loop, subscriber.receive = some loop → loop.isCancelled = true

/-- A subscriber whose loop has gone a step on is in order. -/
theorem Subscriber.InOrder.advance {η : Type} {net : Network} {arrived : SocketId → List UInt8}
    {subscriber : Subscriber η} {loop : ReceiveLoop η} {behaviour : Behaviour η} {stopped : Bool}
    {next : ReceiveLoop.Step η} (h : subscriber.InOrder net arrived)
    (hloop : subscriber.receive = some loop) (hkept : loop.KeptBy net next)
    (hnext : loop.step subscriber.subscription behaviour stopped net = some next) :
    Subscriber.InOrder next.net arrived
      { subscriber with receive := some next.loop, subscription := next.subscription } where
  owned howned := by
    have hattached := h.owned howned
    obtain ⟨hlink, hreads⟩ := hattached.receive loop hloop
    have hreader := hattached.coherent.reader_of_receive hloop
    exact {
      coherent := hattached.coherent.congr rfl rfl rfl (by rw [hloop]; rfl)
      link := by
        intro socket hsocket
        cases hlink.symm.trans hsocket
        exact hkept.writeHeld (hattached.link _ hlink)
      reader := by
        intro stream hstream
        rw [hreader] at hstream
        cases hstream
      receive := by
        intro other hother
        cases hother
        rw [hkept.socket]
        refine ⟨hlink, fun hkeeps => ?_⟩
        have hgoing := ReceiveLoop.ended_of_step hnext
        obtain ⟨bodies, hbodies⟩ := hreads (ReceiveLoop.keepsReader_of_going hgoing)
        exact (ReceiveLoop.advanced_step hbodies hnext).reads hbodies hkeeps }
  dropped hdropped other hother := by
    cases hother
    rw [hkept.isCancelled]
    exact h.dropped hdropped loop hloop

namespace Session

variable {η : Type}

/-- The line from a publisher to the proxy. -/
structure Line (exchange : Exchange) (sentOn : SocketId → List Message) (sending : Option Outgoing)
    (publisher : Publisher) : Prop where
  registered : publisher.Registered
  held : ∀ socket, publisher.writer = some socket → (exchange.net.socket socket).writeHeld = true
  front : ∀ socket, publisher.writer = some socket → peerOf socket ∈ exchange.frontRoster
  arrived : ∀ socket, publisher.writer = some socket →
    exchange.journal.arrived (peerOf socket) = Message.frames (sentOn socket) ++ Outgoing.part sending
  sending : ∀ outgoing, sending = some outgoing → publisher.writer = some outgoing.socket ∧
    outgoing.message.Sendable ∧ Frame.encode outgoing.message.encode = .ok outgoing.frame ∧
    outgoing.written < outgoing.frame.size

/-- What holds at every moment of a session with a proxy that is running. -/
structure Account (session : Session η) (proxy : Proxy) (journal : Journal) : Prop where
  proxies : session.device.proxies = #[proxy]
  books : Books ⟨proxy, session.device.net, journal⟩
  running : proxy.isCancelled = false
  /-- whoever connects as the publishers do gets to the front -/
  destination : ∀ place, session.device.net.destination session.front = .ok place →
    place = some proxy.front
  held : ∀ owner (socket : Nat), session.device.Holds owner socket →
    socket % 2 = 0 ∧ socket < session.device.net.sockets.size
  apart : ∀ owner owner' socket, session.device.Holds owner socket →
    session.device.Holds owner' socket → owner = owner'
  publishers : EachAt session.device.publishers fun id publisher =>
    publisher.url = session.front ∧
      Line ⟨proxy, session.device.net, journal⟩ session.sentOn (session.sending id) publisher
  nobody : ∀ id, session.device.publishers.size ≤ id → session.sending id = none
  subscribers : EachAt session.device.subscribers fun _ subscriber =>
    subscriber.InOrder session.device.net journal.arrived
  /-- what was begun and never completed on a connection holds no frame -/
  lines : ∀ socket : Nat, socket % 2 = 0 → ∃ rest,
    journal.arrived (peerOf socket) = Message.frames (session.sentOn socket) ++ rest ∧
      Frame.complete rest = []
  published : ∀ entry ∈ session.published, entry.2.Sendable ∧
    entry.2.encode.size ≤ Frame.maxLength ∧
    peerOf entry.1 ∈ Exchange.frontRoster ⟨proxy, session.device.net, journal⟩
  /-- subscribers write nothing -/
  silent : ∀ near ∈ Exchange.backRoster ⟨proxy, session.device.net, journal⟩, journal.arrived near = []

/-- An event that somebody does with a subscriber, or its loop. -/
def Event.ActsOn (id : SubscriberId) : Event η → Prop
  | .activity (.receive other) | .subscriber other _ | .dropSubscriber other => @Eq Nat id other
  | _ => False

/-- What an event leaves to the subscribers on which it does not act, and how the pumps at the back go on. -/
structure Moved (session : Session η) (proxy : Proxy) (journal : Journal) (acts : SubscriberId → Prop)
    (session' : Session η) (proxy' : Proxy) (journal' : Journal) : Prop where
  started : ∀ index, index < proxy.subscribers.size → journal'.started index = journal.started index
  pumps : ∀ (index : Nat) (pump : BackPump), proxy.subscribers[index]? = some pump → ∃ pump',
    proxy'.subscribers[index]? = some pump' ∧ pump'.stream.socket = pump.stream.socket ∧
      (pump'.cursor = pump.cursor ∨ pump'.cursor = (proxy.fanout.receive pump.cursor).2)
  others : ∀ id subscriber, ¬ acts id → session.device.subscribers[id]? = some subscriber →
    session'.device.subscribers[id]? = some subscriber ∧ session'.heard id = session.heard id ∧
      ∀ socket, subscriber.Holds socket →
        Undisturbed socket ⟨proxy, session.device.net, journal⟩ ⟨proxy', session'.device.net, journal'⟩
  own : ∀ id, acts id → proxy' = proxy ∧ journal'.arrived = journal.arrived
  silent : (∀ id, session.sending id = none) → (∀ id, journal.arrived id = []) →
    ∀ id, journal'.arrived id = []

/-! ## What the others find -/

section Others

variable {before after : Exchange} {uses writes : SocketId → Prop}

/-- A publisher whose connection nobody else uses keeps its line. -/
theorem Line.of_evolves {sentOn : SocketId → List Message} {sending : Option Outgoing}
    {publisher : Publisher} (h : Line before sentOn sending publisher)
    (hevolves : Evolves uses writes before after)
    (hheld : ∀ socket : Nat, publisher.writer = some socket →
      socket % 2 = 0 ∧ socket < before.net.sockets.size ∧ ¬ uses socket ∧ ¬ writes socket) :
    Line after sentOn sending publisher where
  registered := h.registered
  held socket hwriter := by
    obtain ⟨heven, hin, huses, -⟩ := hheld socket hwriter
    rw [(hevolves.undisturbed socket heven hin huses).writeHeld]
    exact h.held socket hwriter
  front socket hwriter := hevolves.rosters.front (h.front socket hwriter)
  arrived socket hwriter := by
    obtain ⟨heven, hin, -, hwrites⟩ := hheld socket hwriter
    have hparity := Network.peerOf_mod_two socket
    rw [hevolves.sent (peerOf socket) (by omega) (by rw [Network.peerOf_peerOf]; exact hwrites)]
    exact h.arrived socket hwriter
  sending := h.sending

/-- A subscriber whose connection nobody else uses finds it as it was. -/
theorem attached_of_undisturbed {subscriber : Subscriber η}
    (h : subscriber.Attached before.net before.journal.arrived)
    (hundisturbed : ∀ socket, subscriber.Holds socket → Undisturbed socket before after) :
    subscriber.Attached after.net after.journal.arrived where
  coherent := h.coherent
  link socket hlink := by
    rw [(hundisturbed socket (.inl hlink)).writeHeld]
    exact h.link socket hlink
  reader stream hstream := by
    obtain ⟨hlink, bodies, hreads⟩ := h.reader stream hstream
    have hsame := hundisturbed _ (.inr (.inl ⟨stream, hstream, rfl⟩))
    exact ⟨hlink, bodies, hsame.reads stream bodies rfl hreads⟩
  receive loop hloop := by
    obtain ⟨hlink, hkeeps⟩ := h.receive loop hloop
    have hsame := hundisturbed _ (.inr (.inr ⟨loop, hloop, rfl⟩))
    refine ⟨hlink, fun hkept => ?_⟩
    obtain ⟨bodies, hreads⟩ := hkeeps hkept
    exact ⟨bodies, hsame.reads loop.stream bodies rfl hreads⟩

theorem inOrder_of_undisturbed {subscriber : Subscriber η}
    (h : subscriber.InOrder before.net before.journal.arrived)
    (hundisturbed : ∀ socket, subscriber.Holds socket → Undisturbed socket before after) :
    subscriber.InOrder after.net after.journal.arrived where
  owned howned := attached_of_undisturbed (h.owned howned) hundisturbed
  dropped := h.dropped

end Others

/-! ## What an event comes to for the whole session -/

section Whole

variable {session session' : Session η} {proxy proxy' : Proxy} {journal journal' : Journal}

theorem sentOn_of_published (h : session'.published = session.published) :
    session'.sentOn = session.sentOn := by
  funext socket
  rw [sentOn, sentOn, h]

namespace Account

/-- Sockets stay apart when nobody comes to hold any but the actor, and that one a new one. -/
theorem owned_of_holds (h : Account session proxy journal) (session' : Session η) (actor : Owner)
    (hsize : session.device.net.sockets.size ≤ session'.device.net.sockets.size)
    (hholds : ∀ owner socket, session'.device.Holds owner socket →
      session.device.Holds owner socket ∨
        owner = actor ∧ @Eq Nat socket session.device.net.sockets.size ∧
          session.device.net.sockets.size < session'.device.net.sockets.size) :
    (∀ owner (socket : Nat), session'.device.Holds owner socket →
      socket % 2 = 0 ∧ socket < session'.device.net.sockets.size) ∧
    ∀ owner owner' socket, session'.device.Holds owner socket → session'.device.Holds owner' socket →
      owner = owner' := by
  -- sockets come in pairs, so a new far end has an even number
  have hpaired : session.device.net.sockets.size % 2 = 0 := h.books.roster.honest.paired
  constructor
  · intro owner socket hholder
    rcases hholds owner socket hholder with hold | ⟨-, rfl, hnew⟩
    · obtain ⟨heven, hin⟩ := h.held owner socket hold
      exact ⟨heven, Nat.lt_of_lt_of_le hin hsize⟩
    · exact ⟨hpaired, hnew⟩
  · intro owner owner' socket hholder hholder'
    rcases hholds owner socket hholder with hold | ⟨hactor, hsocket, -⟩
    · rcases hholds owner' socket hholder' with hold' | ⟨-, hsocket', -⟩
      · exact h.apart owner owner' socket hold hold'
      · have hin := (h.held owner socket hold).2
        omega
    · rcases hholds owner' socket hholder' with hold' | ⟨hactor', -, -⟩
      · have hin := (h.held owner' socket hold').2
        omega
      · exact hactor.trans hactor'.symm

/-- An event keeps all that it does not change by itself. -/
theorem of_evolves (h : Account session proxy journal) {uses writes : SocketId → Prop}
    (hbooks : Books ⟨proxy', session'.device.net, journal'⟩)
    (hevolves : Evolves uses writes ⟨proxy, session.device.net, journal⟩
      ⟨proxy', session'.device.net, journal'⟩)
    (hproxies : session'.device.proxies = #[proxy']) (hfront : session'.front = session.front)
    (hheld : ∀ owner (socket : Nat), session'.device.Holds owner socket →
      socket % 2 = 0 ∧ socket < session'.device.net.sockets.size)
    (hapart : ∀ owner owner' socket, session'.device.Holds owner socket →
      session'.device.Holds owner' socket → owner = owner')
    (hpublishers : EachAt session'.device.publishers fun id publisher =>
      publisher.url = session'.front ∧
        Line ⟨proxy', session'.device.net, journal'⟩ session'.sentOn (session'.sending id) publisher)
    (hnobody : ∀ id, session'.device.publishers.size ≤ id → session'.sending id = none)
    (hsubscribers : EachAt session'.device.subscribers fun _ subscriber =>
      subscriber.InOrder session'.device.net journal'.arrived)
    (hlines : ∀ socket : Nat, socket % 2 = 0 → ∃ rest,
      journal'.arrived (peerOf socket) = Message.frames (session'.sentOn socket) ++ rest ∧
        Frame.complete rest = [])
    (hpublished : ∀ entry ∈ session'.published, entry ∈ session.published ∨
      entry.2.Sendable ∧ entry.2.encode.size ≤ Frame.maxLength ∧
        peerOf entry.1 ∈ Exchange.frontRoster ⟨proxy, session.device.net, journal⟩)
    (hfar : ∀ far : Nat, writes far →
      peerOf far ∈ Exchange.frontRoster ⟨proxy, session.device.net, journal⟩) :
    Account session' proxy' journal' where
  proxies := hproxies
  books := hbooks
  running := hevolves.cancelled.trans h.running
  destination := by
    intro place hplace
    have hsame := hevolves.destination session.front
    dsimp only at hsame
    rw [hfront, hsame] at hplace
    have hfrontId : proxy'.front = proxy.front := hevolves.frontId
    rw [hfrontId]
    exact h.destination place hplace
  held := hheld
  apart := hapart
  publishers := hpublishers
  nobody := hnobody
  subscribers := hsubscribers
  lines := hlines
  published := by
    intro entry hentry
    have hold : entry.2.Sendable ∧ entry.2.encode.size ≤ Frame.maxLength ∧
        peerOf entry.1 ∈ Exchange.frontRoster ⟨proxy, session.device.net, journal⟩ :=
      (hpublished entry hentry).elim (h.published entry) id
    exact ⟨hold.1, hold.2.1, hevolves.rosters.front hold.2.2⟩
  silent := by
    intro near hnear
    have hodd := (hbooks.near_of_back hnear).1
    -- nobody writes to the back, for what is written goes to the front
    have hquiet : ¬ writes (peerOf near) := fun hwrites => by
      have hfront := hfar (peerOf near) hwrites
      rw [Network.peerOf_peerOf] at hfront
      exact hbooks.front_ne_back (hevolves.rosters.front hfront) hnear rfl
    have hsame := hevolves.sent near hodd hquiet
    dsimp only at hsame
    rw [hsame]
    rcases hevolves.rosters.back near hnear with hold | hnew
    · exact h.silent near hold
    · exact h.books.fresh near hnew

/-- A line to which nobody writes stays as it is, so only the others have to be looked at. -/
theorem lines_of_evolves (h : Account session proxy journal) {uses writes : SocketId → Prop}
    (hevolves : Evolves uses writes ⟨proxy, session.device.net, journal⟩
      ⟨proxy', session'.device.net, journal'⟩)
    (hsent : ∀ socket, ¬ writes socket → session'.sentOn socket = session.sentOn socket)
    (hwritten : ∀ socket, writes socket → ∃ rest,
      journal'.arrived (peerOf socket) = Message.frames (session'.sentOn socket) ++ rest ∧
        Frame.complete rest = []) :
    ∀ socket : Nat, socket % 2 = 0 → ∃ rest,
      journal'.arrived (peerOf socket) = Message.frames (session'.sentOn socket) ++ rest ∧
        Frame.complete rest = [] := by
  intro socket heven
  by_cases hwrites : writes socket
  · exact hwritten socket hwrites
  · obtain ⟨rest, harrived, hnone⟩ := h.lines socket heven
    have hparity := Network.peerOf_mod_two socket
    have hsame := hevolves.sent (peerOf socket) (by omega)
      (by rw [Network.peerOf_peerOf]; exact hwrites)
    dsimp only at hsame
    rw [hsame, hsent socket hwrites]
    exact ⟨rest, harrived, hnone⟩

/-- An event in which nobody writes at a far end keeps the lines. -/
theorem lines_of_quiet (h : Account session proxy journal) {uses : SocketId → Prop}
    (hevolves : Evolves uses (fun _ => False) ⟨proxy, session.device.net, journal⟩
      ⟨proxy', session'.device.net, journal'⟩)
    (hpublished : session'.published = session.published) :
    ∀ socket : Nat, socket % 2 = 0 → ∃ rest,
      journal'.arrived (peerOf socket) = Message.frames (session'.sentOn socket) ++ rest ∧
        Frame.complete rest = [] :=
  h.lines_of_evolves hevolves (fun socket _ => by rw [sentOn_of_published hpublished])
    fun _ => False.elim

end Account

/-- A holder's connection is not used by what another one holds, nor by what is new. -/
theorem Account.not_uses (h : Account session proxy journal) {actor owner : Owner} {socket : Nat}
    (hholds : session.device.Holds owner socket) (hne : owner ≠ actor) :
    ¬ (session.device.Holds actor socket ∨ session.device.net.sockets.size ≤ socket) := by
  rintro (hactor | hnew)
  · exact hne (h.apart owner actor socket hholds hactor)
  · exact absurd (h.held owner socket hholds).2 (Nat.not_lt_of_le hnew)

/-! ### Subscribers -/

/-- A session after somebody has done something with a subscriber. -/
def setSubscriber (session : Session η) (id : SubscriberId) (subscriber : Subscriber η) (net : Network)
    (calls : Array (SubscriberId × Call η)) : Session η :=
  { session with
    device :=
      { session.device with
        net
        subscribers := session.device.subscribers.setIfInBounds id subscriber
        calls } }

theorem holds_setSubscriber {id : SubscriberId} {subscriber : Subscriber η} {net : Network}
    {calls : Array (SubscriberId × Call η)} {owner : Owner} {socket : SocketId}
    (h : (session.setSubscriber id subscriber net calls).device.Holds owner socket) :
    owner = .subscriber id ∧ subscriber.Holds socket ∨ session.device.Holds owner socket := by
  cases owner with
  | publisher other => exact .inr h
  | subscriber other =>
      obtain ⟨found, hfound, hholds⟩ := h
      by_cases hsame : id = other
      · subst hsame
        simp only [setSubscriber, Array.getElem?_setIfInBounds] at hfound
        split at hfound
        · split at hfound
          · cases hfound
            exact .inl ⟨rfl, hholds⟩
          · cases hfound
        · rename_i hne
          exact absurd trivial hne
      · simp only [setSubscriber, Array.getElem?_setIfInBounds_ne hsame] at hfound
        exact .inr ⟨found, hfound, hholds⟩

/-- The calls of a session after a loop has gone a step on, in which it may have called a handler. -/
def callsWith (session : Session η) (id : SubscriberId) : Option (Call η) → Array (SubscriberId × Call η)
  | some call => session.device.calls.push (id, call)
  | none => session.device.calls

/-! The events of a subscriber, put in this way. -/

section Events

variable {id : SubscriberId} {subscriber : Subscriber η} (behaviour : Behaviour η)

theorem step_perform (operation : Subscriber.Operation η)
    (hsubscriber : session.device.subscribers[id]? = some subscriber)
    (howned : subscriber.isDropped = false) :
    session.step behaviour (.subscriber id operation) = session.setSubscriber id
      (subscriber.perform (session.device.isStopped subscriber) session.device.net operation).2.1
      (subscriber.perform (session.device.isStopped subscriber) session.device.net operation).2.2
      session.device.calls := by
  simp [step, hsubscriber, howned, Device.withSubscriber, setSubscriber]

theorem step_dropSubscriber (hsubscriber : session.device.subscribers[id]? = some subscriber)
    (howned : subscriber.isDropped = false) :
    session.step behaviour (.dropSubscriber id) = session.setSubscriber id
      (subscriber.drop session.device.net).1 (subscriber.drop session.device.net).2
      session.device.calls := by
  simp [step, hsubscriber, howned, Device.dropSubscriber, Device.withSubscriber, setSubscriber]

variable {behaviour} in
theorem step_receive {loop : ReceiveLoop η} {next : ReceiveLoop.Step η}
    (hsubscriber : session.device.subscribers[id]? = some subscriber)
    (hloop : subscriber.receive = some loop)
    (hnext : loop.step subscriber.subscription behaviour (session.device.isStopped subscriber)
      session.device.net = some next) :
    session.step behaviour (.activity (.receive id)) = session.setSubscriber id
      { subscriber with receive := some next.loop, subscription := next.subscription } next.net
      (session.callsWith id next.call) := by
  simp [step, Device.perform, Device.performReceive, hsubscriber, hloop, hnext, setSubscriber]
  cases next.call <;> rfl

end Events

/-- Whatever is done with a subscriber keeps the account, as long as the subscriber uses no sockets but its
own and finds itself in order afterwards. -/
theorem account_of_subscriber (h : Account session proxy journal) {id : SubscriberId}
    {subscriber subscriber' : Subscriber η} {net : Network} {calls : Array (SubscriberId × Call η)}
    (hsubscriber : session.device.subscribers[id]? = some subscriber)
    (hused : Used subscriber.Holds session.device.net net)
    (hholds : ∀ socket, subscriber'.Holds socket → subscriber.Holds socket ∨
      @Eq Nat socket session.device.net.sockets.size ∧
        session.device.net.sockets.size < net.sockets.size)
    (hinOrder : subscriber'.InOrder net journal.arrived)
    (hcalls : ∀ other, other ≠ id →
      (session.setSubscriber id subscriber' net calls).heard other = session.heard other) :
    ∃ journal', Account (session.setSubscriber id subscriber' net calls) proxy journal' ∧
      Moved session proxy journal (fun other => @Eq Nat other id)
        (session.setSubscriber id subscriber' net calls) proxy journal' := by
  obtain ⟨journal', hbooks, hevolves, harrived⟩ := Exchange.evolves_of_used h.books hused
  have hactor : ∀ socket, subscriber.Holds socket → session.device.Holds (.subscriber id) socket :=
    fun socket hholder => ⟨subscriber, hsubscriber, hholder⟩
  -- nobody else holds a socket of this subscriber
  have hunused : ∀ owner (socket : Nat), owner ≠ .subscriber id → session.device.Holds owner socket →
      socket % 2 = 0 ∧ socket < session.device.net.sockets.size ∧ ¬ subscriber.Holds socket := by
    intro owner socket hne hholder
    obtain ⟨heven, hin⟩ := h.held owner socket hholder
    exact ⟨heven, hin, fun hown => hne (h.apart owner _ socket hholder (hactor socket hown))⟩
  have hothers : ∀ other found, other ≠ id → session.device.subscribers[other]? = some found →
      ∀ socket, found.Holds socket → Undisturbed socket ⟨proxy, session.device.net, journal⟩
        ⟨proxy, net, journal'⟩ := by
    intro other found hne hfound socket hholder
    obtain ⟨heven, hin, huses⟩ := hunused (.subscriber other) socket
      (fun heq => hne (Owner.subscriber.inj heq)) ⟨found, hfound, hholder⟩
    exact hevolves.undisturbed socket heven hin huses
  obtain ⟨hheld, hapart⟩ := h.owned_of_holds (session.setSubscriber id subscriber' net calls)
    (.subscriber id) hevolves.size (fun owner socket hholder => by
      rcases holds_setSubscriber hholder with ⟨hactor', hown⟩ | hold
      · rcases hholds socket hown with hold | hnew
        · rw [hactor']
          exact .inl (hactor socket hold)
        · exact .inr ⟨hactor', hnew⟩
      · exact .inl hold)
  refine ⟨journal', h.of_evolves hbooks hevolves h.proxies rfl hheld hapart ?_ h.nobody ?_
    (h.lines_of_quiet hevolves rfl) (fun _ => .inl) (fun _ => False.elim), ?_⟩
  · refine h.publishers.imp fun other publisher hpublisher hline => ⟨hline.1, ?_⟩
    refine hline.2.of_evolves hevolves fun socket hwriter => ?_
    obtain ⟨heven, hin, huses⟩ := hunused (.publisher other) socket Owner.noConfusion
      ⟨publisher, hpublisher, hwriter⟩
    exact ⟨heven, hin, huses, fun h => h⟩
  · refine h.subscribers.set ?_ fun other found hne hfound hinOrder' => ?_
    · rw [harrived]
      exact hinOrder
    · exact inOrder_of_undisturbed hinOrder' (hothers other found hne hfound)
  · exact {
      started := hevolves.started
      pumps := fun index pump hpump => ⟨pump, hpump, rfl, .inl rfl⟩
      others := fun other found hne hfound =>
        ⟨by simpa only [setSubscriber, Array.getElem?_setIfInBounds_ne (Ne.symm hne)] using hfound,
          hcalls other hne, hothers other found hne hfound⟩
      own := fun other hown => ⟨rfl, harrived⟩
      silent := fun _ => hevolves.silent fun _ h => h }

theorem Moved.refl (session : Session η) (proxy : Proxy) (journal : Journal)
    (acts : SubscriberId → Prop) : Moved session proxy journal acts session proxy journal where
  started _ _ := rfl
  pumps _ pump hpump := ⟨pump, hpump, rfl, .inl rfl⟩
  others _ _ _ hfound := ⟨hfound, rfl, fun _ _ => ⟨rfl, fun _ _ _ h => h⟩⟩
  own _ _ := ⟨rfl, rfl⟩
  silent _ h := h

/-- An event that comes to nothing keeps the account. -/
theorem account_of_unchanged (h : Account session proxy journal) {acts : SubscriberId → Prop}
    (hsame : session' = session) :
    ∃ journal', Account session' proxy journal' ∧
      Moved session proxy journal acts session' proxy journal' := by
  subst hsame
  exact ⟨journal, h, .refl _ _ _ _⟩

/-- The account after an operation of a subscriber. -/
theorem account_perform (h : Account session proxy journal) (behaviour : Behaviour η)
    (id : SubscriberId) (operation : Subscriber.Operation η) :
    ∃ journal', Account (session.step behaviour (.subscriber id operation)) proxy journal' ∧
      Moved session proxy journal (fun other => @Eq Nat other id)
        (session.step behaviour (.subscriber id operation)) proxy journal' := by
  cases hsubscriber : session.device.subscribers[id]? with
  | none =>
      exact account_of_unchanged h (by simp [step, hsubscriber])
  | some subscriber =>
      cases hdropped : subscriber.isDropped with
      | true =>
          exact account_of_unchanged h (by simp [step, hsubscriber, hdropped])
      | false =>
          have hattached := (h.subscribers id subscriber hsubscriber).owned hdropped
          have hperformed : subscriber.Performed session.device.net _ _ :=
            Subscriber.performed_perform hattached.coherent
              (fun socket hholds => (h.held (.subscriber id) socket ⟨subscriber, hsubscriber, hholds⟩).1)
              (session.device.isStopped subscriber) operation
          have hcoherent := Subscriber.coherent_perform hattached.coherent
            (session.device.isStopped subscriber) session.device.net operation
          have hstill := Subscriber.isDropped_perform subscriber
            (session.device.isStopped subscriber) session.device.net operation
          rw [step_perform behaviour operation hsubscriber hdropped]
          refine account_of_subscriber h hsubscriber hperformed.used (fun _ => hperformed.holds) ?_
            fun _ _ => rfl
          exact {
            owned := fun _ => hperformed.attached hattached hcoherent (h.books.fresh _ (Nat.le_refl _))
            dropped := by
              rw [hstill, hdropped]
              nofun }

/-- The account after a subscriber was given up. -/
theorem account_dropSubscriber (h : Account session proxy journal) (behaviour : Behaviour η)
    (id : SubscriberId) :
    ∃ journal', Account (session.step behaviour (.dropSubscriber id)) proxy journal' ∧
      Moved session proxy journal (fun other => @Eq Nat other id)
        (session.step behaviour (.dropSubscriber id)) proxy journal' := by
  cases hsubscriber : session.device.subscribers[id]? with
  | none =>
      exact account_of_unchanged h (by simp [step, hsubscriber])
  | some subscriber =>
      cases hdropped : subscriber.isDropped with
      | true =>
          exact account_of_unchanged h (by simp [step, hsubscriber, hdropped])
      | false =>
          obtain ⟨hused, hholds⟩ := Subscriber.used_drop session.device.net
            fun socket hholds => (h.held (.subscriber id) socket ⟨subscriber, hsubscriber, hholds⟩).1
          rw [step_dropSubscriber behaviour hsubscriber hdropped]
          refine account_of_subscriber h hsubscriber hused (fun socket hown => .inl (hholds socket hown)) ?_
            fun _ _ => rfl
          exact {
            owned := nofun
            dropped := by
              intro _ loop hloop
              obtain ⟨old, -, rfl⟩ := Option.map_eq_some_iff.1 hloop
              rfl }

/-- The calls of the other subscribers are what they were when a loop has called a handler. -/
theorem heard_callsWith_of_ne {id other : SubscriberId} (hne : other ≠ id) (call : Option (Call η))
    {subscriber : Subscriber η} {net : Network} :
    (session.setSubscriber id subscriber net (session.callsWith id call)).heard other =
      session.heard other := by
  cases call with
  | none => rfl
  | some call => simp [heard, setSubscriber, callsWith, Ne.symm hne]

/-- The account after a step of a receive loop. -/
theorem account_receive (h : Account session proxy journal) (behaviour : Behaviour η)
    (id : SubscriberId) :
    ∃ journal', Account (session.step behaviour (.activity (.receive id))) proxy journal' ∧
      Moved session proxy journal (fun other => @Eq Nat other id)
        (session.step behaviour (.activity (.receive id))) proxy journal' := by
  have hnothing : session.device.performReceive behaviour id = none →
      ∃ journal', Account (session.step behaviour (.activity (.receive id))) proxy journal' ∧
        Moved session proxy journal (fun other => @Eq Nat other id)
          (session.step behaviour (.activity (.receive id))) proxy journal' :=
    fun hnone => account_of_unchanged h (by simp [step, Device.perform, hnone])
  cases hsubscriber : session.device.subscribers[id]? with
  | none => exact hnothing (by simp [Device.performReceive, hsubscriber])
  | some subscriber =>
      have hinOrder := h.subscribers id subscriber hsubscriber
      cases hloop : subscriber.receive with
      | none => exact hnothing (by simp [Device.performReceive, hsubscriber, hloop])
      | some loop =>
          have hholds : subscriber.Holds loop.stream.socket := .inr (.inr ⟨loop, hloop, rfl⟩)
          have heven := (h.held (.subscriber id) _ ⟨subscriber, hsubscriber, hholds⟩).1
          cases hnext : loop.step subscriber.subscription behaviour
              (session.device.isStopped subscriber) session.device.net with
          | none =>
              cases hcollect : subscriber.collectDropped session.device.net with
              | none =>
                  exact hnothing (by simp [Device.performReceive, hsubscriber, hloop, hnext, hcollect])
              | some collected =>
                  obtain ⟨subscriber', net⟩ := collected
                  have hstep : session.step behaviour (.activity (.receive id)) =
                      session.setSubscriber id subscriber' net session.device.calls := by
                    simp [step, Device.perform, Device.performReceive, hsubscriber, hloop, hnext,
                      hcollect, setSubscriber]
                  rw [hstep]
                  simp only [Subscriber.collectDropped, hloop] at hcollect
                  split at hcollect
                  · rename_i hended
                    cases hcollect
                    -- only the loop of a subscriber that was given up is collected by itself
                    have hdropped : subscriber.isDropped = true := (Bool.and_eq_true _ _ ▸ hended).1
                    refine account_of_subscriber h hsubscriber (.dropReader .refl heven hholds) ?_ ?_
                      fun _ _ => rfl
                    · rintro socket (hlink | hreader | ⟨other, hother, -⟩)
                      · exact .inl (.inl hlink)
                      · exact .inl (.inr (.inl hreader))
                      · cases hother
                    · exact {
                        owned := by
                          intro howned
                          rw [hdropped] at howned
                          cases howned
                        dropped := by
                          intro _ other hother
                          cases hother }
                  · cases hcollect
          | some next =>
              have hkept := ReceiveLoop.keptBy_step heven hnext
              rw [step_receive hsubscriber hloop hnext]
              refine account_of_subscriber h hsubscriber
                (hkept.used.mono fun socket hsocket => hsocket ▸ hholds) ?_ ?_
                fun other hne => heard_callsWith_of_ne hne next.call
              · rintro socket (hlink | hreader | ⟨other, hother, hsocket⟩)
                · exact .inl (.inl hlink)
                · exact .inl (.inr (.inl hreader))
                · cases hother
                  exact .inl (.inr (.inr ⟨loop, hloop, hkept.socket.symm.trans hsocket⟩))
              · exact hinOrder.advance hloop hkept hnext

end Whole

end Session

end DeviceBus
