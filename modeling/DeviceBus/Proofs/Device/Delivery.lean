import DeviceBus.Proofs.Device.Listening

/-!
# End-to-end delivery

From the publishers to a handler a message goes through the connection of its publisher, the log of the
proxy, the connection of a subscriber and the filters of that subscriber.  Each hop is an account of its
own; here they are put together, after any number of events in any order.

* `Session.order`: the published messages in the order in which they were broadcast, each with the
  connection on which it was published.
* `Session.Delivered`: what a subscriber has heard is a prefix of those that its filters accept.
* `Session.DeliveredAll`: it has heard them all.
* `Session.end_to_end_delivery`: the first holds always, and the second once nothing moves.
-/

namespace DeviceBus

open Network (peerOf waitingAt)

namespace BackBook

variable {net : Network} {log : Array ByteArray} {handed : List ByteArray} {arrived : List UInt8}
  {pump : BackPump}

/-- The frames that were handed out for some positions in a row are those of the bodies there. -/
theorem bytes_of_positions {start count : Nat}
    (h : List.Forall₂ (fun position frame =>
      ∃ body, log[position]? = some body ∧ Frame.encode body = .ok frame)
      (List.range' start count) handed) :
    handed.map bytesOf = ((log.toList.drop start).take count).map Frame.bytes := by
  induction count generalizing start handed with
  | zero =>
      cases h
      rfl
  | succ count ih =>
      rw [List.range'_succ] at h
      cases h with
      | @cons _ frame _ rest hfirst hrest =>
          obtain ⟨body, hbody, hframe⟩ := hfirst
          rw [← Array.getElem?_toList] at hbody
          obtain ⟨hinside, hget⟩ := List.getElem?_eq_some_iff.1 hbody
          rw [List.drop_eq_getElem_cons hinside, hget, List.take_succ_cons, List.map_cons, List.map_cons,
            ← ih hrest, ((Frame.encode_eq_ok_iff _ _).1 hframe).2]

/-- A pump that has skipped nothing was handed the frames of all bodies up to its place in the log. -/
theorem bytes_of_unskipped (h : BackBook net log 0 handed arrived pump) (hskipped : pump.cursor.skipped = 0) :
    handed.map bytesOf = (log.toList.take pump.cursor.next).map Frame.bytes := by
  obtain ⟨positions, hsublist, hlength, hframes⟩ := h.handedAt
  have hcount := h.count
  -- as many places as there are in the range: none is left out
  have hall : positions = List.range' 0 (pump.cursor.next - 0) :=
    hsublist.eq_of_length (by rw [List.length_range', hlength]; omega)
  rw [hall, Nat.sub_zero] at hframes
  exact bytes_of_positions hframes

/-- What has arrived from a pump that has skipped nothing are bodies of the log from its beginning, all up to
the place of the pump when it is not writing. -/
theorem complete_of_unskipped (h : BackBook net log 0 handed arrived pump)
    (hrunning : pump.isRunning = true) (hskipped : pump.cursor.skipped = 0)
    (hfits : ∀ body ∈ log.toList, body.size ≤ Frame.maxLength) :
    Frame.complete arrived <+: log.toList ∧
      (pump.sending = none → Frame.complete arrived = log.toList.take pump.cursor.next) := by
  have hbytes := h.bytes_of_unskipped hskipped
  have hwired := h.wired hrunning
  have htaken : ∀ body ∈ log.toList.take pump.cursor.next, body.size ≤ Frame.maxLength :=
    fun body hbody => hfits body (List.mem_of_mem_take hbody)
  generalize htake : log.toList.take pump.cursor.next = taken at hbytes htaken
  have hbegins : taken <+: log.toList := htake ▸ List.take_prefix _ _
  cases hsending : pump.sending with
  | none =>
      rw [hsending] at hwired
      cases hwired with
      | whole harrived =>
          have hcomplete : Frame.complete arrived = taken := by
            rw [harrived, List.flatMap_def, hbytes, ← List.flatMap_def,
              ← List.append_nil (List.flatMap _ _), Frame.complete_append_frames htaken, Frame.complete_nil,
              List.append_nil]
          exact ⟨hcomplete ▸ hbegins, fun _ => hcomplete⟩
  | some outgoing =>
      rw [hsending] at hwired
      cases hwired with
      | @writing before frame written last inside harrived =>
          rw [last, List.map_append] at hbytes
          obtain ⟨first, rest, rfl, hfirst, hrest⟩ := List.append_eq_map_iff.1 hbytes
          cases rest with
          | nil => cases hrest
          -- the last frame is written in part only, and a part of a frame holds no frame
          | cons body rest =>
              have hframe : Frame.bytes body = bytesOf frame := (List.cons.inj hrest).1
              have hbody : body.size ≤ Frame.maxLength :=
                htaken body (List.mem_append_right _ List.mem_cons_self)
              have hpart : Frame.complete ((bytesOf frame).take written) = [] := by
                rw [← hframe]
                refine Frame.complete_take_bytes hbody ?_
                rw [hframe, length_bytesOf]
                exact inside
              have hcomplete : Frame.complete arrived = first := by
                rw [harrived, List.flatMap_def, ← hfirst, ← List.flatMap_def,
                  Frame.complete_append_frames fun other hother =>
                    htaken other (List.mem_append_left _ hother), hpart, List.append_nil]
              refine ⟨hcomplete ▸ (List.prefix_append _ _).trans hbegins, nofun⟩

end BackBook

namespace Session

variable {η : Type}

/-! ## The order of the broadcast -/

/-- The message of a body that was broadcast. -/
def messageOf (body : ByteArray) : Message := (Message.decode body).toOption.getD ⟨"", .empty⟩

/-- The connection of a pump at the front, as its publisher knows it. -/
def sourceOf (proxy : Proxy) (index : Nat) : SocketId :=
  ((proxy.publishers[index]?).map fun pump => peerOf pump.stream.socket).getD 0

/-- The published messages in the order in which they were broadcast, each with the connection on which it
was published. -/
def order (proxy : Proxy) (journal : Journal) : List (SocketId × Message) :=
  journal.broadcasts.map fun entry => (sourceOf proxy entry.1, messageOf entry.2)

theorem messageOf_encode {message : Message} (h : message.Sendable) :
    messageOf message.encode = message := by
  rw [messageOf, Message.decode_encode h]
  rfl

theorem sourceOf_eq {proxy : Proxy} {index : Nat} {pump : FrontPump}
    (hpump : proxy.publishers[index]? = some pump) :
    sourceOf proxy index = peerOf pump.stream.socket := by
  rw [sourceOf, hpump]
  rfl

section Order

variable {session : Session η} {proxy : Proxy} {journal : Journal}

/-- Whatever is published can be sent and fits into a frame. -/
theorem sendable_of_sentOn (h : Account session proxy journal) {socket : SocketId} {message : Message}
    (hmessage : message ∈ session.sentOn socket) :
    message.Sendable ∧ message.encode.size ≤ Frame.maxLength := by
  obtain ⟨entry, hentry, rfl⟩ := List.mem_map.1 hmessage
  obtain ⟨hsendable, hfits, -⟩ := h.published entry (List.mem_of_mem_filter hentry)
  exact ⟨hsendable, hfits⟩

/-- The frames that have arrived at the front are those of what was published. -/
theorem complete_arrived (h : Account session proxy journal) {socket : Nat} (heven : socket % 2 = 0) :
    Frame.complete (journal.arrived (peerOf socket)) = (session.sentOn socket).map Message.encode := by
  obtain ⟨rest, harrived, hnone⟩ := h.lines socket heven
  have hframes : Message.frames (session.sentOn socket) =
      ((session.sentOn socket).map Message.encode).flatMap Frame.bytes := by
    rw [Message.frames, List.flatMap_map]
  rw [harrived, hframes, Frame.complete_append_frames, hnone, List.append_nil]
  intro body hbody
  obtain ⟨message, hmessage, rfl⟩ := List.mem_map.1 hbody
  exact (sendable_of_sentOn h hmessage).2

/-- What a pump at the front has broadcast was published on its connection, in this order. -/
theorem sentBy_begins (h : Account session proxy journal) {index : Nat} {pump : FrontPump}
    (hpump : proxy.publishers[index]? = some pump) :
    Exchange.sentBy journal index <+:
      (session.sentOn (peerOf pump.stream.socket)).map Message.encode := by
  have hsent := (h.books.publishers index pump hpump).sent_begins (h.books.sent_fits index)
  have hcomplete := complete_arrived h (h.books.roster.peerOf_even (Exchange.Roster.mem_of_front hpump))
  rw [Network.peerOf_peerOf] at hcomplete
  rw [← hcomplete]
  exact hsent

/-- Whatever was broadcast was published on the connection from which it came. -/
theorem exists_message (h : Account session proxy journal) {entry : Nat × ByteArray}
    (hentry : entry ∈ journal.broadcasts) :
    ∃ message ∈ session.sentOn (sourceOf proxy entry.1), message.encode = entry.2 := by
  have hinside := h.books.origin entry hentry
  obtain ⟨pump, hpump⟩ : ∃ pump, proxy.publishers[entry.1]? = some pump :=
    ⟨_, Array.getElem?_eq_getElem hinside⟩
  have hsent : entry.2 ∈ Exchange.sentBy journal entry.1 :=
    List.mem_map_of_mem (List.mem_filter.2 ⟨hentry, by simp⟩)
  rw [sourceOf_eq hpump]
  exact List.mem_map.1 ((sentBy_begins h hpump).subset hsent)

/-- The bodies of the order are the log of the proxy. -/
theorem log_eq_order (h : Account session proxy journal) :
    proxy.fanout.log.toList = (order proxy journal).map fun entry => entry.2.encode := by
  have hlog := h.books.log
  dsimp only at hlog
  rw [hlog, order, List.map_map]
  refine List.map_congr_left fun entry hentry => ?_
  obtain ⟨message, hmessage, hencode⟩ := exists_message h hentry
  simp only [Function.comp_apply]
  rw [← hencode, messageOf_encode (sendable_of_sentOn h hmessage).1]

theorem sendable_of_order (h : Account session proxy journal) {entry : SocketId × Message}
    (hentry : entry ∈ order proxy journal) : entry.2.Sendable := by
  obtain ⟨broadcast, hbroadcast, rfl⟩ := List.mem_map.1 hentry
  obtain ⟨message, hmessage, hencode⟩ := exists_message h hbroadcast
  have hsendable := (sendable_of_sentOn h hmessage).1
  rw [← hencode, messageOf_encode hsendable]
  exact hsendable

/-- The part of the order that comes from a connection is what its pump has broadcast. -/
theorem order_of_source (h : Account session proxy journal) {index : Nat} {pump : FrontPump}
    (hpump : proxy.publishers[index]? = some pump) :
    ((order proxy journal).filter (·.1 = peerOf pump.stream.socket)).map Prod.snd =
      (Exchange.sentBy journal index).map messageOf := by
  rw [order, Exchange.sentBy, List.filter_map, List.map_map, List.map_map]
  have hfilter : journal.broadcasts.filter
      ((fun entry => decide (entry.1 = peerOf pump.stream.socket)) ∘
        fun entry => (sourceOf proxy entry.1, messageOf entry.2)) =
      journal.broadcasts.filter fun entry => decide (entry.1 = index) := by
    refine List.filter_congr fun entry hentry => ?_
    obtain ⟨found, hfound⟩ : ∃ found, proxy.publishers[entry.1]? = some found :=
      ⟨_, Array.getElem?_eq_getElem (h.books.origin entry hentry)⟩
    simp only [Function.comp_apply, sourceOf_eq hfound, decide_eq_decide]
    constructor
    · intro hsame
      -- two pumps have two connections
      by_contra hne
      exact h.books.roster.front_ne_front hfound hpump hne (Network.peerOf_injective hsame)
    · rintro rfl
      cases hfound.symm.trans hpump
      rfl
  rw [hfilter]
  rfl

theorem map_messageOf (h : Account session proxy journal) (socket : SocketId) :
    ((session.sentOn socket).map Message.encode).map messageOf = session.sentOn socket := by
  rw [List.map_map]
  conv => rhs; rw [← List.map_id (session.sentOn socket)]
  refine List.map_congr_left fun message hmessage => ?_
  exact messageOf_encode (sendable_of_sentOn h hmessage).1

/-- On every connection the order begins what was published there. -/
theorem order_begins (h : Account session proxy journal) (socket : SocketId) :
    ((order proxy journal).filter (·.1 = socket)).map Prod.snd <+: session.sentOn socket := by
  by_cases hserved : ∃ (index : Nat) (pump : FrontPump), proxy.publishers[index]? = some pump ∧
      peerOf pump.stream.socket = socket
  · obtain ⟨index, pump, hpump, rfl⟩ := hserved
    rw [order_of_source h hpump, ← map_messageOf h]
    exact (sentBy_begins h hpump).map messageOf
  -- without a pump nothing comes from this connection
  · have hnone : (order proxy journal).filter (·.1 = socket) = [] := by
      refine List.filter_eq_nil_iff.2 fun entry hentry hsame => hserved ?_
      obtain ⟨broadcast, hbroadcast, rfl⟩ := List.mem_map.1 hentry
      have hpump := Array.getElem?_eq_getElem (h.books.origin broadcast hbroadcast)
      exact ⟨_, _, hpump, (sourceOf_eq hpump).symm.trans (of_decide_eq_true hsame)⟩
    rw [hnone]
    exact List.nil_prefix

end Order

/-! ## What a subscriber has heard -/

/-- The messages of an order whose bodies begin with one of some filters. -/
def wanted (filters : Filters) (order : List (SocketId × Message)) : List Message :=
  (order.filter fun entry =>
    ∃ filter ∈ filters.accepted, bytesOf filter <+: bytesOf entry.2.encode).map Prod.snd

/-- What a subscriber has heard at any moment: the log of the proxy is an order of published messages, in
which every connection keeps its own order, and the subscriber has heard a prefix of those that it wants. -/
structure Delivered (session : Session η) (id : SubscriberId) (handler : η) (filters : Filters)
    (order : List (SocketId × Message)) : Prop where
  broadcast : ∀ proxy ∈ session.device.proxies[0]?,
    proxy.fanout.log.toList = order.map fun entry => entry.2.encode
  published : ∀ socket, (order.filter (·.1 = socket)).map Prod.snd <+: session.sentOn socket
  heard : session.heard id <+: (wanted filters order).map (Call.mk handler)

/-- What a subscriber has heard when nothing is left to be done: everything that was published was broadcast,
and the subscriber has heard all that it wants. -/
structure DeliveredAll (session : Session η) (id : SubscriberId) (handler : η) (filters : Filters)
    (order : List (SocketId × Message)) : Prop where
  published : ∀ socket, (order.filter (·.1 = socket)).map Prod.snd = session.sentOn socket
  heard : session.heard id = (wanted filters order).map (Call.mk handler)

/-- The calls for the bodies of an order are those for its wanted messages. -/
theorem callsFor_order (filters : Filters) (handler : η) {order : List (SocketId × Message)}
    (hsendable : ∀ entry ∈ order, entry.2.Sendable) :
    callsFor filters handler (order.map fun entry => entry.2.encode) =
      (wanted filters order).map (Call.mk handler) := by
  induction order with
  | nil => rfl
  | cons entry order ih =>
      have hrest := ih fun other hother => hsendable other (List.mem_cons_of_mem _ hother)
      have hdecode := Message.decode_encode (hsendable entry List.mem_cons_self)
      rw [List.map_cons, callsFor, List.filterMap_cons, hdecode, ← callsFor, hrest, wanted, wanted,
        List.filter_cons]
      by_cases haccepts : filters.accepts entry.2.encode = true
      · rw [if_pos haccepts, if_pos (decide_eq_true ((filters.accepts_iff _).1 haccepts))]
        rfl
      · rw [if_neg haccepts, if_neg fun hwanted =>
          haccepts ((filters.accepts_iff _).2 (of_decide_eq_true hwanted))]

section Heard

variable {session : Session η} {proxy : Proxy} {journal : Journal} {id : SubscriberId} {handler : η}
  {filters : Filters} {subscriber : Subscriber η} {loop : ReceiveLoop η} {index : Nat} {pump : BackPump}
  {bodies : List ByteArray} {behaviour : Behaviour η}

/-- The pump of an attentive subscriber goes on. -/
theorem Attends.running (h : Account session proxy journal)
    (hattends : Attends session proxy id handler filters subscriber loop index pump) :
    pump.isRunning = true := by
  obtain ⟨-, hattached⟩ := hattends.attached h
  by_contra hended
  rcases (h.books.attended index pump hattends.serves).ended (by simpa using hended) with
    hcancelled | hwritten | hleft
  · rw [h.running] at hcancelled
    cases hcancelled
  -- subscribers write nothing
  · refine hwritten (h.silent _ (List.mem_append_left _ ?_))
    exact List.mem_of_getElem? (Exchange.getElem?_backEnds hattends.serves)
  · obtain ⟨hlink, -⟩ := hattached.receive loop hattends.receives
    rw [hattends.socket, Network.peerOf_peerOf] at hleft
    have hheld := hattached.link _ hlink
    dsimp only at hleft
    rw [hleft] at hheld
    cases hheld

/-- What has arrived at a heeded subscriber are bodies of the log from its beginning. -/
theorem Heeded.arrived (h : Account session proxy journal)
    (hattends : Attends session proxy id handler filters subscriber loop index pump)
    (hheeded : Heeded session proxy journal id handler filters loop index pump bodies) :
    Frame.complete (journal.arrived loop.stream.socket) <+: proxy.fanout.log.toList ∧
      (pump.sending = none → Frame.complete (journal.arrived loop.stream.socket) =
        proxy.fanout.log.toList.take pump.cursor.next) := by
  have hbook := h.books.subscribers index pump hattends.serves
  dsimp only at hbook
  rw [hheeded.started, hattends.socket, Network.peerOf_peerOf] at hbook
  exact hbook.complete_of_unskipped (hattends.running h) hheeded.skipped h.books.log_fits

/-- What a heeded subscriber has heard is a prefix of what it wants. -/
theorem Heeded.delivered (h : Account session proxy journal)
    (hattends : Attends session proxy id handler filters subscriber loop index pump)
    (hheeded : Heeded session proxy journal id handler filters loop index pump bodies) :
    Delivered session id handler filters (order proxy journal) where
  broadcast := by
    rw [h.proxies]
    intro found hfound
    cases hfound
    exact log_eq_order h
  published := order_begins h
  heard := by
    have hread : bodies <+: proxy.fanout.log.toList := by
      refine List.IsPrefix.trans ?_ (Heeded.arrived h hattends hheeded).1
      rw [hheeded.heard.reads.complete_eq hheeded.heard.fits]
      exact List.prefix_append _ _
    obtain ⟨rest, hrest⟩ := hread
    rw [hheeded.heard.calls, ← callsFor_order filters handler fun _ => sendable_of_order h,
      ← log_eq_order h, ← hrest, callsFor_append]
    exact List.prefix_append _ _

/-! ## When nothing is left to be done -/

/-- A pump at the front with nothing to do has broadcast all that has arrived. -/
theorem sentBy_of_idle (h : Account session proxy journal) {index : Nat} {pump : FrontPump}
    (hpump : proxy.publishers[index]? = some pump)
    (hidle : proxy.pumpPublisher session.device.net index = none) :
    Exchange.sentBy journal index = Frame.complete (journal.arrived pump.stream.socket) := by
  have hbook := h.books.publishers index pump hpump
  dsimp only at hbook
  cases hrunning : pump.isRunning with
  | false =>
      obtain ⟨-, -, hwhole | ⟨-, hcancelled⟩⟩ := hbook.ended hrunning
      · exact hwhole.2
      · rw [h.running] at hcancelled
        cases hcancelled
  | true =>
      have hreads := hbook.running hrunning
      have hstepped := Stream.stepped_step hreads.live
      simp only [Proxy.pumpPublisher, hpump, hrunning, h.running] at hidle
      generalize pump.stream.step session.device.net = result at hidle hstepped
      cases hstepped with
      | idle _ _ _ noFrame =>
          rw [hreads.complete_eq (h.books.sent_fits index), noFrame, List.append_nil]
      | hungry => cases hidle
      | frame => cases hidle
      | ends yields =>
          rcases yields with rfl | ⟨fault, rfl⟩
          · cases hidle
          · cases hidle

/-- A pump at the back with nothing to do has taken the whole log, unless its subscriber has left something
unread. -/
theorem idle_of_pumpSubscriber (h : Account session proxy journal) {index : Nat} {pump : BackPump}
    (hpump : proxy.subscribers[index]? = some pump) (hrunning : pump.isRunning = true)
    (hidle : proxy.pumpSubscriber session.device.net index = none) :
    pump.sending = none ∧ proxy.fanout.log.size ≤ pump.cursor.next ∨
      (session.device.net.socket (peerOf pump.stream.socket)).incoming.size ≠ 0 := by
  have hbook := h.books.subscribers index pump hpump
  simp only [Proxy.pumpSubscriber, hpump, hrunning, h.running] at hidle
  cases hsending : pump.sending with
  | none =>
      refine .inl ⟨rfl, ?_⟩
      simp only [hsending, Proxy.nextForSubscriber] at hidle
      have hreceived := received_receive proxy.fanout pump.cursor
      generalize proxy.fanout.receive pump.cursor = receipt at hidle hreceived
      cases hread : pump.stream.step session.device.net with
      | some result =>
          obtain ⟨yield, stream, net⟩ := result
          rw [hread] at hidle
          cases yield <;> cases hidle
      | none =>
          rw [hread] at hidle
          cases hreceived with
          | lagged => cases hidle
          | @body body found =>
              dsimp only at hidle
              cases hframe : Frame.encode body <;> rw [hframe] at hidle <;> cases hidle
          | nothing read => exact read
  | some outgoing =>
      obtain ⟨frame, written⟩ := outgoing
      refine .inr fun hempty => ?_
      -- with nothing unread at the other end there is room for a piece of the frame
      have hwired := hbook.wired hrunning
      rw [hsending] at hwired
      cases hwired with
      | writing _ inside =>
          have hroom : 0 < Network.capacity := by decide
          simp only [hsending, Proxy.writeToSubscriber] at hidle
          cases hwrite : session.device.net.write pump.stream.socket frame written with
          | error fault =>
              rw [hwrite] at hidle
              cases hidle
          | ok result =>
              obtain ⟨count, after⟩ := result
              have hcount := Network.count_of_write hwrite
              rw [hempty] at hcount
              have hsome : count ≠ 0 := by omega
              by_cases hdone : written + count = frame.size
              · simp [hwrite, hdone] at hidle
              · simp [hwrite, hdone, hsome] at hidle

/-- When nothing is left to be done, everything that was published was broadcast. -/
theorem order_eq_of_settled (h : Account session proxy journal)
    (hsettled : Settled behaviour id session) (socket : SocketId) :
    ((order proxy journal).filter (·.1 = socket)).map Prod.snd = session.sentOn socket := by
  by_cases hserved : ∃ (index : Nat) (pump : FrontPump), proxy.publishers[index]? = some pump ∧
      peerOf pump.stream.socket = socket
  · obtain ⟨index, pump, hpump, rfl⟩ := hserved
    have heven := h.books.roster.peerOf_even (Exchange.Roster.mem_of_front hpump)
    have hidle : proxy.pumpPublisher session.device.net index = none := by
      have hnone := hsettled (.pumpPublisher 0 index) fun _ => Activity.noConfusion
      simpa [Device.perform, Device.performProxy, h.proxies] using hnone
    have hcomplete := complete_arrived h heven
    rw [Network.peerOf_peerOf] at hcomplete
    rw [order_of_source h hpump, sentBy_of_idle h hpump hidle, hcomplete, map_messageOf h]
  · have hnone : session.sentOn socket = [] := by
      refine List.eq_nil_iff_forall_not_mem.2 fun message hmessage => hserved ?_
      obtain ⟨entry, hentry, -⟩ := List.mem_map.1 hmessage
      obtain ⟨hpublished, hsocket⟩ := List.mem_filter.1 hentry
      obtain ⟨-, -, hnear⟩ := h.published entry hpublished
      -- nobody waits to be accepted any more
      have hwaits : waitingAt session.device.net proxy.front = [] := by
        have hidle := hsettled (.acceptPublisher 0) fun _ => Activity.noConfusion
        rw [← Network.accept_eq_none_iff]
        simpa [Device.perform, Device.performProxy, h.proxies, Proxy.acceptPublisher, Proxy.letInPublisher,
          h.running] using hidle
      rw [Exchange.frontRoster, hwaits, List.append_nil] at hnear
      obtain ⟨pump, hpump, hpeer⟩ := List.mem_map.1 hnear
      obtain ⟨index, hindex, hget⟩ := List.getElem_of_mem hpump
      refine ⟨index, pump, ?_, ?_⟩
      · rw [← Array.getElem?_toList, ← hget]
        exact List.getElem?_eq_getElem hindex
      · rw [hpeer, Network.peerOf_peerOf]
        exact of_decide_eq_true hsocket
    have hbegins := order_begins h socket
    rw [hnone] at hbegins ⊢
    exact List.prefix_nil.1 hbegins

/-- When nothing is left to be done, a heeded subscriber has read the whole log. -/
theorem bodies_eq_of_settled (h : Account session proxy journal)
    (hattends : Attends session proxy id handler filters subscriber loop index pump)
    (hheeded : Heeded session proxy journal id handler filters loop index pump bodies)
    (hsettled : Settled behaviour id session) : bodies = proxy.fanout.log.toList := by
  have hread : loop.stream.step session.device.net = none := by
    have hnone := hsettled (.receive id) fun other hother => (Activity.receive.inj hother).symm
    simp only [Device.perform, Device.performReceive, hattends.found, hattends.receives] at hnone
    cases hnext : loop.step subscriber.subscription behaviour (session.device.isStopped subscriber)
        session.device.net with
    | some next =>
        rw [hnext] at hnone
        cases hnone
    | none =>
        rw [ReceiveLoop.step_eq, hattends.going, hattends.free] at hnext
        simpa using hnext
  have hpump : proxy.pumpSubscriber session.device.net index = none := by
    have hnone := hsettled (.pumpSubscriber 0 index) fun _ => Activity.noConfusion
    simpa [Device.perform, Device.performProxy, h.proxies] using hnone
  have hstepped := Stream.stepped_step hheeded.heard.reads.live
  rw [hread] at hstepped
  cases hstepped with
  | idle empty _ _ noFrame =>
      have hcomplete := hheeded.heard.reads.complete_eq hheeded.heard.fits
      rw [noFrame, List.append_nil] at hcomplete
      rcases idle_of_pumpSubscriber h hattends.serves (hattends.running h) hpump with
        ⟨hsending, hwhole⟩ | hunread
      · rw [← hcomplete, (Heeded.arrived h hattends hheeded).2 hsending]
        exact List.take_of_length_le (by rw [Array.length_toList]; exact hwhole)
      · rw [hattends.socket, Network.peerOf_peerOf, empty] at hunread
        exact absurd rfl hunread

theorem Heeded.deliveredAll (h : Account session proxy journal)
    (hattends : Attends session proxy id handler filters subscriber loop index pump)
    (hheeded : Heeded session proxy journal id handler filters loop index pump bodies)
    (hsettled : Settled behaviour id session) :
    DeliveredAll session id handler filters (order proxy journal) where
  published := order_eq_of_settled h hsettled
  heard := by
    rw [hheeded.heard.calls, bodies_eq_of_settled h hattends hheeded hsettled, log_eq_order h]
    exact callsFor_order filters handler fun _ => sendable_of_order h

end Heard

/-! ## Runs -/

/-- A setup leaves everything unspoken and accounted for. -/
theorem unspoken_run {session : Session η} {proxy : Proxy} {journal : Journal}
    (h : Account session proxy journal) (hunspoken : session.Unspoken journal)
    (behaviour : Behaviour η) {events : List (Event η)} (hevents : ∀ event ∈ events, ¬ event.Publishes) :
    ∃ proxy' journal', Account (session.run behaviour events) proxy' journal' ∧
      (session.run behaviour events).Unspoken journal' := by
  induction events generalizing session proxy journal with
  | nil => exact ⟨proxy, journal, h, hunspoken⟩
  | cons event events ih =>
      obtain ⟨proxy', journal', h', hmoved⟩ := account_step h behaviour event
      exact ih h' (unspoken_step h hunspoken behaviour (hevents event List.mem_cons_self) hmoved)
        fun other hother => hevents other (List.mem_cons_of_mem _ hother)

/-- Whatever comes before, a property that holds always holds now. -/
theorem Always.now {behaviour : Behaviour η} {property : Session η → Prop} {session : Session η}
    {events : List (Event η)} (h : Always behaviour property session events) : property session := by
  cases events with
  | nil => exact h
  | cons event events => exact h.1

/-- A subscriber that stays attentive is heeded after every run. -/
theorem heeded_run {session : Session η} {proxy : Proxy} {journal : Journal} {id : SubscriberId}
    {handler : η} {filters : Filters} {subscriber : Subscriber η} {loop : ReceiveLoop η} {index : Nat}
    {pump : BackPump} {bodies : List ByteArray} (h : Account session proxy journal)
    (hattends : Attends session proxy id handler filters subscriber loop index pump)
    (hheeded : Heeded session proxy journal id handler filters loop index pump bodies)
    (behaviour : Behaviour η) {events : List (Event η)}
    (halways : Always behaviour (Attentive id handler filters) session events) :
    ∃ proxy' journal' subscriber' loop' index' pump' bodies',
      Account (session.run behaviour events) proxy' journal' ∧
      Attends (session.run behaviour events) proxy' id handler filters subscriber' loop' index' pump' ∧
      Heeded (session.run behaviour events) proxy' journal' id handler filters loop' index' pump'
        bodies' := by
  induction events generalizing session proxy journal subscriber loop index pump bodies with
  | nil => exact ⟨proxy, journal, subscriber, loop, index, pump, bodies, h, hattends, hheeded⟩
  | cons event events ih =>
      obtain ⟨proxy', journal', h', hmoved⟩ := account_step h behaviour event
      obtain ⟨subscriber', loop', index', pump', hattends'⟩ :=
        Attentive.exists_attends h' (Always.now halways.2)
      obtain ⟨bodies', hheeded'⟩ := heeded_step h behaviour hattends hheeded h' hmoved hattends'
      exact ih h' hattends' hheeded' halways.2

/-- Any number of publishers connect by an address that leads to the front of a proxy.  A subscriber that
listens before the first message is published and goes on to do so, never too far behind, has at
every moment heard a prefix of the published messages that it wants, in the order of the broadcast.  It has
heard them all as soon as neither the proxy nor its own loop has anything left to do. -/
theorem end_to_end_delivery {files : FileTree} {routes : String → Route} {front back address : Url}
    {number : ProxyId} {device : Device η}
    (hstart : (Device.ofFiles files routes).startProxy front back = (.ok number, device))
    (haddress : ∀ proxy ∈ device.proxies, ∀ place,
      device.net.destination address = .ok place → place = some proxy.front)
    (behaviour : Behaviour η) {setup traffic : List (Event η)}
    (hsetup : ∀ event ∈ setup, ¬ event.Publishes)
    {id : SubscriberId} {handler : η} {filters : Filters}
    (hattentive : Always behaviour (Attentive id handler filters)
      (run behaviour { device, front := address } setup) traffic) :
    let session := run behaviour { device, front := address } (setup ++ traffic)
    ∃ order, Delivered session id handler filters order ∧
      (Settled behaviour id session → DeliveredAll session id handler filters order) := by
  obtain ⟨proxy, haccount, hcalls⟩ := account_start hstart haddress
  obtain ⟨proxy', journal', hready, hunspoken⟩ := unspoken_run haccount
    ⟨fun _ => rfl, hcalls, fun _ => rfl⟩ behaviour hsetup
  obtain ⟨subscriber, loop, index, pump, hattends⟩ :=
    Attentive.exists_attends hready (Always.now hattentive)
  have hheeded := heeded_of_unspoken hready hunspoken hattends
  obtain ⟨proxy'', journal'', subscriber', loop', index', pump', bodies, hfinal, hattends', hheeded'⟩ :=
    heeded_run hready hattends hheeded behaviour hattentive
  intro session
  have hsession : session = run behaviour (run behaviour { device, front := address } setup) traffic :=
    List.foldl_append
  rw [hsession]
  exact ⟨order proxy'' journal'', Heeded.delivered hfinal hattends' hheeded', fun hsettled =>
    Heeded.deliveredAll hfinal hattends' hheeded' hsettled⟩

/-- A subscriber that wants what begins with the letter a. -/
def listeningSetup : List (Event Nat) :=
  [.addSubscriber (.ipc "/back") none, .subscriber 0 .openUp, .subscriber 0 .dial,
    .subscriber 0 (.subscribePrefix "a"), .subscriber 0 (.arm (.direct 7)),
    .activity (.acceptSubscriber 0)]

/-- Two publishers that send at the same time, the second one a message that is not wanted in between. -/
def mixedTraffic : List (Event Nat) :=
  [.addPublisher, .publisher 0 .openUp, .publisher 0 .dial, .activity (.acceptPublisher 0),
    .addPublisher, .publisher 1 .openUp, .publisher 1 .dial, .activity (.acceptPublisher 0),
    .publish 0 "a" "m" ⟨#[1]⟩, .publish 1 "b" "m" ⟨#[2]⟩, .write 1, .write 0,
    .activity (.pumpPublisher 0 1), .activity (.pumpPublisher 0 1), .activity (.pumpPublisher 0 0),
    .publish 1 "ab" "m" ⟨#[3]⟩, .activity (.pumpPublisher 0 0), .activity (.pumpSubscriber 0 0),
    .write 1, .activity (.pumpSubscriber 0 0), .activity (.receive 0),
    .activity (.pumpPublisher 0 1), .activity (.pumpPublisher 0 1), .activity (.pumpPublisher 0 1),
    .activity (.pumpPublisher 0 1), .activity (.pumpPublisher 0 0), .activity (.receive 0),
    .activity (.pumpSubscriber 0 0), .activity (.pumpSubscriber 0 0), .activity (.pumpSubscriber 0 0),
    .activity (.pumpSubscriber 0 0), .activity (.receive 0), .activity (.receive 0),
    .activity (.receive 0), .activity (.receive 0), .activity (.receive 0), .activity (.receive 0)]

/-- A device whose proxy is bound to an address on the network at its front and to a path at its back. -/
def mixedDevice : Device Nat :=
  ((Device.ofFiles .fresh Network.loopback).startProxy (.tcp "0.0.0.0:5000") (.ipc "/back")).2

theorem end_to_end_delivery_mixed :
    let front := Url.tcp "localhost:5000"
    let behaviour : Behaviour Nat := fun _ _ => .finish .succeeded
    let final := run behaviour { device := mixedDevice, front } (listeningSetup ++ mixedTraffic)
    (∃ order, Delivered final 0 7 ⟨["a".toByteArray]⟩ order ∧
      DeliveredAll final 0 7 ⟨["a".toByteArray]⟩ order) ∧
    (final.heard 0).map (fun call => call.message.topic) = ["a/m", "ab/m"] := by
  intro front behaviour final
  have hstart : ((Device.ofFiles .fresh Network.loopback : Device Nat).startProxy
      (.tcp "0.0.0.0:5000") (.ipc "/back")).1 = .ok 0 := by decide +kernel
  have hdestination : mixedDevice.net.destination front = .ok (some 0) := by decide +kernel
  have hfront : ∀ proxy ∈ mixedDevice.proxies.toList, proxy.front = 0 := by decide +kernel
  have hsetup : ∀ event ∈ listeningSetup, ¬ event.Publishes := by
    simp [listeningSetup, Event.Publishes]
  have hattentive : Always behaviour (Attentive 0 7 ⟨["a".toByteArray]⟩)
      (run behaviour { device := mixedDevice, front } listeningSetup) mixedTraffic := by
    decide +kernel
  have hidle : (final.device.next? behaviour).isNone = true := by decide +kernel
  obtain ⟨order, hdelivered, hall⟩ := end_to_end_delivery (Prod.ext hstart rfl)
    (by
      intro proxy hproxy place hplace
      rw [hfront proxy (Array.mem_toList_iff.2 hproxy)]
      exact (Except.ok.inj (hdestination.symm.trans hplace)).symm)
    behaviour hsetup hattentive
  refine ⟨⟨order, hdelivered, hall fun activity _ => ?_⟩, by decide +kernel⟩
  exact perform_eq_none_of_next? (Option.isNone_iff_eq_none.1 hidle) activity

end Session

end DeviceBus
