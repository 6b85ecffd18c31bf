import DeviceBus.Proofs.Device.Account

/-!
# Publishing

What the events of a publisher come to.  While it writes a frame, the bytes that are written go on its line;
with the last one the message is published.  When its connection fails, the part that was written stays
where it is, and is no frame.

* `Session.account_of_publisher`: whatever is done with a publisher without writing.
* `Session.Line.of_written`: the line of a publisher that has written a piece.
* `Session.account_performPublisher`, `Session.account_send`, `Session.account_write`: every event of a
  publisher keeps the account.
-/

namespace DeviceBus

open Exchange (Books Evolves Undisturbed Used)
open Network (peerOf)

namespace Session

variable {η : Type} {session session' : Session η} {proxy : Proxy} {journal : Journal}

theorem setSending_eq_self {id : PublisherId} {outgoing : Option Outgoing}
    (h : session.sending id = outgoing) : session.setSending id outgoing = session := by
  have hsame : (fun other => if other = id then outgoing else session.sending other) =
      session.sending := by
    funext other
    split
    · rename_i heq
      rw [heq, h]
    · rfl
  rw [setSending, hsame]

/-- A session after somebody has done something with a publisher. -/
def setPublisher (session : Session η) (id : PublisherId) (publisher : Publisher) (net : Network)
    (outgoing : Option Outgoing) : Session η :=
  ({ session with
    device :=
      { session.device with
        net
        publishers := session.device.publishers.setIfInBounds id publisher } }).setSending id outgoing

theorem holds_setPublisher {id : PublisherId} {publisher : Publisher} {net : Network}
    {outgoing : Option Outgoing} {owner : Owner} {socket : SocketId}
    (h : (session.setPublisher id publisher net outgoing).device.Holds owner socket) :
    owner = .publisher id ∧ publisher.writer = some socket ∨ session.device.Holds owner socket := by
  cases owner with
  | subscriber other => exact .inr h
  | publisher other =>
      obtain ⟨found, hfound, hholds⟩ := h
      by_cases hsame : id = other
      · subst hsame
        simp only [setPublisher, setSending, Array.getElem?_setIfInBounds] at hfound
        split at hfound
        · split at hfound
          · cases hfound
            exact .inl ⟨rfl, hholds⟩
          · cases hfound
        · rename_i hne
          exact absurd trivial hne
      · simp only [setPublisher, setSending, Array.getElem?_setIfInBounds_ne hsame] at hfound
        exact .inr ⟨found, hfound, hholds⟩

/-- Whatever is done with a publisher that sends nothing leaves it so. -/
theorem setPublisher_of_idle {id : PublisherId} (h : session.sending id = none) (publisher : Publisher)
    (net : Network) :
    session.setPublisher id publisher net none =
      { session with
        device :=
          { session.device with
            net
            publishers := session.device.publishers.setIfInBounds id publisher } } := by
  unfold setPublisher
  exact setSending_eq_self h

/-- Whatever is done with a publisher without writing keeps the account, as long as it uses no sockets but
its own and new ones and its line is in order afterwards. -/
theorem account_of_publisher (h : Account session proxy journal) {id : PublisherId}
    {publisher publisher' : Publisher} {net : Network} {outgoing : Option Outgoing}
    (hpublisher : session.device.publishers[id]? = some publisher)
    (hused : Used (fun socket => session.device.Holds (.publisher id) socket ∨
      session.device.net.sockets.size ≤ socket) session.device.net net)
    (hholds : ∀ socket, publisher'.writer = some socket → publisher.writer = some socket ∨
      @Eq Nat socket session.device.net.sockets.size ∧
        session.device.net.sockets.size < net.sockets.size)
    (hurl : publisher'.url = publisher.url)
    (hline : ∀ journal', journal'.arrived = journal.arrived →
      Line ⟨proxy, net, journal'⟩ session.sentOn outgoing publisher') :
    ∃ journal', Account (session.setPublisher id publisher' net outgoing) proxy journal' ∧
      Moved session proxy journal (fun _ => False) (session.setPublisher id publisher' net outgoing)
        proxy journal' := by
  obtain ⟨journal', hbooks, hevolves, harrived⟩ := Exchange.evolves_of_used h.books hused
  have hunused : ∀ owner (socket : Nat), owner ≠ .publisher id → session.device.Holds owner socket →
      socket % 2 = 0 ∧ socket < session.device.net.sockets.size ∧
        ¬ (session.device.Holds (.publisher id) socket ∨ session.device.net.sockets.size ≤ socket) := by
    intro owner socket hne hholder
    obtain ⟨heven, hin⟩ := h.held owner socket hholder
    exact ⟨heven, hin, h.not_uses hholder hne⟩
  have hothers : ∀ (other : SubscriberId) (found : Subscriber η),
      session.device.subscribers[other]? = some found → ∀ socket, found.Holds socket →
      Undisturbed socket ⟨proxy, session.device.net, journal⟩ ⟨proxy, net, journal'⟩ := by
    intro other found hfound socket hholder
    obtain ⟨heven, hin, huses⟩ := hunused (.subscriber other) socket Owner.noConfusion
      ⟨found, hfound, hholder⟩
    exact hevolves.undisturbed socket heven hin huses
  obtain ⟨hheld, hapart⟩ := h.owned_of_holds (session.setPublisher id publisher' net outgoing)
    (.publisher id) hevolves.size (fun owner socket hholder => by
      rcases holds_setPublisher hholder with ⟨hactor, hown⟩ | hold
      · rcases hholds socket hown with hold | hnew
        · rw [hactor]
          exact .inl ⟨publisher, hpublisher, hold⟩
        · exact .inr ⟨hactor, hnew⟩
      · exact .inl hold)
  refine ⟨journal', h.of_evolves hbooks hevolves h.proxies rfl hheld hapart ?_ ?_ ?_
    (h.lines_of_quiet hevolves rfl) (fun _ => .inl) (fun _ => False.elim), ?_⟩
  · refine h.publishers.set ?_ fun other found hne hfound hline' => ⟨hline'.1, ?_⟩
    · refine ⟨hurl.trans (h.publishers id publisher hpublisher).1, ?_⟩
      simp only [setPublisher, setSending, if_true]
      exact hline journal' harrived
    · simp only [setPublisher, setSending, if_neg hne]
      refine hline'.2.of_evolves hevolves fun socket hwriter => ?_
      obtain ⟨heven, hin, huses⟩ := hunused (.publisher other) socket
        (fun heq => hne (Owner.publisher.inj heq)) ⟨found, hfound, hwriter⟩
      exact ⟨heven, hin, huses, fun h => h⟩
  · intro other hother
    obtain ⟨hinside, -⟩ := Array.getElem?_eq_some_iff.1 hpublisher
    simp only [setPublisher, setSending, Array.size_setIfInBounds] at hother ⊢
    have hne : other ≠ id := by
      rintro rfl
      exact absurd hinside (Nat.not_lt_of_le hother)
    rw [if_neg hne]
    exact h.nobody other hother
  · exact h.subscribers.imp fun other found hfound hinOrder =>
      inOrder_of_undisturbed hinOrder (hothers other found hfound)
  · exact {
      started := hevolves.started
      pumps := fun index pump hpump => ⟨pump, hpump, rfl, .inl rfl⟩
      others := fun other found _ hfound => ⟨hfound, rfl, hothers other found hfound⟩
      own := fun other hown => hown.elim
      silent := fun _ => hevolves.silent fun _ h => h }

/-- Nothing was published on a connection that is new. -/
theorem Account.sentOn_of_size_le (h : Account session proxy journal) {socket : Nat}
    (hnew : session.device.net.sockets.size ≤ socket) : session.sentOn socket = [] := by
  rw [sentOn, List.map_eq_nil_iff, List.filter_eq_nil_iff]
  intro entry hentry
  obtain ⟨-, -, hnear⟩ := h.published entry hentry
  have hin : peerOf entry.1 < session.device.net.sockets.size := (h.books.near_of_front hnear).2
  have hpeer := Network.peerOf_lt h.books.roster.honest.paired hin
  rw [Network.peerOf_peerOf] at hpeer
  simp only [decide_eq_true_eq]
  rintro rfl
  exact absurd hpeer (Nat.not_lt_of_le hnew)

theorem part_none : Outgoing.part none = [] := rfl

/-- The line of a publisher without a connection. -/
theorem line_of_lost {exchange : Exchange} {sentOn : SocketId → List Message} {publisher : Publisher}
    (hregistered : publisher.Registered) (hwriter : publisher.writer = none) :
    Line exchange sentOn none publisher where
  registered := hregistered
  held socket hsocket := by
    rw [hwriter] at hsocket
    cases hsocket
  front socket hsocket := by
    rw [hwriter] at hsocket
    cases hsocket
  arrived socket hsocket := by
    rw [hwriter] at hsocket
    cases hsocket
  sending := nofun

/-- The line of a publisher that has just connected. -/
theorem Account.line_of_dialed (h : Account session proxy journal) {publisher : Publisher}
    {journal' : Journal} (harrived : journal'.arrived = journal.arrived)
    (hregistered : publisher.Registered)
    (hwriter : publisher.writer = some session.device.net.sockets.size) :
    Line ⟨proxy, (session.device.net.join proxy.front).dropReader session.device.net.sockets.size,
      journal'⟩ session.sentOn none publisher where
  registered := hregistered
  held := by
    intro socket hsocket
    cases hwriter.symm.trans hsocket
    have hnew := Network.socket_join_far session.device.net proxy.front
    have hheld : ((session.device.net.join proxy.front).socket
        session.device.net.sockets.size).writeHeld = true := by rw [hnew]
    dsimp only
    rw [Network.socket_dropReader hheld]
    exact hheld
  front := by
    intro socket hsocket
    cases hwriter.symm.trans hsocket
    have hlisteners := (Network.recedes_dropReader (session.device.net.join proxy.front)
      session.device.net.sockets.size).listeners
    refine List.mem_append_right _ ?_
    dsimp only
    rw [Exchange.waitingAt_of_listeners hlisteners, Network.waitingAt_join h.books.roster.front,
      Network.peerOf_of_even h.books.roster.honest.paired]
    exact List.mem_append_right _ List.mem_cons_self
  arrived := by
    intro socket hsocket
    cases hwriter.symm.trans hsocket
    have hpeer := Network.peerOf_of_even h.books.roster.honest.paired
    dsimp only at hpeer ⊢
    rw [harrived, h.sentOn_of_size_le (Nat.le_refl _), hpeer]
    exact h.books.fresh _ (Nat.le_succ _)
  sending := nofun

/-- The line of a publisher that was given another record and nothing else. -/
theorem Line.of_kept {proxy : Proxy} {net : Network} {journal journal' : Journal}
    {sentOn : SocketId → List Message} {sending : Option Outgoing} {publisher publisher' : Publisher}
    (h : Line ⟨proxy, net, journal⟩ sentOn sending publisher)
    (harrived : journal'.arrived = journal.arrived) (hregistered : publisher'.Registered)
    (hwriter : publisher'.writer = publisher.writer) :
    Line ⟨proxy, net, journal'⟩ sentOn sending publisher' where
  registered := hregistered
  held := by
    rw [hwriter]
    exact h.held
  front := by
    rw [hwriter]
    exact h.front
  arrived := by
    rw [hwriter]
    dsimp only
    rw [harrived]
    exact h.arrived
  sending := by
    rw [hwriter]
    exact h.sending

/-- The account after an operation of a publisher. -/
theorem account_performPublisher (h : Account session proxy journal) (behaviour : Behaviour η)
    (id : PublisherId) (operation : Publisher.Operation) :
    ∃ journal', Account (session.step behaviour (.publisher id operation)) proxy journal' ∧
      Moved session proxy journal (fun _ => False)
        (session.step behaviour (.publisher id operation)) proxy journal' := by
  cases hsending : session.sending id with
  | some outgoing => exact account_of_unchanged h (by simp [step, hsending])
  | none =>
      cases hpublisher : session.device.publishers[id]? with
      | none =>
          exact account_of_unchanged h (by simp [step, hsending, hpublisher, Device.withPublisher])
      | some publisher =>
          have hstep : session.step behaviour (.publisher id operation) =
              session.setPublisher id (publisher.perform session.device.net operation).2.1
                (publisher.perform session.device.net operation).2.2 none := by
            rw [setPublisher_of_idle hsending]
            simp [step, hsending, hpublisher, Device.withPublisher]
          obtain ⟨hfront, hline⟩ := h.publishers id publisher hpublisher
          rw [hsending] at hline
          have hholder : ∀ socket : Nat, publisher.writer = some socket →
              session.device.Holds (.publisher id) socket :=
            fun socket hwriter => ⟨publisher, hpublisher, hwriter⟩
          have hperformed : publisher.Performed session.device.net _ _ :=
            Publisher.performed_perform
              (fun socket hwriter => (h.held (.publisher id) socket (hholder socket hwriter)).1) operation
          have hurl := publisher.url_perform session.device.net operation
          have hregistered :=
            Publisher.registered_perform hline.registered session.device.net operation
          rw [hstep]
          generalize publisher.perform session.device.net operation = performed
            at hperformed hurl hregistered ⊢
          obtain ⟨result, publisher', net⟩ := performed
          dsimp only at hperformed hurl hregistered ⊢
          cases hperformed with
          | kept writer =>
              refine account_of_publisher h hpublisher .refl ?_ hurl ?_
              · rw [writer]
                exact fun socket hwriter => .inl hwriter
              · exact fun journal' harrived => hline.of_kept harrived hregistered writer
          | lost writer used =>
              refine account_of_publisher h hpublisher
                (used.mono fun socket hwriter => .inl (hholder socket hwriter)) ?_ hurl ?_
              · intro socket hwriter
                rw [writer] at hwriter
                cases hwriter
              · exact fun journal' _ => line_of_lost hregistered writer
          | dialed listener destination writer =>
              -- whoever dials the address of the front gets to the front
              rw [hfront] at destination
              have hlistener : listener = proxy.front := by
                rcases destination with hhere | haway
                · exact Option.some.inj (h.destination _ hhere)
                · cases h.destination _ haway
              subst hlistener
              refine account_of_publisher h hpublisher (.dropReader (.join .refl _)
                h.books.roster.honest.paired (.inr (Nat.le_refl _))) ?_ hurl ?_
              · intro socket hwriter
                refine .inr ⟨(Option.some.inj (writer.symm.trans hwriter)).symm, ?_⟩
                rw [(Network.recedes_dropReader _ _).size, Network.size_join]
                omega
              · exact fun journal' harrived => h.line_of_dialed harrived hregistered writer

/-- The account after a publisher has let its connection go. -/
theorem account_fail (h : Account session proxy journal) (id : PublisherId) (fault : SystemFault) :
    ∃ journal', Account (session.fail id fault) proxy journal' ∧
      Moved session proxy journal (fun _ => False) (session.fail id fault) proxy journal' := by
  cases hpublisher : session.device.publishers[id]? with
  | none =>
      have hidle : session.sending id = none := h.nobody id (Array.getElem?_eq_none_iff.1 hpublisher)
      refine account_of_unchanged h ?_
      simp only [fail, Device.loseConnection, Device.withPublisher, hpublisher]
      exact setSending_eq_self hidle
  | some publisher =>
      have hstep : session.fail id fault = session.setPublisher id
          (publisher.lose session.device.net).1 (publisher.lose session.device.net).2 none := by
        simp only [fail, Device.loseConnection, Device.withPublisher, hpublisher, setPublisher]
      have hholder : ∀ socket : Nat, publisher.writer = some socket →
          session.device.Holds (.publisher id) socket :=
        fun socket hwriter => ⟨publisher, hpublisher, hwriter⟩
      have hused : Used (fun socket => publisher.writer = some socket) session.device.net
          (publisher.lose session.device.net).2 :=
        Publisher.used_lose fun socket hwriter =>
          (h.held (.publisher id) socket (hholder socket hwriter)).1
      rw [hstep]
      refine account_of_publisher h hpublisher
        (hused.mono fun socket hwriter => .inl (hholder socket hwriter)) nofun rfl ?_
      exact fun journal' _ => line_of_lost (h.publishers id publisher hpublisher).2.registered rfl

/-- Replacing an element of an array by itself changes nothing. -/
theorem setIfInBounds_eq_self {α : Type} {items : Array α} {index : Nat} {item : α}
    (h : items[index]? = some item) : items.setIfInBounds index item = items := by
  apply Array.ext_getElem?
  intro other
  rw [Array.getElem?_setIfInBounds]
  split
  · rename_i hsame
    obtain ⟨hinside, -⟩ := Array.getElem?_eq_some_iff.1 h
    rw [if_pos hinside, ← hsame, h]
  · rfl

/-- The account after a publisher has begun to send a message. -/
theorem account_send (h : Account session proxy journal) {id : PublisherId} {message : Message}
    (hidle : session.sending id = none) (hsendable : message.Sendable) :
    ∃ journal', Account (session.send id message) proxy journal' ∧
      Moved session proxy journal (fun _ => False) (session.send id message) proxy journal' := by
  unfold send
  split
  · exact account_of_unchanged h rfl
  · rename_i publisher hpublisher
    split
    · exact account_of_unchanged h rfl
    · exact account_fail h id _
    · rename_i socket frame houtlet hframe
      have hwriter : publisher.writer = some socket := by
        unfold Publisher.outlet at houtlet
        split at houtlet
        · cases houtlet
        · split at houtlet
          · rename_i found hfound
            cases houtlet
            exact hfound
          · cases houtlet
      obtain ⟨-, hline⟩ := h.publishers id publisher hpublisher
      rw [hidle] at hline
      have hstep : session.setSending id (some { message, socket, frame }) = session.setPublisher id
          publisher session.device.net (some { message, socket, frame }) := by
        rw [setPublisher, setIfInBounds_eq_self hpublisher]
      rw [hstep]
      refine account_of_publisher h hpublisher .refl (fun _ hheld => .inl hheld) rfl ?_
      intro journal' harrived
      exact {
        registered := hline.registered
        held := hline.held
        front := hline.front
        arrived := by
          dsimp only
          rw [harrived]
          exact hline.arrived
        sending := by
          intro outgoing houtgoing
          cases houtgoing
          exact ⟨hwriter, hsendable, hframe, Frame.size_pos_of_encode hframe⟩ }

/-- The account after somebody has begun to publish something. -/
theorem account_publish (h : Account session proxy journal) (behaviour : Behaviour η)
    (id : PublisherId) (head method : String) (payload : ByteArray) :
    ∃ journal', Account (session.step behaviour (.publish id head method payload)) proxy journal' ∧
      Moved session proxy journal (fun _ => False)
        (session.step behaviour (.publish id head method payload)) proxy journal' := by
  simp only [step]
  split
  · rename_i message hidle hmessage
    exact account_send h hidle (Publisher.sendable_of_message hmessage)
  · exact account_of_unchanged h rfl

theorem account_publishRegistered (h : Account session proxy journal) (behaviour : Behaviour η)
    (id : PublisherId) (index : Nat) (payload : ByteArray) :
    ∃ journal', Account (session.step behaviour (.publishRegistered id index payload)) proxy journal' ∧
      Moved session proxy journal (fun _ => False)
        (session.step behaviour (.publishRegistered id index payload)) proxy journal' := by
  simp only [step]
  split
  · rename_i publisher hidle hpublisher
    split
    · rename_i message hmessage
      exact account_send h hidle (Publisher.sendable_of_registeredMessage
        (h.publishers id publisher hpublisher).2.registered hmessage)
    · exact account_of_unchanged h rfl
  · exact account_of_unchanged h rfl

/-! ## Writing -/

theorem frames_append (first second : List Message) :
    Message.frames (first ++ second) = Message.frames first ++ Message.frames second :=
  List.flatMap_append

/-- What was published on the connections after some more messages were on one. -/
theorem sentOn_append {socket : SocketId} {finished : List Message}
    (h : session'.published = session.published ++ finished.map (Prod.mk socket)) :
    session'.sentOn socket = session.sentOn socket ++ finished ∧
      ∀ other, other ≠ socket → session'.sentOn other = session.sentOn other := by
  constructor
  · simp [sentOn, h, List.filter_map, Function.comp_def]
  · intro other hne
    simp [sentOn, h, List.filter_map, Function.comp_def, Ne.symm hne]

/-- The line of a publisher on whose connection nothing more was published. -/
theorem Line.of_sentOn {exchange : Exchange} {sentOn sentOn' : SocketId → List Message}
    {sending : Option Outgoing} {publisher : Publisher} (h : Line exchange sentOn sending publisher)
    (hsame : ∀ socket, publisher.writer = some socket → sentOn' socket = sentOn socket) :
    Line exchange sentOn' sending publisher :=
  { h with
    arrived := fun socket hwriter => by
      rw [hsame socket hwriter]
      exact h.arrived socket hwriter }

/-- The part of a frame that is being sent holds no frame. -/
theorem complete_part {sending : Option Outgoing}
    (h : ∀ outgoing, sending = some outgoing → Frame.encode outgoing.message.encode = .ok outgoing.frame ∧
      outgoing.written < outgoing.frame.size) : Frame.complete (Outgoing.part sending) = [] := by
  cases sending with
  | none => exact Frame.complete_nil
  | some outgoing =>
      obtain ⟨hframe, hinside⟩ := h outgoing rfl
      obtain ⟨hfits, hbytes⟩ := (Frame.encode_eq_ok_iff _ _).1 hframe
      rw [Outgoing.part, hbytes]
      refine Frame.complete_take_bytes hfits ?_
      rw [← hbytes, length_bytesOf]
      exact hinside

/-- What writing a piece of a frame comes to for the network: its bytes arrive at the other end. -/
theorem exists_written (h : Account session proxy journal) {socket : Nat} {frame : ByteArray}
    {written count : Nat} {net : Network} (heven : socket % 2 = 0)
    (hheld : (session.device.net.socket socket).writeHeld = true)
    (hwrite : session.device.net.write socket frame written = .ok (count, net)) :
    ∃ journal', Books ⟨proxy, net, journal'⟩ ∧
      Evolves (fun far => @Eq Nat socket far) (fun far => @Eq Nat socket far)
        ⟨proxy, session.device.net, journal⟩ ⟨proxy, net, journal'⟩ ∧
      (net.socket socket).writeHeld = true ∧
      journal'.arrived (peerOf socket) = journal.arrived (peerOf socket) ++
        bytesOf (frame.extract written (written + count)) := by
  have hsocket : 2 * (socket / 2) = socket := by omega
  have hperform : Exchange.Deed.perform session.device.net socket (.write frame written) = net := by
    simp only [Exchange.Deed.perform, hheld, hwrite, if_true]
  have hnext : Exchange.next? proxy session.device.net (.far (socket / 2) (.write frame written)) =
      some (proxy, net) := by
    simp only [Exchange.next?, hsocket, hperform]
  have hevolves := Exchange.evolves_step h.books
    (Exchange.Event.noConfusion : Exchange.Event.far (socket / 2) (.write frame written) ≠ .cancel)
  have harrived := Exchange.arrived_step ⟨proxy, session.device.net, journal⟩
    (.far (socket / 2) (.write frame written)) (peerOf socket)
  obtain ⟨journal', hstep, hbooks⟩ := Exchange.exists_step h.books hnext
  rw [hstep] at hevolves harrived
  obtain ⟨hopen, -, hdelivers⟩ := Network.delivers_write hwrite
  have hmoves : Moves socket session.device.net (frame.extract written (written + count)) net :=
    .delivers hdelivers hopen hheld
  refine ⟨journal', hbooks, hevolves.mono (fun far hfar => ?_) (fun far hfar => ?_), ?_, ?_⟩
  · exact hsocket.symm.trans hfar
  · exact hsocket.symm.trans hfar
  · rw [hdelivers.socket_eq]
    exact hheld
  · rw [← hmoves.arrivedBetween_peer]
    exact harrived

/-- Whoever sends something has a line. -/
theorem Account.line_of_sending (h : Account session proxy journal) {id : PublisherId}
    {outgoing : Outgoing} (hsending : session.sending id = some outgoing) :
    ∃ publisher, session.device.publishers[id]? = some publisher ∧
      Line ⟨proxy, session.device.net, journal⟩ session.sentOn (some outgoing) publisher := by
  by_cases hin : id < session.device.publishers.size
  · have hpublisher := Array.getElem?_eq_getElem hin
    obtain ⟨-, hline⟩ := h.publishers id _ hpublisher
    rw [hsending] at hline
    exact ⟨_, hpublisher, hline⟩
  · have hnone := h.nobody id (Nat.le_of_not_lt hin)
    rw [hsending] at hnone
    cases hnone

/-- The line of a publisher after it has written a piece of its frame. -/
theorem Line.of_written {before after : Exchange} {sentOn sentOn' : SocketId → List Message}
    {outgoing : Outgoing} {sending : Option Outgoing} {publisher : Publisher}
    (h : Line before sentOn (some outgoing) publisher) (hrosters : Exchange.RostersGrow before after)
    (hheld : (after.net.socket outgoing.socket).writeHeld = true)
    (harrived : after.journal.arrived (peerOf outgoing.socket) =
      Message.frames (sentOn' outgoing.socket) ++ Outgoing.part sending)
    (hnext : ∀ outgoing', sending = some outgoing' →
      outgoing'.socket = outgoing.socket ∧ outgoing'.message = outgoing.message ∧
        outgoing'.frame = outgoing.frame ∧ outgoing'.written < outgoing'.frame.size) :
    Line after sentOn' sending publisher := by
  obtain ⟨hwriter, hsendable, hframe, -⟩ := h.sending outgoing rfl
  exact {
    registered := h.registered
    held := by
      intro socket hsocket
      cases hwriter.symm.trans hsocket
      exact hheld
    front := fun socket hsocket => hrosters.front (h.front socket hsocket)
    arrived := by
      intro socket hsocket
      cases hwriter.symm.trans hsocket
      exact harrived
    sending := by
      intro outgoing' houtgoing'
      obtain ⟨hsocket', hmessage, hframe', hinside'⟩ := hnext outgoing' houtgoing'
      rw [hsocket', hmessage]
      exact ⟨hwriter, hsendable, hframe' ▸ hframe, hinside'⟩ }

/-- The account after a publisher has written a piece of its frame, when what is now published and what is
still to be sent make up what is written. -/
theorem account_of_written (h : Account session proxy journal) {id : PublisherId} {outgoing : Outgoing}
    {count : Nat} {net : Network} (finished : List Message)
    (hsending : session.sending id = some outgoing)
    (hwrite : session.device.net.write outgoing.socket outgoing.frame outgoing.written =
      .ok (count, net))
    (hdevice : session'.device = { session.device with net }) (hfront : session'.front = session.front)
    (hothers : ∀ other, other ≠ id → session'.sending other = session.sending other)
    (hpublished : session'.published = session.published ++ finished.map (Prod.mk outgoing.socket))
    (hfinished : ∀ message ∈ finished, message = outgoing.message)
    (hbytes : Message.frames finished ++ Outgoing.part (session'.sending id) =
      (bytesOf outgoing.frame).take (outgoing.written + count))
    (hnext : ∀ outgoing', session'.sending id = some outgoing' →
      outgoing'.socket = outgoing.socket ∧ outgoing'.message = outgoing.message ∧
        outgoing'.frame = outgoing.frame ∧ outgoing'.written < outgoing'.frame.size) :
    ∃ journal', Account session' proxy journal' ∧
      Moved session proxy journal (fun _ => False) session' proxy journal' := by
  obtain ⟨publisher, hpublisher, hline⟩ := h.line_of_sending hsending
  obtain ⟨hwriter, hsendable, hframe, hinside⟩ := hline.sending outgoing rfl
  obtain ⟨hfits, -⟩ := (Frame.encode_eq_ok_iff _ _).1 hframe
  obtain ⟨heven, hin⟩ := h.held (.publisher id) outgoing.socket ⟨publisher, hpublisher, hwriter⟩
  obtain ⟨journal', hbooks, hevolves, hstill, harrived⟩ :=
    exists_written h heven (hline.held _ hwriter) hwrite
  obtain ⟨hsame, hothersSent⟩ := sentOn_append hpublished
  -- what is still to be sent is a part of a frame
  have hcomplete : Frame.complete (Outgoing.part (session'.sending id)) = [] := by
    refine complete_part fun outgoing' houtgoing' => ?_
    obtain ⟨-, hmessage, hframe', hinside'⟩ := hnext outgoing' houtgoing'
    rw [hmessage, hframe']
    exact ⟨hframe, hframe' ▸ hinside'⟩
  -- the piece goes on where the part before it ended
  have hline' : journal'.arrived (peerOf outgoing.socket) =
      Message.frames (session'.sentOn outgoing.socket) ++ Outgoing.part (session'.sending id) := by
    rw [harrived, hline.arrived _ hwriter, hsame, frames_append, List.append_assoc, List.append_assoc,
      hbytes, Outgoing.part, bytesOf_extract, Nat.add_sub_cancel_left, ← List.take_add]
  -- the connection is nobody else's
  have hapart : ∀ owner (socket : Nat), owner ≠ .publisher id → session.device.Holds owner socket →
      ¬ @Eq Nat outgoing.socket socket := by
    intro owner socket hne hholder heq
    exact hne (h.apart owner _ socket hholder ⟨publisher, hpublisher, heq ▸ hwriter⟩)
  have hundisturbed : ∀ (other : SubscriberId) (found : Subscriber η),
      session.device.subscribers[other]? = some found → ∀ socket, found.Holds socket →
      Undisturbed socket ⟨proxy, session.device.net, journal⟩ ⟨proxy, net, journal'⟩ := by
    intro other found hfound socket hholder
    have hholds : session.device.Holds (.subscriber other) socket := ⟨found, hfound, hholder⟩
    obtain ⟨heven, hin⟩ := h.held (.subscriber other) socket hholds
    exact hevolves.undisturbed socket heven hin (hapart _ socket Owner.noConfusion hholds)
  have hnet : session'.device.net = net := by rw [hdevice]
  have hpublishers : session'.device.publishers = session.device.publishers := by rw [hdevice]
  have hsubscribers : session'.device.subscribers = session.device.subscribers := by rw [hdevice]
  have hholds : ∀ owner socket, session'.device.Holds owner socket → session.device.Holds owner socket := by
    rw [hdevice]
    rintro (other | other) socket hholder <;> exact hholder
  obtain ⟨hheld, hnewApart⟩ := h.owned_of_holds session' (.publisher id) (by rw [hnet]; exact hevolves.size)
    fun owner socket hholder => .inl (hholds owner socket hholder)
  refine ⟨journal', h.of_evolves (by rw [hnet]; exact hbooks) (by rw [hnet]; exact hevolves)
    (by rw [hdevice]; exact h.proxies) hfront hheld hnewApart ?_ ?_ ?_ ?_ ?_ ?_, ?_⟩
  · rw [hpublishers, hnet, hfront]
    intro other found hfound
    obtain ⟨hurl', hother⟩ := h.publishers other found hfound
    refine ⟨hurl', ?_⟩
    by_cases hown : other = id
    · subst hown
      cases hfound.symm.trans hpublisher
      exact hline.of_written hevolves.rosters hstill hline' hnext
    · rw [hothers other hown]
      have hheldBy : ∀ socket : Nat, found.writer = some socket →
          ¬ @Eq Nat outgoing.socket socket := fun socket hsocket =>
        hapart (.publisher other) socket (fun heq => hown (Owner.publisher.inj heq))
          ⟨found, hfound, hsocket⟩
      refine (hother.of_evolves hevolves fun socket hsocket => ?_).of_sentOn fun socket hsocket => ?_
      · obtain ⟨heven, hin⟩ := h.held (.publisher other) socket ⟨found, hfound, hsocket⟩
        exact ⟨heven, hin, hheldBy socket hsocket, hheldBy socket hsocket⟩
      · exact hothersSent socket (Ne.symm (hheldBy socket hsocket))
  · intro other hother
    rw [hpublishers] at hother
    obtain ⟨hinside, -⟩ := Array.getElem?_eq_some_iff.1 hpublisher
    rw [hothers other (by rintro rfl; exact absurd hinside (Nat.not_lt_of_le hother))]
    exact h.nobody other hother
  · rw [hsubscribers, hnet]
    exact h.subscribers.imp fun other found hfound hinOrder =>
      inOrder_of_undisturbed hinOrder (hundisturbed other found hfound)
  · refine h.lines_of_evolves (by rw [hnet]; exact hevolves) (fun socket hother => ?_) ?_
    · exact hothersSent socket (Ne.symm hother)
    · rintro socket rfl
      exact ⟨_, hline', hcomplete⟩
  · rw [hpublished]
    intro entry hentry
    rcases List.mem_append.1 hentry with hold | hnew
    · exact .inl hold
    · obtain ⟨message, hmessage, rfl⟩ := List.mem_map.1 hnew
      cases hfinished message hmessage
      exact .inr ⟨hsendable, hfits, hline.front _ hwriter⟩
  · rintro far rfl
    exact hline.front _ hwriter
  · exact {
      started := hevolves.started
      pumps := fun index pump hpump => ⟨pump, hpump, rfl, .inl rfl⟩
      others := by
        intro other found _ hfound
        rw [hsubscribers, hnet]
        refine ⟨hfound, ?_, hundisturbed other found hfound⟩
        rw [heard, heard, hdevice]
      own := fun other hown => hown.elim
      silent := by
        intro hidle
        rw [hidle id] at hsending
        cases hsending }

/-- The account after a publisher has written as much as there was room for. -/
theorem account_write (h : Account session proxy journal) (id : PublisherId) :
    ∃ journal', Account (session.write id) proxy journal' ∧
      Moved session proxy journal (fun _ => False) (session.write id) proxy journal' := by
  unfold write
  split
  · exact account_of_unchanged h rfl
  · rename_i outgoing hsending
    obtain ⟨publisher, -, hline⟩ := h.line_of_sending hsending
    obtain ⟨-, -, hframe, hinside⟩ := hline.sending outgoing rfl
    obtain ⟨-, hbytes⟩ := (Frame.encode_eq_ok_iff _ _).1 hframe
    split
    · exact account_fail h id _
    · rename_i count net hwrite
      obtain ⟨-, hcount, -⟩ := Network.delivers_write hwrite
      dsimp only
      split
      -- the last piece: the message is published, and nothing is being sent any more
      · rename_i hall
        refine account_of_written h [outgoing.message] hsending hwrite rfl rfl
          (fun other hne => if_neg hne) rfl (fun message hmessage => List.mem_singleton.1 hmessage) ?_ ?_
        · simp only [setSending, if_true, part_none, List.append_nil]
          rw [hall, ← length_bytesOf, List.take_length, hbytes]
          exact List.append_nil _
        · intro outgoing' houtgoing'
          simp only [setSending, if_true] at houtgoing'
          cases houtgoing'
      -- a piece in the middle: the same message with more of its frame written
      · rename_i hpart
        refine account_of_written h [] hsending hwrite rfl rfl (fun other hne => if_neg hne)
          (List.append_nil _).symm (fun message hmessage => absurd hmessage List.not_mem_nil) ?_ ?_
        · simp only [setSending, if_true, Outgoing.part]
          rfl
        · intro outgoing' houtgoing'
          simp only [setSending, if_true] at houtgoing'
          cases houtgoing'
          refine ⟨rfl, rfl, rfl, ?_⟩
          dsimp only
          omega

end Session

end DeviceBus
