import DeviceBus.Proofs.Proxy.Accounting

/-!
# What an event leaves alone

An event happens at one socket, or makes a new connection.  For everybody who holds a far end that the
event does not use, next to nothing has changed afterwards: more may have arrived to be read.

* `Exchange.Effect`: what an event comes to for the network.
* `Exchange.Undisturbed`: what the holder of a far end still finds.
* `Exchange.Evolves`: what an event, or some of them, leave alone.
* `Exchange.evolves_step`: every event but the cancellation of the proxy.
* `Exchange.evolves_of_used`: whoever uses far ends without writing.
-/

namespace DeviceBus

open Network (peerOf waitingAt)

namespace Network

/-- Two networks have the same listeners, up to what waits at them. -/
def ListenAlike (before after : Network) : Prop :=
  after.listeners.map (fun listener => (listener.url, listener.isOpen)) =
    before.listeners.map fun listener => (listener.url, listener.isOpen)

/-- What waits at a listener is no part of where and whether it listens. -/
theorem listenAlike_of_modify {before after : Network} {id : ListenerId}
    (waiting : Listener → List SocketId)
    (h : after.listeners = before.listeners.modify id fun listener =>
      { listener with waiting := waiting listener }) : ListenAlike before after := by
  refine Array.ext_getElem? fun other => ?_
  rw [h, Array.getElem?_map, Array.getElem?_map, Array.getElem?_modify]
  split
  · rw [Option.map_map]
    rfl
  · rfl

theorem ListenAlike.reach {before after : Network} (h : ListenAlike before after)
    (hfiles : after.files = before.files) (path : String) : after.reach path = before.reach path := by
  unfold Network.reach
  rw [hfiles]
  split
  · rfl
  · split
    · rfl
    · rename_i id _
      have hsame := congrArg (fun found => found[id]?) h
      simp only [Array.getElem?_map] at hsame
      cases hafter : after.listener? id <;> cases hbefore : before.listener? id <;>
        simp_all [listener?]
    · rfl

theorem ListenAlike.listenerOn? {before after : Network} (h : ListenAlike before after)
    (addresses : List String) : after.listenerOn? addresses = before.listenerOn? addresses := by
  have hmapped : ∀ net : Network, net.listenerOn? addresses =
      (net.listeners.map fun listener => (listener.url, listener.isOpen)).findIdx? fun place =>
        place.2 && addresses.any fun address => place.1 = .tcp address := by
    intro net
    rw [Array.findIdx?_map]
    rfl
  rw [hmapped, hmapped, h]

/-- An address leads to the same place as long as files and routes are the same, and so are the listeners up
to what waits at them. -/
theorem ListenAlike.destination {before after : Network} (h : ListenAlike before after)
    (hfiles : after.files = before.files) (hroutes : after.routes = before.routes) (url : Url) :
    after.destination url = before.destination url := by
  cases url with
  | ipc path => rw [Network.destination, h.reach hfiles, Network.destination]
  | tcp address => simp only [Network.destination, hroutes, h.listenerOn?]

theorem destination_join (net : Network) (id : ListenerId) (url : Url) :
    (net.join id).destination url = net.destination url := by
  have halike : ListenAlike net (net.join id) :=
    listenAlike_of_modify (fun listener => listener.waiting ++ [net.sockets.size + 1]) rfl
  exact halike.destination rfl rfl url

theorem destination_accept {net after : Network} {id : ListenerId} {near : SocketId}
    (h : net.accept id = some (near, after)) (url : Url) :
    after.destination url = net.destination url := by
  unfold accept at h
  split at h
  · rename_i rest _ _
    cases h
    have halike : ListenAlike net { net with
        listeners := net.listeners.modify id fun listener => { listener with waiting := rest } } :=
      listenAlike_of_modify (fun _ => rest) rfl
    exact halike.destination rfl rfl url
  · cases h

end Network

theorem Moves.destination {net net' : Network} {id : SocketId} {piece : ByteArray}
    (h : Moves id net piece net') (url : Url) : net'.destination url = net.destination url := by
  have halike : Network.ListenAlike net net' := by rw [Network.ListenAlike, h.listeners]
  cases h with
  | recedes h => exact halike.destination h.files h.routes url
  | delivers h => exact halike.destination h.files h.routes url

namespace Exchange

/-- The near ends of all connections to the front of a proxy, accepted or not. -/
def frontRoster (exchange : Exchange) : List SocketId :=
  frontEnds exchange.proxy ++ waitingAt exchange.net exchange.proxy.front

/-- The near ends of all connections to the back of a proxy, accepted or not. -/
def backRoster (exchange : Exchange) : List SocketId :=
  backEnds exchange.proxy ++ waitingAt exchange.net exchange.proxy.back

/-- Both rosters together are all near ends. -/
theorem perm_rosters (exchange : Exchange) :
    (nearEnds exchange.proxy exchange.net).Perm (exchange.frontRoster ++ exchange.backRoster) := by
  rw [List.perm_iff_count]
  intro id
  simp only [nearEnds, frontRoster, backRoster, List.count_append]
  omega

/-- No connection is in both rosters. -/
theorem Books.front_ne_back {exchange : Exchange} (h : exchange.Books) {first second : SocketId}
    (hfirst : first ∈ exchange.frontRoster) (hsecond : second ∈ exchange.backRoster) :
    first ≠ second := by
  have hdistinct := exchange.perm_rosters.nodup_iff.1 h.roster.distinct
  exact (List.nodup_append.1 hdistinct).2.2 first hfirst second hsecond

theorem Books.near_of_front {exchange : Exchange} (h : exchange.Books) {near : Nat}
    (hnear : near ∈ exchange.frontRoster) : near % 2 = 1 ∧ near < exchange.net.sockets.size :=
  h.roster.near near (exchange.perm_rosters.mem_iff.2 (List.mem_append_left _ hnear))

theorem Books.near_of_back {exchange : Exchange} (h : exchange.Books) {near : Nat}
    (hnear : near ∈ exchange.backRoster) : near % 2 = 1 ∧ near < exchange.net.sockets.size :=
  h.roster.near near (exchange.perm_rosters.mem_iff.2 (List.mem_append_right _ hnear))

/-! ## The effect of an event -/

/-- The holder of a far end does something with it. -/
def Event.Uses (far : SocketId) : Event → Prop
  | .far connection _ => @Eq Nat (2 * connection) far
  | _ => False

/-- The holder of a far end writes to it. -/
def Event.Writes (far : SocketId) : Event → Prop
  | .far connection (.write _ _) => @Eq Nat (2 * connection) far
  | _ => False

/-- Some pump at the back has a frame to write. -/
def SomePumpSends (exchange : Exchange) : Prop :=
  ∃ (index : Nat) (pump : BackPump), exchange.proxy.subscribers[index]? = some pump ∧
    pump.isRunning = true ∧ pump.sending ≠ none

/-- What an event comes to for the network: something happens at a near end or at a far end that the event
uses, or there is a new connection.  Something is written only by who writes at a far end, or by a pump at
the back that has a frame to write. -/
inductive Effect (exchange : Exchange) (event : Event) : Network → Prop where
  | moves {between after : Network} {id : Nat} {piece : ByteArray}
      (sockets : between.sockets = exchange.net.sockets)
      (destination : ∀ url, after.destination url = exchange.net.destination url) (moves : Moves id between piece after)
      (holder : id % 2 = 1 ∨ event.Uses id)
      (source : piece = .empty ∨ event.Writes id ∨ id % 2 = 1 ∧ exchange.SomePumpSends) :
      Effect exchange event after
  | join (id : ListenerId) : Effect exchange event (exchange.net.join id)

/-- Something happens at a near end without any writing. -/
theorem Effect.of_recedes {exchange : Exchange} {event : Event} {after : Network} {near : Nat}
    (hodd : near % 2 = 1) (hrecedes : exchange.net.Recedes near after) : Effect exchange event after :=
  .moves rfl (Moves.recedes hrecedes).destination (.recedes hrecedes) (.inl hodd) (.inl rfl)

/-- Only a pump that is running has anything to do. -/
theorem running_of_pumpSubscriber {proxy proxy' : Proxy} {net net' : Network} {index : Nat}
    {pump : BackPump} (hpump : proxy.subscribers[index]? = some pump)
    (hstep : proxy.pumpSubscriber net index = some (proxy', net')) : pump.isRunning = true := by
  cases hrunning : pump.isRunning with
  | true => rfl
  | false => simp [Proxy.pumpSubscriber, hpump, hrunning] at hstep

theorem effect_perform (exchange : Exchange) (connection : Nat) (deed : Deed) :
    Effect exchange (.far connection deed) (deed.perform exchange.net (2 * connection)) := by
  have huses : Event.Uses (2 * connection) (.far connection deed) := rfl
  have hrecedes : ∀ {after : Network}, exchange.net.Recedes (2 * connection) after →
      Effect exchange (.far connection deed) after :=
    fun h => .moves rfl (Moves.recedes h).destination (.recedes h) (.inr huses) (.inl rfl)
  cases deed with
  | write bytes offset =>
      obtain ⟨piece, hmoves⟩ := exists_moves_perform exchange.net (2 * connection) (.write bytes offset)
      exact .moves rfl hmoves.destination hmoves (.inr huses) (.inr (.inl rfl))
  | take => exact hrecedes (Network.recedes_take _ _)
  | dropWriter => exact hrecedes (Network.recedes_dropWriter _ _)
  | dropReader => exact hrecedes (Network.recedes_dropReader _ _)
  | close => exact hrecedes (Network.recedes_close _ _)

theorem effect_step {exchange : Exchange} (h : exchange.Books) (event : Event) :
    Effect exchange event (exchange.step event).net := by
  have hnothing : Effect exchange event exchange.net :=
    Effect.of_recedes (Nat.mod_eq_of_lt (Nat.lt_succ_self 1)) (.refl 1 _)
  unfold step
  split
  · exact hnothing
  · rename_i proxy' net' hnext
    cases event with
    | acceptPublisher =>
        obtain ⟨near, between, haccept, rfl, rfl⟩ := Proxy.acceptPublisher_eq_some hnext
        obtain ⟨hwaits, -, hsockets, -⟩ := Network.accept_eq_some haccept
        have hmem : near ∈ exchange.frontRoster := by
          rw [frontRoster, hwaits]
          exact List.mem_append_right _ List.mem_cons_self
        have hmoves := Moves.recedes (Network.recedes_dropWriter between near)
        refine .moves hsockets (fun url => ?_) hmoves (.inl (h.near_of_front hmem).1) (.inl rfl)
        rw [hmoves.destination, Network.destination_accept haccept]
    | acceptSubscriber =>
        obtain ⟨near, haccept, rfl⟩ := Proxy.acceptSubscriber_eq_some hnext
        exact .moves (Network.accept_eq_some haccept).2.2.1 (Network.destination_accept haccept)
          (.recedes (.refl 1 _)) (.inl rfl) (.inl rfl)
    | pumpPublisher index =>
        obtain ⟨pump, pump', bodies, attached, hpump, -, -, hrecedes, -⟩ := h.pumpPublisher_spec hnext
        -- a pump at the front only reads
        exact Effect.of_recedes (h.roster.near _ (Roster.mem_of_front hpump)).1 hrecedes
    | pumpSubscriber index =>
        obtain ⟨pump, pump', piece, hpump, hkept⟩ := h.pumpSubscriber_spec hnext
        have hodd := (h.roster.near _ (Roster.mem_of_back hpump)).1
        refine .moves rfl hkept.moves.destination hkept.moves (.inl hodd) ?_
        -- a pump at the back writes only from a frame that it was handed before
        by_cases hidle : pump.sending = none
        · exact .inl (hkept.silent hidle)
        · have hrunning := running_of_pumpSubscriber hpump hnext
          exact .inr (.inr ⟨hodd, index, pump, hpump, hrunning, hidle⟩)
    | cancel =>
        cases hnext
        exact hnothing
    | join id =>
        cases hnext
        exact .join id
    | far connection deed =>
        cases hnext
        exact effect_perform exchange connection deed

theorem arrived_step (exchange : Exchange) (event : Event) (id : SocketId) :
    (exchange.step event).journal.arrived id =
      exchange.journal.arrived id ++ arrivedBetween exchange.net (exchange.step event).net id := by
  unfold step
  split
  · rw [arrivedBetween_of_socket_eq rfl, List.append_nil]
  · rfl

/-- What the holder of a far end still finds: its half for writing, and the book of a stream that reads
there. -/
structure Undisturbed (far : SocketId) (before after : Exchange) : Prop where
  writeHeld : (after.net.socket far).writeHeld = (before.net.socket far).writeHeld
  reads : ∀ (stream : Stream) (bodies : List ByteArray), stream.socket = far →
    stream.Reads before.net (before.journal.arrived far) bodies →
      stream.Reads after.net (after.journal.arrived far) bodies

theorem undisturbed_step {exchange : Exchange} (h : exchange.Books) (event : Event) {far : Nat}
    (heven : far % 2 = 0) (hin : far < exchange.net.sockets.size) (huses : ¬ event.Uses far) :
    Undisturbed far exchange (exchange.step event) := by
  have heffect := effect_step h event
  have harrived := arrived_step exchange event far
  generalize exchange.step event = result at heffect harrived ⊢
  obtain ⟨proxy, after, journal⟩ := result
  dsimp only at heffect harrived
  cases heffect with
  | @moves between _ id piece hsockets destination hmoves holder source =>
      have hne : far ≠ id := by
        rintro rfl
        rcases holder with hodd | hholds
        · omega
        · exact huses hholds
      have hsocket : ∀ other, between.socket other = exchange.net.socket other := by
        intro other
        simp only [Network.socket, hsockets]
      exact {
        writeHeld := by
          show (after.socket far).writeHeld = _
          rw [hmoves.writeHeld_of_ne hne, hsocket]
        reads := by
          rintro stream bodies rfl hreads
          have hbetween : stream.Reads between (exchange.journal.arrived stream.socket) bodies :=
            hreads.of_same (by rw [hsocket]) (by rw [hsocket]; exact fun h => h)
          have hafter := hbetween.of_moves (h.roster.honest.of_sockets hsockets) hmoves hne
          rw [arrivedBetween, hsocket] at hafter
          dsimp only
          rw [harrived]
          exact hafter }
  | join id =>
      have hsame := Network.socket_join_of_lt hin id
      exact {
        writeHeld := by rw [hsame]
        reads := by
          rintro stream bodies rfl hreads
          dsimp only
          rw [harrived, arrivedBetween_of_socket_eq hsame, List.append_nil]
          exact hreads.of_same (by rw [hsame]) (by rw [hsame]; exact fun h => h) }

/-- Only who writes to a far end sends anything to the near end. -/
theorem sent_step {exchange : Exchange} (h : exchange.Books) (event : Event) {near : Nat}
    (hodd : near % 2 = 1) (hwrites : ¬ event.Writes (peerOf near)) :
    (exchange.step event).journal.arrived near = exchange.journal.arrived near := by
  have heffect := effect_step h event
  rw [arrived_step]
  refine List.append_right_eq_self.2 ?_
  generalize (exchange.step event).net = after at heffect ⊢
  cases heffect with
  | @moves between _ id piece hsockets destination hmoves holder source =>
      have hsame : arrivedBetween exchange.net after near = arrivedBetween between after near := by
        simp only [arrivedBetween, Network.socket, hsockets]
      rw [hsame]
      by_cases hpeer : near = peerOf id
      · rcases source with hempty | hwritten | ⟨hodd', -⟩
        · rw [hpeer, hmoves.arrivedBetween_peer, hempty, bytesOf_empty]
        · rw [hpeer, Network.peerOf_peerOf] at hwrites
          exact absurd hwritten hwrites
        · have hparity := Network.peerOf_mod_two id
          have hpeer : @Eq Nat near (peerOf id) := hpeer
          omega
      · exact hmoves.arrivedBetween_of_ne hpeer
  | join id => exact arrivedBetween_join _ id near

/-- As long as nobody has written anything, nothing is broadcast. -/
theorem Books.log_of_silent {exchange : Exchange} (h : exchange.Books)
    (hsilent : ∀ id, exchange.journal.arrived id = []) : exchange.proxy.fanout.log.size = 0 := by
  have hnone : ∀ entry, entry ∉ exchange.journal.broadcasts := by
    intro entry hentry
    have hindex := h.origin entry hentry
    obtain ⟨pump, hpump⟩ : ∃ pump, exchange.proxy.publishers[entry.1]? = some pump :=
      ⟨_, Array.getElem?_eq_getElem hindex⟩
    have hbegins := (h.publishers _ pump hpump).sent_begins (h.sent_fits _)
    rw [hsilent, Frame.complete_nil, List.prefix_nil, sentBy, List.map_eq_nil_iff] at hbegins
    have hmem : entry ∈ exchange.journal.broadcasts.filter (·.1 = entry.1) :=
      List.mem_filter.2 ⟨hentry, by simp⟩
    rw [hbegins] at hmem
    cases hmem
  rw [← Array.length_toList, h.log, List.eq_nil_iff_forall_not_mem.2 hnone]
  rfl

/-- As long as nobody has written anything, no pump has anything to write. -/
theorem Books.not_somePumpSends {exchange : Exchange} (h : exchange.Books)
    (hsilent : ∀ id, exchange.journal.arrived id = []) : ¬ exchange.SomePumpSends := by
  have hlog := h.log_of_silent hsilent
  rintro ⟨index, pump, hpump, hrunning, hsending⟩
  have hbook := h.subscribers index pump hpump
  obtain ⟨positions, -, hlength, hhanded⟩ := hbook.handedAt
  have hempty : exchange.journal.handed index = [] := by
    refine List.eq_nil_of_length_eq_zero ?_
    have hbound := hbook.bound
    have hcount := hbook.count
    rw [← hhanded.length_eq, hlength]
    omega
  -- a pump that was handed nothing is not in the middle of a frame
  have hwired := hbook.wired hrunning
  rw [hempty] at hwired
  cases hidle : pump.sending with
  | none => exact hsending hidle
  | some frame =>
      rw [hidle] at hwired
      cases hwired with
      | writing last => exact absurd last (by simp)

/-- As long as nobody has written anything, nothing arrives anywhere. -/
theorem silent_step {exchange : Exchange} (h : exchange.Books) (event : Event)
    (hquiet : ∀ far, ¬ event.Writes far) (hsilent : ∀ id, exchange.journal.arrived id = []) :
    ∀ id, (exchange.step event).journal.arrived id = [] := by
  intro id
  have heffect := effect_step h event
  rw [arrived_step, hsilent, List.nil_append]
  generalize (exchange.step event).net = after at heffect ⊢
  cases heffect with
  | @moves between _ used piece hsockets destination hmoves holder source =>
      have hsame : arrivedBetween exchange.net after id = arrivedBetween between after id := by
        simp only [arrivedBetween, Network.socket, hsockets]
      rw [hsame]
      by_cases hpeer : id = peerOf used
      · rcases source with hempty | hwritten | ⟨-, hsends⟩
        · rw [hpeer, hmoves.arrivedBetween_peer, hempty, bytesOf_empty]
        · exact absurd hwritten (hquiet _)
        · exact absurd hsends (h.not_somePumpSends hsilent)
      · exact hmoves.arrivedBetween_of_ne hpeer
  | join listener => exact arrivedBetween_join _ listener id

/-! ## The rosters -/

theorem waitingAt_of_listeners {net net' : Network} (h : net'.listeners = net.listeners)
    (id : ListenerId) : waitingAt net' id = waitingAt net id := by
  simp only [waitingAt, Network.listener?, h]

/-- What waits at a listener still waits after somebody has connected. -/
theorem waitingAt_subset_join {net : Network} (id listener : ListenerId) :
    waitingAt net listener ⊆ waitingAt (net.join id) listener := by
  by_cases hsame : listener = id
  · subst hsame
    by_cases hin : listener < net.listeners.size
    · rw [Network.waitingAt_join hin]
      exact List.subset_append_left _ _
    · rw [Network.waitingAt_join_of_size_le (Nat.le_of_not_lt hin)]
      exact List.Subset.refl _
  · rw [Network.waitingAt_join_of_ne hsame]
    exact List.Subset.refl _

/-- How the rosters may change: nothing leaves the front, and what comes to the back is new. -/
structure RostersGrow (before after : Exchange) : Prop where
  front : before.frontRoster ⊆ after.frontRoster
  back : ∀ near ∈ after.backRoster, near ∈ before.backRoster ∨ before.net.sockets.size ≤ near

theorem RostersGrow.of_eq {before after : Exchange} (hfront : after.frontRoster = before.frontRoster)
    (hback : after.backRoster = before.backRoster) : RostersGrow before after where
  front := by
    rw [hfront]
    exact List.Subset.refl _
  back near hnear := by
    rw [hback] at hnear
    exact .inl hnear

theorem rostersGrow_step {exchange : Exchange} (h : exchange.Books) (event : Event) :
    RostersGrow exchange (exchange.step event) := by
  unfold step
  split
  · exact .of_eq rfl rfl
  · rename_i proxy' net' hnext
    cases event with
    | acceptPublisher =>
        obtain ⟨near, between, haccept, rfl, rfl⟩ := Proxy.acceptPublisher_eq_some hnext
        obtain ⟨hwaits, hothers, -, -⟩ := Network.accept_eq_some haccept
        have hsame := waitingAt_of_listeners (Network.recedes_dropWriter between near).listeners
        have hback := hothers exchange.proxy.back (Ne.symm h.roster.apart)
        exact {
          front := by
            -- the first of those that wait is now the last pump: the same list, cut at another place
            simp only [frontRoster, frontEnds, hsame, hwaits, Array.toList_push, List.map_append,
              List.map_cons, List.map_nil, List.append_assoc, List.singleton_append]
            exact List.Subset.refl _
          back := by
            intro other hother
            simp only [backRoster, backEnds, hsame, hback] at hother
            exact .inl hother }
    | acceptSubscriber =>
        obtain ⟨near, haccept, rfl⟩ := Proxy.acceptSubscriber_eq_some hnext
        obtain ⟨hwaits, hothers, -, -⟩ := Network.accept_eq_some haccept
        have hfront := hothers exchange.proxy.front h.roster.apart
        exact {
          front := by
            simp only [frontRoster, frontEnds, hfront]
            exact List.Subset.refl _
          back := by
            intro other hother
            refine .inl ?_
            simp only [backRoster, backEnds, Array.toList_push, List.map_append, List.map_cons,
              List.map_nil, List.append_assoc, List.singleton_append] at hother
            rw [backRoster, hwaits]
            exact hother }
    | pumpPublisher index =>
        obtain ⟨pump, pump', bodies, attached, hpump, hsocket, hproxy, hrecedes, -⟩ :=
          h.pumpPublisher_spec hnext
        have hsame := waitingAt_of_listeners hrecedes.listeners
        subst hproxy
        refine .of_eq ?_ ?_
        · simp only [frontRoster, frontEnds, hsame]
          rw [map_toList_set hpump hsocket]
        · simp only [backRoster, backEnds, hsame]
    | pumpSubscriber index =>
        obtain ⟨pump, pump', piece, hpump, hkept⟩ := h.pumpSubscriber_spec hnext
        have hsame := waitingAt_of_listeners hkept.moves.listeners
        obtain ⟨attached, hproxy⟩ := hkept.result
        subst hproxy
        refine .of_eq ?_ ?_
        · simp only [frontRoster, frontEnds, Proxy.setSubscriber, hsame]
        · simp only [backRoster, backEnds, Proxy.setSubscriber, hsame]
          rw [map_toList_set hpump hkept.socket]
    | cancel =>
        cases hnext
        exact .of_eq rfl rfl
    | join id =>
        cases hnext
        exact {
          front := by
            intro near hnear
            rcases List.mem_append.1 hnear with hend | hwaits
            · exact List.mem_append_left _ hend
            · exact List.mem_append_right _ (waitingAt_subset_join _ _ hwaits)
          back := by
            intro near hnear
            rcases List.mem_append.1 hnear with hend | hwaits
            · exact .inl (List.mem_append_left _ hend)
            · rcases Books.mem_waitingAt_join hwaits with hold | rfl
              · exact .inl (List.mem_append_right _ hold)
              · exact .inr (Nat.le_succ _) }
    | far connection deed =>
        cases hnext
        obtain ⟨piece, hmoves⟩ := exists_moves_perform exchange.net (2 * connection) deed
        have hsame := waitingAt_of_listeners hmoves.listeners
        refine .of_eq ?_ ?_
        · simp only [frontRoster, hsame]
        · simp only [backRoster, hsame]

/-! ## What some events leave alone -/

/-- What events leave alone in which far ends are used as `uses` says, and written to as `writes` says. -/
structure Evolves (uses writes : SocketId → Prop) (before after : Exchange) : Prop where
  size : before.net.sockets.size ≤ after.net.sockets.size
  cancelled : after.proxy.isCancelled = before.proxy.isCancelled
  frontId : after.proxy.front = before.proxy.front
  destination : ∀ url, after.net.destination url = before.net.destination url
  undisturbed : ∀ far : Nat, far % 2 = 0 → far < before.net.sockets.size → ¬ uses far →
    Undisturbed far before after
  sent : ∀ near : Nat, near % 2 = 1 → ¬ writes (peerOf near) →
    after.journal.arrived near = before.journal.arrived near
  silent : (∀ far, ¬ writes far) → (∀ id, before.journal.arrived id = []) →
    ∀ id, after.journal.arrived id = []
  rosters : RostersGrow before after
  subscribers : before.proxy.subscribers.size ≤ after.proxy.subscribers.size
  started : ∀ index, index < before.proxy.subscribers.size →
    after.journal.started index = before.journal.started index

namespace Evolves

variable {uses writes : SocketId → Prop} {before between after : Exchange}

theorem refl (uses writes : SocketId → Prop) (exchange : Exchange) :
    Evolves uses writes exchange exchange where
  size := Nat.le_refl _
  cancelled := rfl
  frontId := rfl
  destination _ := rfl
  undisturbed _ _ _ _ := ⟨rfl, fun _ _ _ h => h⟩
  sent _ _ _ := rfl
  silent _ hsilent := hsilent
  rosters := .of_eq rfl rfl
  subscribers := Nat.le_refl _
  started _ _ := rfl

theorem trans (first : Evolves uses writes before between) (second : Evolves uses writes between after) :
    Evolves uses writes before after where
  size := Nat.le_trans first.size second.size
  cancelled := second.cancelled.trans first.cancelled
  frontId := second.frontId.trans first.frontId
  destination url := (second.destination url).trans (first.destination url)
  undisturbed far heven hin huses := by
    have hfirst := first.undisturbed far heven hin huses
    have hsecond := second.undisturbed far heven (Nat.lt_of_lt_of_le hin first.size) huses
    exact {
      writeHeld := hsecond.writeHeld.trans hfirst.writeHeld
      reads := fun stream bodies hsocket hreads =>
        hsecond.reads stream bodies hsocket (hfirst.reads stream bodies hsocket hreads) }
  sent near hodd hwrites := (second.sent near hodd hwrites).trans (first.sent near hodd hwrites)
  silent hquiet hsilent := second.silent hquiet (first.silent hquiet hsilent)
  rosters := {
    front := List.Subset.trans first.rosters.front second.rosters.front
    back := by
      intro near hnear
      rcases second.rosters.back near hnear with hbetween | hnew
      · exact first.rosters.back near hbetween
      · exact .inr (Nat.le_trans first.size hnew) }
  subscribers := Nat.le_trans first.subscribers second.subscribers
  started index hindex := by
    rw [second.started index (Nat.lt_of_lt_of_le hindex first.subscribers)]
    exact first.started index hindex

/-- Who may use more leaves less alone. -/
theorem mono (h : Evolves uses writes before after) {uses' writes' : SocketId → Prop}
    (huses : ∀ far, uses far → uses' far) (hwrites : ∀ far, writes far → writes' far) :
    Evolves uses' writes' before after :=
  { h with
    undisturbed := fun far heven hin hnot => h.undisturbed far heven hin fun hused => hnot (huses far hused)
    sent := fun near hodd hnot => h.sent near hodd fun hwritten => hnot (hwrites _ hwritten)
    silent := fun hquiet => h.silent fun far hwritten => hquiet far (hwrites far hwritten) }

end Evolves

/-- What an event leaves of the parts of a proxy that no pump changes. -/
theorem proxy_step {exchange : Exchange} (h : exchange.Books) (event : Event)
    (hevent : event ≠ .cancel) :
    (exchange.step event).proxy.isCancelled = exchange.proxy.isCancelled ∧
      (exchange.step event).proxy.front = exchange.proxy.front ∧
      exchange.proxy.subscribers.size ≤ (exchange.step event).proxy.subscribers.size := by
  unfold step
  split
  · exact ⟨rfl, rfl, Nat.le_refl _⟩
  · rename_i proxy' net' hnext
    cases event with
    | acceptPublisher =>
        obtain ⟨_, _, -, rfl, rfl⟩ := Proxy.acceptPublisher_eq_some hnext
        exact ⟨rfl, rfl, Nat.le_refl _⟩
    | acceptSubscriber =>
        obtain ⟨_, -, rfl⟩ := Proxy.acceptSubscriber_eq_some hnext
        refine ⟨rfl, rfl, ?_⟩
        simp only [Array.size_push]
        exact Nat.le_succ _
    | pumpPublisher index =>
        obtain ⟨pump, pump', bodies, attached, -, -, hproxy, -⟩ := h.pumpPublisher_spec hnext
        subst hproxy
        exact ⟨rfl, rfl, Nat.le_refl _⟩
    | pumpSubscriber index =>
        obtain ⟨pump, pump', piece, -, hkept⟩ := h.pumpSubscriber_spec hnext
        obtain ⟨attached, hproxy⟩ := hkept.result
        subst hproxy
        refine ⟨rfl, rfl, ?_⟩
        simp only [Proxy.setSubscriber, Array.size_setIfInBounds]
        exact Nat.le_refl _
    | cancel => exact absurd rfl hevent
    | join id =>
        cases hnext
        exact ⟨rfl, rfl, Nat.le_refl _⟩
    | far connection deed =>
        cases hnext
        exact ⟨rfl, rfl, Nat.le_refl _⟩

theorem started_step (exchange : Exchange) (event : Event) {index : Nat}
    (hindex : index < exchange.proxy.subscribers.size) :
    (exchange.step event).journal.started index = exchange.journal.started index := by
  unfold step
  split
  · rfl
  · exact if_pos hindex

/-- What one event leaves alone. -/
theorem evolves_step {exchange : Exchange} (h : exchange.Books) {event : Event}
    (hevent : event ≠ .cancel) :
    Evolves (fun far => event.Uses far) (fun far => event.Writes far) exchange
      (exchange.step event) where
  size := by
    have heffect := effect_step h event
    generalize (exchange.step event).net = after at heffect ⊢
    cases heffect with
    | moves hsockets destination hmoves holder source =>
        exact Nat.le_of_eq (by rw [hmoves.size, hsockets])
    | join id =>
        rw [Network.size_join]
        exact Nat.le_add_right _ _
  cancelled := (proxy_step h event hevent).1
  frontId := (proxy_step h event hevent).2.1
  destination url := by
    have heffect := effect_step h event
    generalize (exchange.step event).net = after at heffect ⊢
    cases heffect with
    | moves hsockets destination hmoves holder source => exact destination url
    | join id => exact Network.destination_join _ id url
  undisturbed far heven hin huses := undisturbed_step h event heven hin huses
  sent near hodd hwrites := sent_step h event hodd hwrites
  silent hquiet hsilent := silent_step h event hquiet hsilent
  rosters := rostersGrow_step h event
  subscribers := (proxy_step h event hevent).2.2
  started index hindex := started_step exchange event hindex

/-! ## Far ends in use -/

/-- How a network changes while somebody uses some far ends without writing, and connects. -/
inductive Used (uses : SocketId → Prop) (net : Network) : Network → Prop where
  | refl : Used uses net net
  | take {between : Network} (h : Used uses net between) {far : Nat} (heven : far % 2 = 0)
      (hfar : uses far) : Used uses net (between.take far).2
  | dropWriter {between : Network} (h : Used uses net between) {far : Nat} (heven : far % 2 = 0)
      (hfar : uses far) : Used uses net (between.dropWriter far)
  | dropReader {between : Network} (h : Used uses net between) {far : Nat} (heven : far % 2 = 0)
      (hfar : uses far) : Used uses net (between.dropReader far)
  | join {between : Network} (h : Used uses net between) (id : ListenerId) : Used uses net (between.join id)

theorem Used.mono {uses uses' : SocketId → Prop} {net net' : Network} (h : Used uses net net')
    (huses : ∀ far, uses far → uses' far) : Used uses' net net' := by
  induction h with
  | refl => exact .refl
  | take _ heven hfar ih => exact .take ih heven (huses _ hfar)
  | dropWriter _ heven hfar ih => exact .dropWriter ih heven (huses _ hfar)
  | dropReader _ heven hfar ih => exact .dropReader ih heven (huses _ hfar)
  | join _ id ih => exact .join ih id

/-- One event that is not a pump's. -/
theorem exists_step {exchange : Exchange} (h : exchange.Books) {event : Event} {net : Network}
    (hnext : next? exchange.proxy exchange.net event = some (exchange.proxy, net)) :
    ∃ journal, exchange.step event = ⟨exchange.proxy, net, journal⟩ ∧
      Books ⟨exchange.proxy, net, journal⟩ := by
  have hstep : exchange.step event = ⟨exchange.proxy, net,
      note exchange.journal event exchange.proxy exchange.net exchange.proxy net⟩ := by
    rw [step, hnext]
  refine ⟨_, hstep, ?_⟩
  rw [← hstep]
  exact books_step h event

/-- Who uses far ends without writing sends nothing. -/
theorem arrivedBetween_perform (net : Network) (far : SocketId) {deed : Deed}
    (hquiet : ∀ other, ¬ Event.Writes other (.far (far / 2) deed)) (id : SocketId) :
    arrivedBetween net (deed.perform net far) id = [] := by
  cases deed with
  | write bytes offset => exact absurd rfl (hquiet (2 * (far / 2)))
  | take => exact arrivedBetween_of_recedes (Network.recedes_take net far) id
  | dropWriter => exact arrivedBetween_of_recedes (Network.recedes_dropWriter net far) id
  | dropReader => exact arrivedBetween_of_recedes (Network.recedes_dropReader net far) id
  | close => exact arrivedBetween_of_recedes (Network.recedes_close net far) id

/-- Whoever uses one far end more, without writing, keeps the books and leaves the others alone. -/
theorem Evolves.perform {exchange : Exchange} {uses : SocketId → Prop} {between : Network}
    {journal : Journal} {far : Nat} (hbooks : Books ⟨exchange.proxy, between, journal⟩)
    (hevolves : Evolves uses (fun _ => False) exchange ⟨exchange.proxy, between, journal⟩)
    (harrived : journal.arrived = exchange.journal.arrived) (heven : far % 2 = 0) (hfar : uses far)
    (deed : Deed) (hquiet : ∀ other, ¬ Event.Writes other (.far (far / 2) deed)) :
    ∃ journal', Books ⟨exchange.proxy, deed.perform between far, journal'⟩ ∧
      Evolves uses (fun _ => False) exchange ⟨exchange.proxy, deed.perform between far, journal'⟩ ∧
      journal'.arrived = exchange.journal.arrived := by
  have hfar' : 2 * (far / 2) = far := by omega
  have hone := evolves_step hbooks (Event.noConfusion : Event.far (far / 2) deed ≠ .cancel)
  have hnext : next? exchange.proxy between (.far (far / 2) deed) =
      some (exchange.proxy, deed.perform between (2 * (far / 2))) := rfl
  have hsame := arrived_step ⟨exchange.proxy, between, journal⟩ (.far (far / 2) deed)
  obtain ⟨journal', hstep, hbooks'⟩ := exists_step hbooks hnext
  rw [hstep, hfar'] at hone hsame
  rw [hfar'] at hbooks'
  refine ⟨journal', hbooks', hevolves.trans (hone.mono ?_ hquiet), ?_⟩
  · intro other hother
    have hother : @Eq Nat (2 * (far / 2)) other := hother
    rw [hfar'] at hother
    exact hother ▸ hfar
  · rw [← harrived]
    funext id
    rw [hsame, arrivedBetween_perform between far hquiet, List.append_nil]

/-- Whoever uses far ends without writing keeps the books and leaves the other far ends alone. -/
theorem evolves_of_used {exchange : Exchange} (h : exchange.Books) {uses : SocketId → Prop}
    {net : Network} (hused : Used uses exchange.net net) :
    ∃ journal, Books ⟨exchange.proxy, net, journal⟩ ∧
      Evolves uses (fun _ => False) exchange ⟨exchange.proxy, net, journal⟩ ∧
      journal.arrived = exchange.journal.arrived := by
  induction hused with
  | refl => exact ⟨exchange.journal, h, .refl _ _ _, rfl⟩
  | take _ heven hfar ih =>
      obtain ⟨journal, hbooks, hevolves, harrived⟩ := ih
      exact hevolves.perform hbooks harrived heven hfar .take fun _ => id
  | dropWriter _ heven hfar ih =>
      obtain ⟨journal, hbooks, hevolves, harrived⟩ := ih
      exact hevolves.perform hbooks harrived heven hfar .dropWriter fun _ => id
  | dropReader _ heven hfar ih =>
      obtain ⟨journal, hbooks, hevolves, harrived⟩ := ih
      exact hevolves.perform hbooks harrived heven hfar .dropReader fun _ => id
  -- a connection that is made is an event by itself, and uses no far end
  | @join between _ id ih =>
      obtain ⟨journal, hbooks, hevolves, harrived⟩ := ih
      have hsame := arrived_step ⟨exchange.proxy, between, journal⟩ (.join id)
      have hone := evolves_step hbooks (Event.noConfusion : Event.join id ≠ .cancel)
      have hnext : next? exchange.proxy between (.join id) = some (exchange.proxy, between.join id) := rfl
      obtain ⟨journal', hstep, hbooks'⟩ := exists_step hbooks hnext
      rw [hstep] at hone hsame
      refine ⟨journal', hbooks', hevolves.trans (hone.mono (fun _ => False.elim) fun _ => False.elim), ?_⟩
      rw [← harrived]
      funext other
      rw [hsame, arrivedBetween_join, List.append_nil]

end Exchange

end DeviceBus
