import DeviceBus.Proofs.Device.Steps

/-!
# Subscribers that listen

A subscriber listens from the moment when the proxy has accepted it and it is armed.  As long as it stays
so, its loop delivers every frame that arrives in turn, and its pump at the proxy leaves nothing out.

* `Session.Attentive`: the subscriber is connected and armed, with a handler of its own for all messages,
  and not too far behind.
* `Session.Attends`: the loop and the pump that serve it.
* `Session.Heeded`: what its handler was given is what its loop has read and its filters accept, and its
  pump has skipped nothing.
* `Session.heard_step`, `Session.heeded_step`: every event that leaves the subscriber attentive keeps this.
* `Session.Unspoken`: nobody has published anything so far.
-/

namespace DeviceBus

open Exchange (Books Undisturbed)
open Network (peerOf)

namespace Session

variable {η : Type}

/-- The proxy has accepted a subscriber, which is connected, armed with a handler and a number of filters,
and has no more broadcast bodies unread than the proxy keeps for it. -/
def Attentive (id : SubscriberId) (handler : η) (filters : Filters) (session : Session η) : Prop :=
  ∃ subscriber ∈ session.device.subscribers[id]?, ∃ loop ∈ subscriber.receive,
    ∃ proxy ∈ session.device.proxies[0]?, ∃ pump ∈ proxy.subscribers.toList,
      subscriber.state = .connected ∧
      subscriber.receiveState (session.device.isStopped subscriber) = .armed ∧
      loop.target = .direct handler ∧ subscriber.subscription.filters = filters ∧
      pump.stream.socket = peerOf loop.stream.socket ∧
      proxy.fanout.unread pump.cursor ≤ Fanout.capacity

instance decidableAttentive [DecidableEq η] (id : SubscriberId) (handler : η) (filters : Filters) :
    DecidablePred (Attentive id handler filters) :=
  fun session => inferInstanceAs (Decidable (∃ subscriber ∈ session.device.subscribers[id]?, _))

/-- The calls that a handler gets for some bodies. -/
def callsFor (filters : Filters) (handler : η) (bodies : List ByteArray) : List (Call η) :=
  bodies.filterMap fun body =>
    if filters.accepts body then (Message.decode body).toOption.map (Call.mk handler) else none

/-- The loop of an attentive subscriber and the pump that serves it. -/
structure Attends (session : Session η) (proxy : Proxy) (id : SubscriberId) (handler : η)
    (filters : Filters) (subscriber : Subscriber η) (loop : ReceiveLoop η) (index : Nat)
    (pump : BackPump) : Prop where
  found : session.device.subscribers[id]? = some subscriber
  receives : subscriber.receive = some loop
  going : loop.ended = none
  free : (loop.isCancelled || session.device.isStopped subscriber) = false
  target : loop.target = .direct handler
  accepts : subscriber.subscription.filters = filters
  serves : proxy.subscribers[index]? = some pump
  socket : pump.stream.socket = peerOf loop.stream.socket
  unread : proxy.fanout.unread pump.cursor ≤ Fanout.capacity

/-- The calls that a handler got are those for the bodies that its loop has read. -/
structure Heard (net : Network) (arrived : List UInt8) (calls : List (Call η)) (handler : η)
    (filters : Filters) (loop : ReceiveLoop η) (bodies : List ByteArray) : Prop where
  reads : loop.stream.Reads net arrived bodies
  fits : ∀ body ∈ bodies, body.size ≤ Frame.maxLength
  calls : calls = callsFor filters handler bodies

/-- What an attentive subscriber has heard is what its loop has read, and its pump has skipped nothing since
the first broadcast. -/
structure Heeded (session : Session η) (proxy : Proxy) (journal : Journal) (id : SubscriberId)
    (handler : η) (filters : Filters) (loop : ReceiveLoop η) (index : Nat) (pump : BackPump)
    (bodies : List ByteArray) : Prop where
  heard : Heard session.device.net (journal.arrived loop.stream.socket) (session.heard id) handler filters
    loop bodies
  skipped : pump.cursor.skipped = 0
  started : journal.started index = 0

/-- A loop is armed when it goes on and nobody has told it to stop. -/
theorem armed_iff {subscriber : Subscriber η} {stopped : Bool} {loop : ReceiveLoop η}
    (hloop : subscriber.receive = some loop) :
    subscriber.receiveState stopped = .armed ↔
      loop.ended = none ∧ (loop.isCancelled || stopped) = false := by
  unfold Subscriber.receiveState
  rw [hloop]
  dsimp only
  split
  · rename_i hended
    refine iff_of_false nofun fun hgoing => ?_
    rw [hgoing.1] at hended
    cases hended
  · rename_i hgoing
    have hnone : loop.ended = none := by simpa using hgoing
    split
    · rename_i hstopping
      refine iff_of_false nofun fun hfree => ?_
      rw [hfree.2] at hstopping
      cases hstopping
    · rename_i hfree
      exact iff_of_true rfl ⟨hnone, by simpa using hfree⟩

section Account

variable {session session' : Session η} {proxy proxy' : Proxy} {journal journal' : Journal}
  {id : SubscriberId} {handler : η} {filters : Filters} {subscriber subscriber' : Subscriber η}
  {loop loop' : ReceiveLoop η} {index index' : Nat} {pump pump' : BackPump} {bodies : List ByteArray}

theorem Attentive.exists_attends (h : Account session proxy journal)
    (hattentive : Attentive id handler filters session) :
    ∃ subscriber loop index pump,
      Attends session proxy id handler filters subscriber loop index pump := by
  obtain ⟨subscriber, hsubscriber, loop, hloop, found, hproxy, pump, hpump, -, harmed, htarget, hfilters,
    hsocket, hunread⟩ := hattentive
  rw [h.proxies] at hproxy
  cases hproxy
  obtain ⟨index, hindex, hpump⟩ := List.getElem_of_mem hpump
  obtain ⟨hgoing, hfree⟩ := (armed_iff hloop).1 harmed
  exact ⟨subscriber, loop, index, pump, {
    found := hsubscriber
    receives := hloop
    going := hgoing
    free := hfree
    target := htarget
    accepts := hfilters
    serves := by
      rw [← hpump, ← Array.getElem?_toList]
      exact List.getElem?_eq_getElem hindex
    socket := hsocket
    unread := hunread }⟩

/-- An attentive subscriber was not given up, so it finds its connection. -/
theorem Attends.attached (h : Account session proxy journal)
    (hattends : Attends session proxy id handler filters subscriber loop index pump) :
    subscriber.isDropped = false ∧ subscriber.Attached session.device.net journal.arrived := by
  -- a subscriber that was given up has told its loop to stop
  have hinOrder := h.subscribers id subscriber hattends.found
  have howned : subscriber.isDropped = false := by
    cases hdropped : subscriber.isDropped with
    | false => rfl
    | true =>
        have hcancelled := hinOrder.dropped hdropped loop hattends.receives
        have hfree := hattends.free
        rw [hcancelled] at hfree
        cases hfree
  exact ⟨howned, hinOrder.owned howned⟩

/-! ## The loop -/

/-- What a subscriber has heard after its loop has gone a step on. -/
theorem heard_callsWith (subscriber : Subscriber η) (net : Network) (call : Option (Call η)) :
    (session.setSubscriber id subscriber net (session.callsWith id call)).heard id =
      session.heard id ++ call.toList := by
  cases call <;> simp [heard, setSubscriber, callsWith]

theorem callsFor_append (filters : Filters) (handler : η) (first second : List ByteArray) :
    callsFor filters handler (first ++ second) =
      callsFor filters handler first ++ callsFor filters handler second :=
  List.filterMap_append

/-- A handler for all messages is called for the message of every body that is accepted. -/
theorem call_deliver (subscription : Subscription η) (behaviour : Behaviour η) (handler : η)
    (body : ByteArray) :
    (subscription.deliver behaviour (.direct handler) body).call.toList =
      callsFor subscription.filters handler [body] := by
  unfold Subscription.deliver Subscription.accepted?
  cases haccepts : subscription.filters.accepts body with
  | false => simp [callsFor, haccepts]
  | true =>
      cases hdecode : Message.decode body with
      | error => simp [callsFor, hdecode, Except.toOption]
      | ok message =>
          simp [callsFor, haccepts, hdecode, Except.toOption, Subscription.deliverDirect]

/-- A loop whose subscriber is attentive before and after a step of it has read what it has delivered. -/
theorem heard_of_receive {behaviour : Behaviour η} {next : ReceiveLoop.Step η}
    (h : Account session proxy journal)
    (hattends : Attends session proxy id handler filters subscriber loop index pump)
    (hheard : Heard session.device.net (journal.arrived loop.stream.socket) (session.heard id) handler
      filters loop bodies)
    (hnext : loop.step subscriber.subscription behaviour (session.device.isStopped subscriber)
      session.device.net = some next) (hgoing : next.loop.ended = none) :
    next.loop.stream.socket = loop.stream.socket ∧ ∃ bodies',
      Heard next.net (journal.arrived loop.stream.socket) (session.heard id ++ next.call.toList) handler
        filters next.loop bodies' := by
  have hholds : subscriber.Holds loop.stream.socket := .inr (.inr ⟨loop, hattends.receives, rfl⟩)
  have heven := (h.held (.subscriber id) _ ⟨subscriber, hattends.found, hholds⟩).1
  refine ⟨(ReceiveLoop.keptBy_step heven hnext).socket, ?_⟩
  have hadvanced := ReceiveLoop.advanced_step hheard.reads hnext
  cases hadvanced with
  | canceled => cases hgoing
  | hungry reads => exact ⟨bodies, reads, hheard.fits, by simpa using hheard.calls⟩
  | @frame _ body reads fits =>
      have hcrash : (subscriber.subscription.deliver behaviour loop.target body).crash = none := by
        simpa [ReceiveLoop.react] using hgoing
      refine ⟨bodies ++ [body], ?_, ?_, ?_⟩
      · simp only [ReceiveLoop.react, hcrash, Option.isSome_none, Bool.false_eq_true, if_false]
        exact reads
      · intro other hother
        rcases List.mem_append.1 hother with hold | hnew
        · exact hheard.fits other hold
        · rw [List.mem_singleton.1 hnew]
          exact fits
      · rw [callsFor_append, ← hheard.calls, ← hattends.accepts,
          ← call_deliver subscriber.subscription behaviour, ← hattends.target]
        rfl
  | ends lost => exact absurd (ReceiveLoop.keepsReader_of_going hgoing) lost

theorem getElem?_setSubscriber (hsubscriber : session.device.subscribers[id]? = some subscriber)
    (subscriber' : Subscriber η) (net : Network) (calls : Array (SubscriberId × Call η)) :
    (session.setSubscriber id subscriber' net calls).device.subscribers[id]? = some subscriber' := by
  obtain ⟨hinside, -⟩ := Array.getElem?_eq_some_iff.1 hsubscriber
  simp only [setSubscriber]
  exact Array.getElem?_setIfInBounds_self_of_lt hinside

/-- No operation gives an attentive subscriber another loop. -/
theorem loop_of_performed {subscriber' : Subscriber η} {net net' : Network} (hcoherent : subscriber.Coherent)
    (hperformed : subscriber.Performed net subscriber' net') (hloop : subscriber.receive = some loop)
    (hloop' : subscriber'.receive = some loop') : loop' = loop ∧ net' = net := by
  have hreader := hcoherent.reader_of_receive hloop
  cases hperformed with
  | stopped h =>
      cases h with
      | rearranged h =>
          rcases h.receive loop' hloop' with hsame | hstream
          · cases hsame.symm.trans hloop
            exact ⟨rfl, rfl⟩
          · rw [hreader] at hstream
            cases hstream
      | detached h =>
          rw [h.receive] at hloop'
          cases hloop'
  | dialed _ _ _ receive =>
      rw [receive] at hloop'
      cases hloop'

/-- An attentive subscriber that stays attentive has heard what its loop has read. -/
theorem heard_step (h : Account session proxy journal) (behaviour : Behaviour η) {event : Event η}
    (hattends : Attends session proxy id handler filters subscriber loop index pump)
    (hheard : Heard session.device.net (journal.arrived loop.stream.socket) (session.heard id) handler
      filters loop bodies)
    (hmoved : Moved session proxy journal (fun id => event.ActsOn id) (session.step behaviour event)
      proxy' journal')
    (hattends' : Attends (session.step behaviour event) proxy' id handler filters subscriber' loop' index'
      pump') :
    loop'.stream.socket = loop.stream.socket ∧ ∃ bodies',
      Heard (session.step behaviour event).device.net (journal'.arrived loop.stream.socket)
        ((session.step behaviour event).heard id) handler filters loop' bodies' := by
  have hfound' := hattends'.found
  have hreceives' := hattends'.receives
  by_cases hacts : event.ActsOn id
  -- its own loop has gone on, or its owner has done something with it
  · obtain ⟨howned, hattached⟩ := hattends.attached h
    obtain ⟨-, harrived⟩ := hmoved.own id hacts
    rw [harrived]
    cases event with
    | activity activity =>
        cases activity with
        | receive other =>
            cases (hacts : @Eq Nat id other)
            cases hnext : loop.step subscriber.subscription behaviour
                (session.device.isStopped subscriber) session.device.net with
            | none =>
                have hstep : session.step behaviour (.activity (.receive id)) = session := by
                  simp [step, Device.perform, Device.performReceive, hattends.found, hattends.receives,
                    hnext, Subscriber.collectDropped, howned]
                rw [hstep] at hfound' ⊢
                cases hfound'.symm.trans hattends.found
                cases hreceives'.symm.trans hattends.receives
                exact ⟨rfl, bodies, hheard⟩
            | some next =>
                rw [step_receive hattends.found hattends.receives hnext] at hfound' ⊢
                rw [getElem?_setSubscriber hattends.found] at hfound'
                cases hfound'
                cases hreceives'
                rw [heard_callsWith]
                exact heard_of_receive h hattends hheard hnext hattends'.going
        | _ => exact False.elim hacts
    | subscriber other operation =>
        cases (hacts : @Eq Nat id other)
        have hperformed : subscriber.Performed session.device.net _ _ :=
          Subscriber.performed_perform hattached.coherent
            (fun socket hholds => (h.held (.subscriber id) socket ⟨subscriber, hattends.found, hholds⟩).1)
            (session.device.isStopped subscriber) operation
        rw [step_perform behaviour operation hattends.found howned] at hfound' ⊢
        rw [getElem?_setSubscriber hattends.found] at hfound'
        cases hfound'
        obtain ⟨rfl, hnet⟩ :=
          loop_of_performed hattached.coherent hperformed hattends.receives hreceives'
        refine ⟨rfl, bodies, ?_, hheard.fits, hheard.calls⟩
        show loop'.stream.Reads (subscriber.perform _ _ operation).2.2 _ _
        rw [hnet]
        exact hheard.reads
    | dropSubscriber other =>
        cases (hacts : @Eq Nat id other)
        -- a subscriber that is given up does not stay attentive
        have hfree' := hattends'.free
        rw [step_dropSubscriber behaviour hattends.found howned] at hfound'
        rw [getElem?_setSubscriber hattends.found] at hfound'
        cases hfound'
        obtain ⟨old, -, rfl⟩ := Option.map_eq_some_iff.1 hreceives'
        cases hfree'
    | _ => exact False.elim hacts
  -- somebody else has done something, at another socket
  · obtain ⟨hkept, hsame, hundisturbed⟩ := hmoved.others id subscriber hacts hattends.found
    cases hfound'.symm.trans hkept
    cases hreceives'.symm.trans hattends.receives
    have hloop := hundisturbed loop.stream.socket (.inr (.inr ⟨loop, hattends.receives, rfl⟩))
    exact ⟨rfl, bodies, hloop.reads loop.stream bodies rfl hheard.reads, hheard.fits,
      hsame.trans hheard.calls⟩

/-! ## The pump -/

/-- Only one pump serves a connection. -/
theorem index_unique (h : Account session proxy journal) {first second : Nat} {pump pump' : BackPump}
    (hfirst : proxy.subscribers[first]? = some pump) (hsecond : proxy.subscribers[second]? = some pump')
    (hsame : pump.stream.socket = pump'.stream.socket) : first = second := by
  by_contra hne
  exact h.books.roster.back_ne_back hfirst hsecond hne hsame

/-- Every event that leaves a subscriber attentive leaves it heeded. -/
theorem heeded_step (h : Account session proxy journal) (behaviour : Behaviour η) {event : Event η}
    (hattends : Attends session proxy id handler filters subscriber loop index pump)
    (hheeded : Heeded session proxy journal id handler filters loop index pump bodies)
    (h' : Account (session.step behaviour event) proxy' journal')
    (hmoved : Moved session proxy journal (fun id => event.ActsOn id) (session.step behaviour event)
      proxy' journal')
    (hattends' : Attends (session.step behaviour event) proxy' id handler filters subscriber' loop' index'
      pump') :
    ∃ bodies', Heeded (session.step behaviour event) proxy' journal' id handler filters loop' index' pump'
      bodies' := by
  obtain ⟨hsocket, bodies', hheard⟩ := heard_step h behaviour hattends hheeded.heard hmoved hattends'
  obtain ⟨moved, hfound, hstill, hcursor⟩ := hmoved.pumps index pump hattends.serves
  -- the loop reads from the same socket, so the same pump serves it
  have hindex : index = index' := by
    refine index_unique h' hfound hattends'.serves ?_
    rw [hstill, hattends.socket, hattends'.socket, hsocket]
  subst hindex
  cases hfound.symm.trans hattends'.serves
  obtain ⟨hinside, -⟩ := Array.getElem?_eq_some_iff.1 hattends.serves
  exact ⟨bodies', {
    heard := by
      rw [hsocket]
      exact hheard
    skipped := by
      rcases hcursor with hsame | hreceived
      · rw [hsame]
        exact hheeded.skipped
      · have hspec := received_receive proxy.fanout pump.cursor
        generalize proxy.fanout.receive pump.cursor = result at hreceived hspec
        rw [hreceived]
        cases hspec with
        -- with no more unread bodies than are kept none is skipped
        | lagged lag => exact absurd hattends.unread (Nat.not_le_of_lt lag)
        | body => exact hheeded.skipped
        | nothing => exact hheeded.skipped
    started := (hmoved.started index hinside).trans hheeded.started }⟩

/-! ## Before anything is published -/

/-- Nobody sends anything, nothing has arrived anywhere, and no handler was called. -/
structure Unspoken (session : Session η) (journal : Journal) : Prop where
  sending : ∀ id, session.sending id = none
  calls : session.device.calls = #[]
  silent : ∀ id, journal.arrived id = []

/-- Where nothing has arrived no frame is read. -/
theorem bodies_of_silent {stream : Stream} {net : Network} (h : stream.Reads net [] bodies) :
    bodies = [] := by
  have hnone := (List.append_eq_nil_iff.1 h.account.symm).1
  rw [List.flatMap_eq_nil_iff] at hnone
  exact List.eq_nil_iff_forall_not_mem.2 fun body hbody => Frame.bytes_ne_nil body (hnone body hbody)

/-- Where nothing has arrived no handler is called. -/
theorem call_of_silent (h : Account session proxy journal) (hsilent : ∀ id, journal.arrived id = [])
    {behaviour : Behaviour η} {next : ReceiveLoop.Step η}
    (hsubscriber : session.device.subscribers[id]? = some subscriber)
    (hloop : subscriber.receive = some loop)
    (hnext : loop.step subscriber.subscription behaviour (session.device.isStopped subscriber)
      session.device.net = some next) : next.call = none := by
  have hinOrder := h.subscribers id subscriber hsubscriber
  have hgoing := ReceiveLoop.ended_of_step hnext
  cases hdropped : subscriber.isDropped with
  | true =>
      have hcancelled := hinOrder.dropped hdropped loop hloop
      rw [ReceiveLoop.step_eq, hgoing, hcancelled] at hnext
      cases hnext
      rfl
  | false =>
      have hkeeps := ReceiveLoop.keepsReader_of_going hgoing
      obtain ⟨-, hreceives⟩ := (hinOrder.owned hdropped).receive loop hloop
      obtain ⟨bodies, hreads⟩ := hreceives hkeeps
      have hadvanced := ReceiveLoop.advanced_step hreads hnext
      cases hadvanced with
      | canceled => rfl
      | hungry => rfl
      | frame reads =>
          rw [hsilent] at reads
          exact absurd (bodies_of_silent reads) (by simp)
      | ends => rfl

/-! Only a loop that goes on can call a handler. -/

theorem calls_performProxy {device device' : Device η} {number : ProxyId}
    {pump : Proxy → Network → Option (Proxy × Network)}
    (hperform : device.performProxy number pump = some device') : device'.calls = device.calls := by
  unfold Device.performProxy at hperform
  split at hperform
  · cases hperform
  · obtain ⟨result, -, rfl⟩ := Option.map_eq_some_iff.1 hperform
    rfl

theorem calls_fail (session : Session η) (id : PublisherId) (fault : SystemFault) :
    (session.fail id fault).device.calls = session.device.calls := by
  simp only [fail, setSending, Device.loseConnection, Device.withPublisher]
  split <;> rfl

theorem calls_send (session : Session η) (id : PublisherId) (message : Message) :
    (session.send id message).device.calls = session.device.calls := by
  unfold send
  split
  · rfl
  · split
    · rfl
    · exact calls_fail session id _
    · rfl

theorem calls_receive_of_silent (h : Account session proxy journal)
    (hsilent : ∀ id, journal.arrived id = []) {behaviour : Behaviour η} {device : Device η}
    (hperform : session.device.performReceive behaviour id = some device) :
    device.calls = session.device.calls := by
  unfold Device.performReceive at hperform
  split at hperform
  · cases hperform
  · rename_i subscriber hsubscriber
    split at hperform
    · cases hperform
    · rename_i loop hloop
      split at hperform
      · rename_i next hnext
        cases hperform
        rw [call_of_silent h hsilent hsubscriber hloop hnext]
      · obtain ⟨result, -, rfl⟩ := Option.map_eq_some_iff.1 hperform
        rfl

/-- No handler is called before anything is published. -/
theorem calls_step_of_silent (h : Account session proxy journal)
    (hsilent : ∀ id, journal.arrived id = []) (behaviour : Behaviour η) (event : Event η) :
    (session.step behaviour event).device.calls = session.device.calls := by
  cases event with
  | activity activity =>
      simp only [step]
      split
      · rename_i device hperform
        cases activity with
        | acceptPublisher => exact calls_performProxy hperform
        | acceptSubscriber => exact calls_performProxy hperform
        | receive => exact calls_receive_of_silent h hsilent hperform
        | pumpSubscriber =>
            rw [Device.perform] at hperform
            exact calls_performProxy hperform
        | pumpPublisher =>
            rw [Device.perform] at hperform
            exact calls_performProxy hperform
      · rfl
  | publisher id operation =>
      simp only [step, Device.withPublisher]
      split
      · rfl
      · split <;> rfl
  | publish id head method payload =>
      simp only [step]
      split
      · exact calls_send session id _
      · rfl
  | publishRegistered id index payload =>
      simp only [step]
      split
      · split
        · exact calls_send session id _
        · rfl
      · rfl
  | write id =>
      simp only [step, write]
      split
      · rfl
      · split
        · exact calls_fail session id _
        · split <;> rfl
  | dropPublisher id => exact calls_fail session id .unreachable
  | subscriber id operation =>
      simp only [step, Device.withSubscriber]
      split
      · rfl
      · split <;> rfl
  | dropSubscriber id =>
      simp only [step, Device.dropSubscriber, Device.withSubscriber]
      split
      · rfl
      · split <;> rfl
  | _ => rfl

/-- What begins no publishing leaves everything unspoken. -/
theorem unspoken_step (h : Account session proxy journal) (hunspoken : session.Unspoken journal)
    (behaviour : Behaviour η) {event : Event η} (hevent : ¬ event.Publishes)
    (hmoved : Moved session proxy journal (fun id => event.ActsOn id) (session.step behaviour event)
      proxy' journal') : (session.step behaviour event).Unspoken journal' where
  calls := (calls_step_of_silent h hunspoken.silent behaviour event).trans hunspoken.calls
  silent := hmoved.silent hunspoken.sending hunspoken.silent
  sending := by
    intro id
    have hidle := hunspoken.sending id
    cases event with
    | activity activity =>
        simp only [step]
        split <;> exact hidle
    | publisher other operation =>
        simp only [step]
        split <;> exact hidle
    | publish => exact absurd trivial hevent
    | publishRegistered => exact absurd trivial hevent
    | write other =>
        simp only [step, write, hunspoken.sending other]
        exact hidle
    | dropPublisher other =>
        simp only [step, setSending]
        split
        · rfl
        · exact hidle
    | subscriber other operation =>
        simp only [step]
        split <;> exact hidle
    | dropSubscriber other =>
        simp only [step]
        split <;> exact hidle
    | _ => exact hidle

/-- A subscriber that listens before anything is published is heeded from the beginning. -/
theorem heeded_of_unspoken (h : Account session proxy journal) (hunspoken : session.Unspoken journal)
    (hattends : Attends session proxy id handler filters subscriber loop index pump) :
    Heeded session proxy journal id handler filters loop index pump [] := by
  obtain ⟨-, hattached⟩ := hattends.attached h
  have hkeeps := ReceiveLoop.keepsReader_of_going hattends.going
  obtain ⟨bodies, hreads⟩ := (hattached.receive loop hattends.receives).2 hkeeps
  -- the log is empty, so the pump has started at its beginning
  have hlog := h.books.log_of_silent hunspoken.silent
  have hbook := h.books.subscribers index pump hattends.serves
  have hbound := hbook.bound
  have hcount := hbook.count
  dsimp only at hlog hbound hcount
  have hnone : bodies = [] := by
    rw [hunspoken.silent] at hreads
    exact bodies_of_silent hreads
  exact {
    heard := {
      reads := hnone ▸ hreads
      fits := nofun
      calls := by
        rw [heard, hunspoken.calls]
        rfl }
    skipped := by omega
    started := by omega }

end Account

end Session

end DeviceBus
