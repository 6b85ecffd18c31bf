import DeviceBus.Proofs.Device.Account
import DeviceBus.Proofs.Publisher.Sending
import DeviceBus.Proofs.Registry.Lookup

/-!
# The life of a publisher

What a publisher is, is told by its state and by whether it holds a connection; what it has done, by what its
connection has carried.  Whatever the calls of its owner find, and wherever they fail, the three fit
together.

* `Publisher.Call`, `Publisher.reply`: the calls of an owner, each with what its attempts find.
* `Publisher.Operated`, `Publisher.operated_reply`: everything that a call besides publishing can come to.
* `Publisher.Life`, `Publisher.Life.step`: a publisher with what its last connection has carried and what was
  reported as sent on it.
* `Publisher.Life.Sound`, `Publisher.Life.sound_step`: the books of a life, which every call keeps.
* `Publisher.publisher_lifecycle`: what holds after every run of calls.
-/

namespace DeviceBus.Publisher

/-! ## Calls -/

/-- A call of the owner of a publisher, with what its attempts find. -/
inductive Call where
  | operate (operation : Operation) (net : Network)
  | dialRetrying (net : Network) (later : List Network)
  | publish (address : Address) (payload : ByteArray) (net : Network) (later : List Network)

namespace Call

/-- What the attempts of a call find. -/
def found : Call → List Network
  | .operate _ net => [net]
  | .dialRetrying net later => net :: later
  | .publish _ _ net later => net :: later

/-- Whether a call is to make a connection. -/
def isDial : Call → Bool
  | .operate .dial _ => true
  | .dialRetrying _ _ => true
  | _ => false

/-- The message that a call is to send, if there is one. -/
def message? (publisher : Publisher) : Call → Option Message
  | .publish address payload _ _ => (publisher.messageTo payload address).toOption
  | _ => none

end Call

/-- What a call comes to. -/
def reply (publisher : Publisher) : Call → Reply
  | .operate operation net =>
      let (answer, after, last) := publisher.perform net operation
      ⟨some answer, after, last, publisher.added net last⟩
  | .dialRetrying net later =>
      let (answer, after, last) := publisher.dialRetrying net later
      ⟨some answer, after, last, publisher.added net last⟩
  | .publish address payload net later => publisher.publish address payload net later

/-- Everything that a call besides publishing can come to.  None adds anything to the connection; those that
fail change nothing. -/
inductive Operated (publisher : Publisher) (call : Call) : Reply → Prop where
  | still (error : BusError) {net : Network} (found : net ∈ call.found) :
      Operated publisher call ⟨some (.error error), publisher, net, []⟩
  | done {after : Publisher} {last : Network} (noDial : call.isDial = false) (coherent : after.Coherent)
      (kept : after.state = .connected → publisher.state = .connected) :
      Operated publisher call ⟨some (.ok ()), after, last, []⟩
  | dialed {after : Publisher} {last : Network} (dial : call.isDial = true) (coherent : after.Coherent) :
      Operated publisher call ⟨some (.ok ()), after, last, []⟩

section Calls

variable {publisher : Publisher}

theorem writer_of_not_connected (h : publisher.Coherent) (hstate : publisher.state ≠ .connected) :
    publisher.writer = none := by
  cases hwriter : publisher.writer with
  | none => rfl
  | some socket => exact absurd (h.2 (by rw [hwriter]; rfl)) hstate

theorem coherent_of_not_connected (hstate : publisher.state ≠ .connected) (hwriter : publisher.writer = none) :
    publisher.Coherent := by
  rw [Coherent, hwriter]
  exact iff_of_false hstate Bool.false_ne_true

theorem opened_ne_connected : EndpointState.opened ≠ .connected := by decide

theorem closed_ne_connected : EndpointState.closed ≠ .connected := by decide

theorem added_of_writer (hwriter : publisher.writer = none) (before after : Network) :
    publisher.added before after = [] := by
  rw [added, hwriter]

/-- A dial fails and changes nothing, or it makes an open publisher connected. -/
theorem dial_cases (publisher : Publisher) (net : Network) :
    (∃ error, publisher.dial net = (.error error, publisher, net)) ∨
      publisher.state = .opened ∧ ∃ socket after, net.connect publisher.url = .ok (socket, after) ∧
        publisher.dial net =
          (.ok (), { publisher with state := .connected, writer := some socket }, after.dropReader socket) := by
  rw [dial]
  split
  · exact .inl ⟨_, rfl⟩
  · rename_i hopen
    cases hconnect : net.connect publisher.url with
    | error fault => exact .inl ⟨_, rfl⟩
    | ok connection => exact .inr ⟨not_not.1 hopen, connection.1, connection.2, rfl, rfl⟩

/-- An open publisher can connect exactly where its address can be reached. -/
theorem dial_eq_ok_iff (hstate : publisher.state = .opened) (net : Network) :
    (publisher.dial net).1 = .ok () ↔ ∃ connection, net.connect publisher.url = .ok connection := by
  rw [dial, if_neg (not_not.2 hstate)]
  cases net.connect publisher.url with
  | error fault =>
      refine iff_of_false (fun h => ?_) ?_
      · cases h
      · rintro ⟨_, h⟩
        cases h
  | ok connection => exact iff_of_true rfl ⟨connection, rfl⟩

/-- Dialling with retries is the dial of one of its attempts, and of the first one where the publisher is not
open. -/
theorem exists_dialRetrying_eq (publisher : Publisher) (net : Network) (later : List Network) :
    ∃ last ∈ net :: later, publisher.dialRetrying net later = publisher.dial last ∧
      (publisher.state ≠ .opened → last = net) := by
  induction later generalizing net with
  | nil => exact ⟨net, List.mem_cons_self, rfl, fun _ => rfl⟩
  | cons next later ih =>
      unfold dialRetrying
      split
      · rename_i fault _ _ hcons hdial
        obtain ⟨rfl, rfl⟩ := List.cons.inj hcons
        obtain ⟨last, hlast, heq, -⟩ := ih next
        refine ⟨last, List.mem_cons_of_mem _ hlast, heq, fun hstate => ?_⟩
        rw [dial, if_pos hstate] at hdial
        cases hdial
      · exact ⟨net, List.mem_cons_self, rfl, fun _ => rfl⟩

theorem operated_of_dial (h : publisher.Coherent) {call : Call} (hcall : call.isDial = true) {net : Network}
    (hfound : net ∈ call.found) (before : Network) (hbefore : publisher.state ≠ .opened → net = before) :
    Operated publisher call ⟨some (publisher.dial net).1, (publisher.dial net).2.1, (publisher.dial net).2.2,
      publisher.added before (publisher.dial net).2.2⟩ := by
  rcases publisher.dial_cases net with ⟨error, hdial⟩ | ⟨hopen, socket, after, -, hdial⟩
  · rw [hdial]
    dsimp only
    have hnothing : publisher.added before net = [] := by
      by_cases hopen : publisher.state = .opened
      · exact added_of_writer (writer_of_not_connected h (by rw [hopen]; decide)) before net
      · rw [hbefore hopen, added_self]
    rw [hnothing]
    exact .still error hfound
  · rw [hdial]
    dsimp only
    rw [added_of_writer (writer_of_not_connected h (by rw [hopen]; decide))]
    exact .dialed hcall (iff_of_true rfl rfl)

/-- Every call besides publishing adds nothing to the connection, and changes nothing where it fails. -/
theorem operated_reply (h : publisher.Coherent) {call : Call}
    (hcall : ∀ address payload net later, call ≠ .publish address payload net later) :
    Operated publisher call (publisher.reply call) := by
  cases call with
  | publish address payload net later => exact absurd rfl (hcall address payload net later)
  | dialRetrying net later =>
      obtain ⟨last, hfound, hdial, hfirst⟩ := publisher.exists_dialRetrying_eq net later
      simp only [reply, hdial]
      exact operated_of_dial h rfl hfound net hfirst
  | operate operation net =>
      cases operation with
      | dial => exact operated_of_dial h rfl List.mem_cons_self net fun _ => rfl
      | openUp =>
          simp only [reply, perform, openUp]
          rw [added_self]
          split
          · rename_i hclosed
            have hnone := writer_of_not_connected h (by rw [hclosed]; decide)
            exact .done rfl (coherent_of_not_connected opened_ne_connected hnone) fun hstate =>
              absurd hstate opened_ne_connected
          · exact .still _ List.mem_cons_self
      | addTopic head method =>
          simp only [reply, perform, addTopic]
          rw [added_self]
          rcases publisher.registry.add_cases head method none with ⟨-, hadd⟩ | ⟨fault, -, hadd⟩
          · rw [hadd]
            exact .done rfl h id
          · rw [hadd]
            exact .still _ List.mem_cons_self
      | close =>
          simp only [reply, perform, close]
          split
          · rw [added_self]
            exact .still _ List.mem_cons_self
          · rw [added_lose]
            exact .done rfl (coherent_of_not_connected closed_ne_connected rfl) fun hstate =>
              absurd hstate closed_ne_connected

end Calls

/-! ## Runs -/

/-- Whether a call has returned without an error. -/
def Reply.isOk (reply : Reply) : Bool :=
  match reply.answer with
  | some (.ok ()) => true
  | _ => false

/-- A publisher, what the connection that it dialed last has carried, and the messages that were reported as
sent on it. -/
structure Life where
  publisher : Publisher
  /-- the last call has not returned and never will -/
  waiting : Bool := false
  carried : List UInt8 := []
  sent : List Message := []

namespace Life

/-- The life of a publisher that was just made. -/
def create (url : Url) : Life := { publisher := .create url }

/-- A life as it goes on after a call has come to something. -/
def after (life : Life) (call : Call) (reply : Reply) : Life :=
  if call.isDial && reply.isOk then { publisher := reply.publisher }
  else
    { publisher := reply.publisher
      waiting := reply.answer.isNone
      carried := life.carried ++ reply.added
      sent := life.sent ++ if reply.isOk then (call.message? life.publisher).toList else [] }

/-- One call, if the one before it has returned. -/
def step (life : Life) (call : Call) : Life :=
  if life.waiting then life else life.after call (life.publisher.reply call)

/-- All calls of a list, one after the other. -/
def run (life : Life) (calls : List Call) : Life := calls.foldl step life

/-- The books of a life: its connection has carried the frames of what was reported as sent on it, and a part
of one more frame at most, which is there only if the call that sent it has failed or not returned. -/
structure Sound (life : Life) : Prop where
  coherent : life.publisher.Coherent
  fits : ∀ message ∈ life.sent, message.encode.size ≤ Frame.maxLength
  line : ∃ rest, life.carried = Message.frames life.sent ++ rest ∧ Frame.complete rest = [] ∧
    (life.publisher.state = .connected → life.waiting = false → rest = [])

theorem sound_create (url : Url) : (create url).Sound where
  coherent := coherent_of_not_connected closed_ne_connected rfl
  fits := fun _ hmem => absurd hmem List.not_mem_nil
  line := ⟨[], rfl, Frame.complete_nil, fun _ _ => rfl⟩

theorem sound_dialed {publisher : Publisher} (h : publisher.Coherent) : Sound { publisher } where
  coherent := h
  fits := fun _ hmem => absurd hmem List.not_mem_nil
  line := ⟨[], rfl, Frame.complete_nil, fun _ _ => rfl⟩

/-- Less than a frame holds no frame. -/
theorem complete_of_less {body : ByteArray} (hfits : body.size ≤ Frame.maxLength) {part : List UInt8}
    (hbegins : part <+: Frame.bytes body) (hless : part ≠ Frame.bytes body) : Frame.complete part = [] := by
  have hpart := List.prefix_iff_eq_take.1 hbegins
  rw [hpart]
  refine Frame.complete_take_bytes hfits (Nat.lt_of_le_of_ne hbegins.length_le fun hlength => ?_)
  exact hless (hbegins.eq_of_length hlength)

namespace Sound

variable {life : Life}

/-- A call that adds nothing keeps the books. -/
theorem quiet (h : life.Sound) {publisher : Publisher} (hcoherent : publisher.Coherent)
    (hkept : publisher.state = .connected → life.publisher.state = .connected)
    (hwaiting : life.waiting = false) :
    Sound ⟨publisher, false, life.carried ++ [], life.sent ++ []⟩ := by
  obtain ⟨rest, hcarried, hrest, hidle⟩ := h.line
  rw [List.append_nil, List.append_nil]
  exact ⟨hcoherent, h.fits, rest, hcarried, hrest, fun hconnected _ => hidle (hkept hconnected) hwaiting⟩

/-- While a publisher is connected and no call is under way, whole frames have been carried. -/
theorem carried_eq (h : life.Sound) (hstate : life.publisher.state = .connected)
    (hwaiting : life.waiting = false) : life.carried = Message.frames life.sent := by
  obtain ⟨rest, hcarried, -, hidle⟩ := h.line
  rw [hcarried, hidle hstate hwaiting, List.append_nil]

/-- A connection carries the whole frames of what was reported as sent, and no others. -/
theorem complete_carried (h : life.Sound) :
    Frame.complete life.carried = life.sent.map Message.encode := by
  obtain ⟨rest, hcarried, hrest, -⟩ := h.line
  have hframes : Message.frames life.sent = (life.sent.map Message.encode).flatMap Frame.bytes := by
    rw [Message.frames, List.flatMap_map]
  rw [hcarried, hframes, Frame.complete_append_frames, hrest, List.append_nil]
  intro body hbody
  obtain ⟨message, hmessage, rfl⟩ := List.mem_map.1 hbody
  exact h.fits message hmessage

/-- Publishing keeps the books, whatever it comes to. -/
theorem published (h : life.Sound) (hwaiting : life.waiting = false) {address : Address}
    {payload : ByteArray} {net : Network} {later : List Network} {reply : Reply}
    (hpublished : Published life.publisher address payload net reply) :
    (life.after (.publish address payload net later) reply).Sound := by
  have hlost : life.publisher.disconnected.Coherent := coherent_of_not_connected opened_ne_connected rfl
  cases hpublished with
  | invalid => exact h.quiet h.coherent id hwaiting
  | refused => exact h.quiet h.coherent id hwaiting
  | tooLong => exact h.quiet hlost (fun hstate => absurd hstate opened_ne_connected) hwaiting
  | @sent message last right hmessage state fits =>
      have hmessages : (Call.message? life.publisher (.publish address payload net later)).toList =
          [message] := by
        rw [Call.message?, hmessage]
        rfl
      have hcarried : life.carried ++ Frame.bytes message.encode =
          Message.frames (life.sent ++ [message]) := by
        rw [h.carried_eq state hwaiting, Message.frames, Message.frames, List.flatMap_append,
          List.flatMap_singleton]
      show Sound ⟨life.publisher, false, life.carried ++ Frame.bytes message.encode,
        life.sent ++ (Call.message? life.publisher (.publish address payload net later)).toList⟩
      rw [hmessages]
      refine ⟨h.coherent, fun other hother => ?_, [], ?_, Frame.complete_nil, fun _ _ => rfl⟩
      · rcases List.mem_append.1 hother with hold | hnew
        · exact h.fits other hold
        · exact List.mem_singleton.1 hnew ▸ fits
      · rw [hcarried, List.append_nil]
  | @broken message fault last part right hmessage state fits begins less =>
      show Sound ⟨life.publisher.disconnected, false, life.carried ++ part, life.sent ++ []⟩
      rw [h.carried_eq state hwaiting, List.append_nil]
      exact ⟨hlost, h.fits, part, rfl, complete_of_less fits begins less, fun hstate =>
        absurd hstate opened_ne_connected⟩
  | @waiting message last part right hmessage state fits begins less =>
      show Sound ⟨life.publisher, true, life.carried ++ part, life.sent ++ []⟩
      rw [h.carried_eq state hwaiting, List.append_nil]
      exact ⟨h.coherent, h.fits, part, rfl, complete_of_less fits begins less, fun _ hreturned =>
        Bool.noConfusion hreturned⟩

/-- Every other call keeps the books, and a dial that succeeds begins new ones. -/
theorem operated (h : life.Sound) (hwaiting : life.waiting = false) {call : Call} {reply : Reply}
    (hmessage : call.message? life.publisher = none) (hoperated : Operated life.publisher call reply) :
    (life.after call reply).Sound := by
  rw [after]
  cases hoperated with
  | still error found =>
      rw [if_neg (by simp [Reply.isOk])]
      exact h.quiet h.coherent id hwaiting
  | done noDial coherent kept =>
      rw [if_neg (by simp [noDial]), hmessage]
      exact h.quiet coherent kept hwaiting
  | dialed dial coherent =>
      rw [if_pos (by simp [dial, Reply.isOk])]
      exact sound_dialed coherent

end Sound

/-- Every call keeps the books of a life. -/
theorem sound_step {life : Life} (h : life.Sound) (call : Call) : (life.step call).Sound := by
  rw [step]
  split
  · exact h
  · rename_i hreturned
    have hwaiting : life.waiting = false := Bool.eq_false_iff.2 hreturned
    cases call with
    | publish address payload net later =>
        exact h.published hwaiting (published_publish h.coherent address payload net later)
    | operate operation net =>
        exact h.operated hwaiting rfl (operated_reply h.coherent fun _ _ _ _ heq => Call.noConfusion heq)
    | dialRetrying net later =>
        exact h.operated hwaiting rfl (operated_reply h.coherent fun _ _ _ _ heq => Call.noConfusion heq)

/-- The books are right after every run. -/
theorem sound_run (url : Url) (calls : List Call) : ((create url).run calls).Sound :=
  List.foldlRecOn (motive := Sound) calls step (sound_create url) fun _ h call _ => sound_step h call

end Life

/-! ## What holds in every run -/

section Calls

variable {publisher : Publisher}

theorem outlet_ne_closed (h : publisher.Coherent) : publisher.outlet ≠ .error .closed := by
  by_cases hstate : publisher.state = .connected
  · obtain ⟨socket, houtlet⟩ := outlet_of_connected h hstate
    rw [houtlet]
    intro h
    cases h
  · rw [outlet_of_not_connected hstate]
    intro h
    cases h

/-- A call that is refused for the state or for a topic, and a dial that fails, changes nothing and adds
nothing to the connection. -/
theorem reply_of_refused (h : publisher.Coherent) {call : Call} {error : BusError}
    (herror : (publisher.reply call).answer = some (.error error))
    (hrefused : (∃ operation state, error = .invalidState operation state) ∨
      (∃ reason, error = .invalidTopic reason) ∨ call.isDial = true) :
    (publisher.reply call).publisher = publisher ∧ (publisher.reply call).net ∈ call.found ∧
      (publisher.reply call).added = [] := by
  by_cases hpublish : ∃ address payload net later, call = .publish address payload net later
  · obtain ⟨address, payload, net, later, rfl⟩ := hpublish
    have hpublished := published_publish h address payload net later
    -- an error of the transport is neither of the two, and publishing is no dial
    have htransport : ∀ operation fault, error ≠ .transport operation fault := by
      rintro operation fault rfl
      rcases hrefused with ⟨_, _, hstate⟩ | ⟨_, htopic⟩ | hdial
      · cases hstate
      · cases htopic
      · cases hdial
    rw [reply] at herror ⊢
    generalize publisher.publish address payload net later = reply at herror hpublished
    cases hpublished with
    | invalid => exact ⟨rfl, List.mem_cons_self, rfl⟩
    | refused => exact ⟨rfl, List.mem_cons_self, rfl⟩
    | sent => cases herror
    | waiting => cases herror
    | tooLong => exact absurd (Except.error.inj (Option.some.inj herror)).symm (htransport _ _)
    | broken => exact absurd (Except.error.inj (Option.some.inj herror)).symm (htransport _ _)
  · have hoperated : Operated publisher call (publisher.reply call) :=
      operated_reply h fun address payload net later heq => hpublish ⟨address, payload, net, later, heq⟩
    generalize publisher.reply call = reply at herror hoperated
    cases hoperated with
    | still error found => exact ⟨rfl, found, rfl⟩
    | done => cases herror
    | dialed => cases herror

/-- Publishing that succeeds adds the frame of the message. -/
theorem added_of_ok {address : Address} {payload : ByteArray} {net : Network} {reply : Reply}
    (h : Published publisher address payload net reply) (hok : reply.answer = some (.ok ())) :
    ∃ message frame, publisher.messageTo payload address = .ok message ∧
      Frame.encode message.encode = .ok frame ∧ reply.added = bytesOf frame ∧ reply.publisher = publisher := by
  cases h with
  | sent right hmessage state fits =>
      obtain ⟨frame, hframe, hbytes⟩ := Frame.exists_encode fits
      exact ⟨_, frame, hmessage, hframe, hbytes.symm, rfl⟩
  | invalid => cases hok
  | refused => cases hok
  | tooLong => cases hok
  | broken => cases hok
  | waiting => cases hok

/-- Publishing that fails in the transport adds less than the frame, and leaves the publisher open. -/
theorem left_of_transport {address : Address} {payload : ByteArray} {net : Network} {reply : Reply}
    (h : Published publisher address payload net reply) {operation : String} {fault : SystemFault}
    (herror : reply.answer = some (.error (.transport operation fault))) :
    reply.publisher = publisher.disconnected ∧
      ∃ message, publisher.messageTo payload address = .ok message ∧
        reply.added <+: Frame.bytes message.encode ∧ reply.added ≠ Frame.bytes message.encode ∧
        (Frame.maxLength < message.encode.size →
          reply.added = [] ∧ reply.net = (publisher.lose net).2) := by
  cases h with
  | tooLong right hmessage state long =>
      exact ⟨rfl, _, hmessage, List.nil_prefix, (Frame.bytes_ne_nil _).symm, fun _ => ⟨rfl, rfl⟩⟩
  | broken right hmessage state fits begins less =>
      exact ⟨rfl, _, hmessage, begins, less, fun hlong => absurd hlong (Nat.not_lt_of_le fits)⟩
  | invalid => cases herror
  | refused => cases herror
  | sent => cases herror
  | waiting => cases herror

/-- Publishing is refused for its topic, or for the state, or fails in the transport if at all. -/
theorem answer_of_published {address : Address} {payload : ByteArray} {net : Network} {reply : Reply}
    (h : Published publisher address payload net reply) :
    (address.Wrong publisher ∧ ∃ reason, reply.answer = some (.error (.invalidTopic reason))) ∨
    (¬address.Wrong publisher ∧ publisher.state ≠ .connected ∧
      reply.answer = some (.error (.invalidState "publish" publisher.state.name))) ∨
    (¬address.Wrong publisher ∧ publisher.state = .connected ∧
      ∀ error, reply.answer = some (.error error) → ∃ fault, error = .transport "send" fault) := by
  cases h with
  | invalid wrong reason => exact .inl ⟨wrong, reason, rfl⟩
  | refused right state => exact .inr (.inl ⟨right, state, rfl⟩)
  | tooLong right hmessage state long =>
      refine .inr (.inr ⟨right, state, fun error herror => ⟨.frameTooBig, ?_⟩⟩)
      exact (Except.error.inj (Option.some.inj herror)).symm
  | @broken _ fault _ _ right hmessage state fits begins less =>
      refine .inr (.inr ⟨right, state, fun error herror => ⟨fault, ?_⟩⟩)
      exact (Except.error.inj (Option.some.inj herror)).symm
  | sent right hmessage state fits =>
      refine .inr (.inr ⟨right, state, fun error herror => ?_⟩)
      cases herror
  | waiting right hmessage state fits begins less =>
      refine .inr (.inr ⟨right, state, fun error herror => ?_⟩)
      cases herror

/-- Publishing is refused for its topic exactly if there is something wrong with that, and otherwise for the
state exactly if the publisher is not connected; any other error is one of the transport. -/
theorem error_of_published {address : Address} {payload : ByteArray} {net : Network} {reply : Reply}
    (h : Published publisher address payload net reply) :
    ((∃ reason, reply.answer = some (.error (.invalidTopic reason))) ↔ address.Wrong publisher) ∧
    (¬address.Wrong publisher → (reply.answer = some (.error (.invalidState "publish" publisher.state.name)) ↔
      publisher.state ≠ .connected)) ∧
    (∀ error, reply.answer = some (.error error) → (∃ reason, error = .invalidTopic reason) ∨
      error = .invalidState "publish" publisher.state.name ∨ ∃ fault, error = .transport "send" fault) := by
  rcases answer_of_published h with
    ⟨wrong, reason, hanswer⟩ | ⟨right, state, hanswer⟩ | ⟨right, state, htransport⟩
  · refine ⟨iff_of_true ⟨reason, hanswer⟩ wrong, fun right => absurd wrong right, fun error herror => ?_⟩
    obtain rfl := Except.error.inj (Option.some.inj (hanswer.symm.trans herror))
    exact .inl ⟨reason, rfl⟩
  · refine ⟨iff_of_false ?_ right, fun _ => iff_of_true hanswer state, fun error herror => ?_⟩
    · rintro ⟨reason, htopic⟩
      cases hanswer.symm.trans htopic
    · obtain rfl := Except.error.inj (Option.some.inj (hanswer.symm.trans herror))
      exact .inr (.inl rfl)
  · refine ⟨iff_of_false ?_ right, fun _ => iff_of_false (fun hstate => ?_) (not_not.2 state),
      fun error herror => .inr (.inr (htransport error herror))⟩
    · rintro ⟨reason, htopic⟩
      obtain ⟨_, hne⟩ := htransport _ htopic
      cases hne
    · obtain ⟨_, hne⟩ := htransport _ hstate
      cases hne

end Calls

/-- **The life of a publisher.**  After every sequence of calls, whatever their attempts find:

* a publisher is connected exactly while it holds the half for writing of a connection, so it never finds its
  connection missing where it sends;
* the connection that it dialed last has carried the whole frames of what was reported as sent on it and no
  others, and nothing else as long as it is connected and no call is under way;
* a call that is refused for the state or for a topic, and a dial that fails, changes nothing and adds nothing
  to the connection;
* publishing that succeeds adds the frame of the message to the connection;
* publishing that fails in the transport leaves the publisher open without its connection and otherwise as it
  was, so that it connects again where its address can be reached; it has added less than the frame, and
  nothing of a body that is too long;
* publishing is refused for its topic exactly if the topic has a fault or the index was not given out,
  whatever the state is; otherwise it is refused for the state exactly if the publisher is not connected; and
  every other error is one of the transport.

Publishing on a device in which everything else goes on is publishing in this sense. -/
theorem publisher_lifecycle (url : Url) (calls : List Call) :
    let life := (Life.create url).run calls
    let publisher := life.publisher
    ((publisher.state = .connected ↔ publisher.writer.isSome = true) ∧ publisher.outlet ≠ .error .closed) ∧
    (Frame.complete life.carried = life.sent.map Message.encode ∧
      (publisher.state = .connected → life.waiting = false →
        life.carried = Message.frames life.sent)) ∧
    (∀ call error, (publisher.reply call).answer = some (.error error) →
      (∃ operation state, error = .invalidState operation state) ∨
        (∃ reason, error = .invalidTopic reason) ∨ call.isDial = true →
      (publisher.reply call).publisher = publisher ∧ (publisher.reply call).net ∈ call.found ∧
        (publisher.reply call).added = []) ∧
    (∀ address payload net later,
      let reply := publisher.reply (.publish address payload net later)
      (reply.answer = some (.ok ()) → ∃ message frame,
        publisher.messageTo payload address = .ok message ∧ Frame.encode message.encode = .ok frame ∧
          reply.added = bytesOf frame ∧ reply.publisher = publisher) ∧
      (∀ operation fault, reply.answer = some (.error (.transport operation fault)) →
        reply.publisher = { publisher with state := .opened, writer := none } ∧
        (∀ net, (reply.publisher.dial net).1 = .ok () ↔
          ∃ connection, net.connect publisher.url = .ok connection) ∧
        ∃ message, publisher.messageTo payload address = .ok message ∧
          reply.added <+: Frame.bytes message.encode ∧ reply.added ≠ Frame.bytes message.encode ∧
          (Frame.maxLength < message.encode.size →
            reply.added = [] ∧ reply.net = (publisher.lose net).2)) ∧
      ((∃ reason, reply.answer = some (.error (.invalidTopic reason))) ↔ address.Wrong publisher) ∧
      (¬address.Wrong publisher →
        (reply.answer = some (.error (.invalidState "publish" publisher.state.name)) ↔
          publisher.state ≠ .connected)) ∧
      (∀ error, reply.answer = some (.error error) → (∃ reason, error = .invalidTopic reason) ∨
        error = .invalidState "publish" publisher.state.name ∨ ∃ fault, error = .transport "send" fault)) ∧
    (∀ (η : Type) (device : Device η) behaviour id address payload,
      device.publishers[id]? = some publisher → ∃ net later,
        Device.Agrees id (device.publishTo behaviour id payload address)
          (publisher.reply (.publish address payload net later))) := by
  intro life publisher
  have hsound : life.Sound := Life.sound_run url calls
  have hcoherent : publisher.Coherent := hsound.coherent
  refine ⟨⟨hcoherent, outlet_ne_closed hcoherent⟩, ⟨hsound.complete_carried, hsound.carried_eq⟩,
    fun call error => reply_of_refused hcoherent, ?_, ?_⟩
  · intro address payload net later reply
    have hpublished : Published publisher address payload net reply :=
      published_publish hcoherent address payload net later
    obtain ⟨htopic, hstate, herrors⟩ := error_of_published hpublished
    refine ⟨added_of_ok hpublished, fun operation fault herror => ?_, htopic, hstate, herrors⟩
    obtain ⟨hleft, hmessage⟩ := left_of_transport hpublished herror
    rw [hleft]
    exact ⟨rfl, dial_eq_ok_iff rfl, hmessage⟩
  · intro η device behaviour id address payload hpublisher
    exact Device.exists_publish_eq hpublisher behaviour address payload

end DeviceBus.Publisher
