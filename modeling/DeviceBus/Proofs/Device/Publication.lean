import DeviceBus.Proofs.Device.Session
import DeviceBus.Proofs.Transport.Frames
import DeviceBus.Proofs.Transport.Network

/-!
# Publishing as a run

The owner of a device publishes with one operation, which writes the whole frame and waits in between until
there is room.  For a session this is a run like any other: somebody begins to publish, then come steps of
the device and writes.  The message counts as published exactly if the operation reports that it was sent.

* `Session.carriesTo_follow`: following a device is a run of activities.
* `Session.exists_run_writeFrom`: writing a frame is a run of activities and writes.
* `Session.exists_run_send`, `Session.exists_run_publish`: so is publishing.
-/

namespace DeviceBus

namespace Session

variable {η : Type}

/-- An event that carries on what a publisher is sending: the device goes a step on, or the publisher writes
the next piece. -/
def Event.Carries (id : PublisherId) : Event η → Prop
  | .activity _ => True
  | .write other => @Eq Nat id other
  | _ => False

/-- A session gets to another one by carrying on what a publisher is sending. -/
def CarriesTo (behaviour : Behaviour η) (id : PublisherId) (session session' : Session η) : Prop :=
  ∃ events : List (Event η), (∀ event ∈ events, event.Carries id) ∧
    session.run behaviour events = session'

namespace CarriesTo

variable {behaviour : Behaviour η} {id : PublisherId} {session between session' : Session η}

theorem refl : CarriesTo behaviour id session session := ⟨[], nofun, rfl⟩

theorem trans (first : CarriesTo behaviour id session between)
    (second : CarriesTo behaviour id between session') : CarriesTo behaviour id session session' := by
  obtain ⟨events, hevents, hfirst⟩ := first
  obtain ⟨events', hevents', hsecond⟩ := second
  refine ⟨events ++ events', fun event hevent => ?_, ?_⟩
  · exact (List.mem_append.1 hevent).elim (hevents event) (hevents' event)
  · rw [run, List.foldl_append, ← run, ← run, hfirst, hsecond]

theorem step {event : Event η} (hevent : event.Carries id) :
    CarriesTo behaviour id session (session.step behaviour event) :=
  ⟨[event], fun _ hother => List.mem_singleton.1 hother ▸ hevent, rfl⟩

end CarriesTo

section Runs

variable {session : Session η} {behaviour : Behaviour η} {id : PublisherId}

/-- Following a device is a run of activities. -/
theorem carriesTo_follow (session : Session η) (behaviour : Behaviour η) (id : PublisherId) (steps : Nat) :
    CarriesTo behaviour id session
      { session with device := session.device.follow behaviour steps } := by
  induction steps generalizing session with
  | zero => exact .refl
  | succ steps ih =>
      rw [Device.follow]
      split
      · rename_i device hnext
        obtain ⟨activity, -, hperform⟩ := List.exists_of_findSome?_eq_some hnext
        have hstep : session.step behaviour (.activity activity) = { session with device } := by
          rw [Session.step, hperform]
        have hfirst : CarriesTo behaviour id session { session with device } := by
          rw [← hstep]
          exact .step trivial
        exact hfirst.trans (ih { session with device })
      · exact .refl

theorem carriesTo_awaitRoom (session : Session η) (behaviour : Behaviour η) (id : PublisherId)
    (socket : SocketId) :
    CarriesTo behaviour id session
      { session with device := session.device.awaitRoom behaviour socket } := by
  unfold Device.awaitRoom
  split
  · exact .refl
  · split
    · exact carriesTo_follow session behaviour id _
    · exact .refl

/-- Where a session is when a frame was written, or the connection failed, or nothing moves any more:
`before` was published earlier, and `entry` is what is sent. -/
inductive Finished (before : List (SocketId × Message)) (entry : SocketId × Message) (id : PublisherId) :
    Written × Device η → Session η → Prop where
  | complete {session : Session η} {device : Device η} (here : session.device = device)
      (idle : session.sending id = none) (published : session.published = before ++ [entry]) :
      Finished before entry id (.complete, device) session
  | failed {session : Session η} {device : Device η} (fault : SystemFault)
      (lost : session.device = (device.loseConnection id fault).2) (idle : session.sending id = none)
      (published : session.published = before) :
      Finished before entry id (.failed fault, device) session
  | stuck {session : Session η} {device : Device η} (here : session.device = device)
      (busy : session.sending id ≠ none) (published : session.published = before) :
      Finished before entry id (.stuck, device) session

theorem sending_setSending (session : Session η) (id : PublisherId) (outgoing : Option Outgoing) :
    (session.setSending id outgoing).sending id = outgoing := if_pos rfl

/-- Writing a frame is a run of activities and writes. -/
theorem exists_run_writeFrom {outgoing : Outgoing} (hsending : session.sending id = some outgoing)
    (hinside : outgoing.written < outgoing.frame.size) :
    ∃ session', CarriesTo behaviour id session session' ∧
      Finished session.published (outgoing.socket, outgoing.message) id
        (session.device.writeFrom behaviour outgoing.socket outgoing.frame outgoing.written) session' := by
  -- induction on what is left of the frame, for every write that goes on makes that less
  induction hleft : outgoing.frame.size - outgoing.written using Nat.strongRecOn
    generalizing session outgoing with
  | ind left ih =>
      rw [Device.writeFrom, if_neg (Nat.not_le_of_lt hinside)]
      have hawait := carriesTo_awaitRoom session behaviour id outgoing.socket
      generalize session.device.awaitRoom behaviour outgoing.socket = device at hawait
      have hevent : (Event.write id : Event η).Carries id := rfl
      have hwrite : CarriesTo behaviour id session (({ session with device }).write id) :=
        hawait.trans (.step hevent)
      dsimp only
      cases hresult : device.net.write outgoing.socket outgoing.frame outgoing.written with
      | error fault =>
          refine ⟨_, hwrite, .failed fault ?_ ?_ ?_⟩ <;> simp only [write, hsending, hresult]
          · rfl
          · exact sending_setSending _ id none
          · rfl
      | ok written =>
          obtain ⟨count, net⟩ := written
          dsimp only
          by_cases hnothing : count = 0
          · rw [if_pos hnothing]
            -- there is still no room after waiting for it
            refine ⟨_, hawait, .stuck rfl ?_ rfl⟩
            rw [hsending]
            exact Option.some_ne_none outgoing
          · rw [if_neg hnothing]
            simp only [write, hsending, hresult] at hwrite
            by_cases hall : outgoing.written + count = outgoing.frame.size
            · rw [if_pos hall] at hwrite
              rw [Device.writeFrom, if_pos (Nat.le_of_eq hall.symm)]
              exact ⟨_, hwrite, .complete rfl (sending_setSending _ id none) rfl⟩
            · rw [if_neg hall] at hwrite
              obtain ⟨-, hcount, -⟩ := Network.delivers_write hresult
              have hless : outgoing.frame.size - (outgoing.written + count) < left := by omega
              obtain ⟨session', hrest, hfinished⟩ := ih _ hless
                (sending_setSending _ id (some { outgoing with written := outgoing.written + count }))
                (show outgoing.written + count < outgoing.frame.size by omega) rfl
              exact ⟨session', hwrite.trans hrest, hfinished⟩

/-- What publishing comes to for a session: the device is where the operation leaves it, and the message is
published exactly if the operation reports that it was sent.  Only a publisher that waits for ever is still
sending. -/
structure Reported (before : List (SocketId × Message)) (id : PublisherId) (message : Message)
    (result : Publication × Device η) (session : Session η) : Prop where
  device : session.device = result.2
  sent : result.1 = .sent → ∃ socket, session.published = before ++ [(socket, message)]
  unsent : result.1 ≠ .sent → session.published = before
  idle : result.1 ≠ .waiting → session.sending id = none

/-- An operation that fails at once leaves a session as it is. -/
theorem Reported.of_refused {message : Message} (hidle : session.sending id = none) (error : BusError) :
    Reported session.published id message (.failed error, session.device) session where
  device := rfl
  sent := nofun
  unsent _ := rfl
  idle _ := hidle

/-- Sending a message as the device does it is a run of a session. -/
theorem exists_run_send (hidle : session.sending id = none) (message : Message) :
    ∃ session', CarriesTo behaviour id (session.send id message) session' ∧
      Reported session.published id message (session.device.send behaviour id message) session' := by
  unfold send Device.send
  cases hpublisher : session.device.publishers[id]? with
  | none => exact ⟨_, .refl, .of_refused hidle _⟩
  | some publisher =>
      dsimp only
      cases houtlet : publisher.outlet with
      | error error => exact ⟨_, .refl, .of_refused hidle _⟩
      | ok socket =>
          cases hframe : Frame.encode message.encode with
          | error fault =>
              exact ⟨_, .refl, {
                device := rfl
                sent := nofun
                unsent := fun _ => rfl
                idle := fun _ => sending_setSending _ id none }⟩
          | ok frame =>
              dsimp only
              obtain ⟨session', hcarries, hfinished⟩ := exists_run_writeFrom
                (sending_setSending session id (some { message, socket, frame }))
                (Frame.size_pos_of_encode hframe)
              refine ⟨session', hcarries, ?_⟩
              rw [Device.write]
              change Finished session.published (socket, message) id
                (session.device.writeFrom behaviour socket frame 0) session' at hfinished
              generalize session.device.writeFrom behaviour socket frame 0 = result at hfinished ⊢
              cases hfinished with
              | complete here idle published =>
                  exact {
                    device := here
                    sent := fun _ => ⟨socket, published⟩
                    unsent := fun hunsent => absurd rfl hunsent
                    idle := fun _ => idle }
              | failed fault lost idle published =>
                  exact {
                    device := lost
                    sent := nofun
                    unsent := fun _ => published
                    idle := fun _ => idle }
              | stuck here busy published =>
                  exact {
                    device := here
                    sent := nofun
                    unsent := fun _ => published
                    idle := fun hwaiting => absurd rfl hwaiting }

/-- Publishing as the device does it is a run of a session: somebody begins to publish, and the rest carries
this on. -/
theorem exists_run_publish (hidle : session.sending id = none) {head method : String} {message : Message}
    {payload : ByteArray} (hmessage : Publisher.message head method payload = .ok message) :
    ∃ session', CarriesTo behaviour id
        (session.step behaviour (.publish id head method payload)) session' ∧
      Reported session.published id message (session.device.publish behaviour id head method payload)
        session' := by
  simp only [step, hidle, hmessage, Device.publish]
  exact exists_run_send hidle message

/-- The same for a message of a registered topic. -/
theorem exists_run_publishRegistered (hidle : session.sending id = none) {publisher : Publisher}
    {index : Nat} {payload : ByteArray} {message : Message}
    (hpublisher : session.device.publishers[id]? = some publisher)
    (hmessage : publisher.registeredMessage index payload = .ok message) :
    ∃ session', CarriesTo behaviour id
        (session.step behaviour (.publishRegistered id index payload)) session' ∧
      Reported session.published id message
        (session.device.publishRegistered behaviour id index payload) session' := by
  simp only [step, hidle, hpublisher, hmessage, Device.publishRegistered]
  exact exists_run_send hidle message

end Runs

end Session

end DeviceBus
