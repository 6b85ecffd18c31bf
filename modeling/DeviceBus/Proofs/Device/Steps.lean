import DeviceBus.Proofs.Device.Publishing

/-!
# Every event keeps the account

The account of a session begins when its proxy is bound, and every event keeps it.

* `Session.account_of_still`: new endpoints, and signals.
* `Session.account_proxy`: the activities of the proxy.
* `Session.account_step`, `Session.account_start`: every event, and the beginning.
-/

namespace DeviceBus

open Exchange (Books Evolves Undisturbed)
open Network (peerOf)

namespace Session

variable {η : Type} {session session' : Session η} {proxy : Proxy} {journal : Journal}

/-- What does not touch the network keeps the account, as long as no endpoint goes and what comes is in
order. -/
theorem account_of_still (h : Account session proxy journal)
    (hnet : session'.device.net = session.device.net)
    (hproxies : session'.device.proxies = session.device.proxies)
    (hfront : session'.front = session.front) (hpublished : session'.published = session.published)
    (hcalls : session'.device.calls = session.device.calls)
    (hholds : ∀ owner socket, session'.device.Holds owner socket → session.device.Holds owner socket)
    (hpublishers : EachAt session'.device.publishers fun id publisher => publisher.url = session.front ∧
      Line ⟨proxy, session.device.net, journal⟩ session.sentOn (session'.sending id) publisher)
    (hnobody : ∀ id, session'.device.publishers.size ≤ id → session'.sending id = none)
    (hsubscribers : EachAt session'.device.subscribers fun _ subscriber =>
      subscriber.InOrder session.device.net journal.arrived)
    (hkept : ∀ (id : SubscriberId) subscriber, session.device.subscribers[id]? = some subscriber →
      session'.device.subscribers[id]? = some subscriber) :
    Account session' proxy journal ∧
      Moved session proxy journal (fun _ => False) session' proxy journal := by
  have hevolves := Evolves.refl (fun _ => False) (fun _ => False)
    ⟨proxy, session.device.net, journal⟩
  have hsame : Evolves (fun _ => False) (fun _ => False) ⟨proxy, session.device.net, journal⟩
      ⟨proxy, session'.device.net, journal⟩ := by
    rw [hnet]
    exact hevolves
  have hsentOn := sentOn_of_published hpublished
  constructor
  · refine h.of_evolves (by rw [hnet]; exact h.books) hsame (hproxies.trans h.proxies) hfront ?_ ?_ ?_
      hnobody ?_ (h.lines_of_quiet hsame hpublished) ?_ (fun _ => False.elim)
    · rw [hnet]
      exact fun owner socket hholder => h.held owner socket (hholds owner socket hholder)
    · exact fun owner owner' socket hholder hholder' =>
        h.apart owner owner' socket (hholds owner socket hholder) (hholds owner' socket hholder')
    · rw [hnet, hsentOn, hfront]
      exact hpublishers
    · rw [hnet]
      exact hsubscribers
    · rw [hpublished]
      exact fun _ => .inl
  · exact {
      started := fun _ _ => rfl
      pumps := fun index pump hpump => ⟨pump, hpump, rfl, .inl rfl⟩
      others := by
        intro id subscriber _ hfound
        refine ⟨hkept id subscriber hfound, ?_, fun socket _ => ?_⟩
        · rw [heard, heard, hcalls]
        · rw [hnet]
          exact ⟨rfl, fun _ _ _ h => h⟩
      own := fun id hown => hown.elim
      silent := fun _ hsilent => hsilent }

theorem account_addPublisher (h : Account session proxy journal) (behaviour : Behaviour η) :
    Account (session.step behaviour .addPublisher) proxy journal ∧
      Moved session proxy journal (fun _ => False) (session.step behaviour .addPublisher) proxy
        journal := by
  have hidle : session.sending session.device.publishers.size = none := h.nobody _ (Nat.le_refl _)
  refine account_of_still h rfl rfl rfl rfl rfl ?_ ?_ ?_ h.subscribers fun _ _ hfound => hfound
  · rintro (id | id) socket hholder
    · obtain ⟨publisher, hpublisher, hwriter⟩ := hholder
      simp only [step, Device.addPublisher, Array.getElem?_push] at hpublisher
      split at hpublisher
      · cases hpublisher
        cases hwriter
      · exact ⟨publisher, hpublisher, hwriter⟩
    · exact hholder
  · refine h.publishers.push ⟨rfl, ?_⟩ fun _ _ _ hline => hline
    show Line _ _ (session.sending session.device.publishers.size) _
    rw [hidle]
    exact line_of_lost (fun entry hentry => absurd hentry List.not_mem_nil) rfl
  · intro id hid
    simp only [step, Device.addPublisher, Array.size_push] at hid
    exact h.nobody id (Nat.le_of_succ_le hid)

/-- A subscriber that was just created is in order. -/
theorem inOrder_create (net : Network) (arrived : SocketId → List UInt8) (url : Url)
    (signal : Option String) : (Subscriber.create url signal : Subscriber η).InOrder net arrived where
  owned _ := {
    coherent := Subscriber.coherent_create url signal
    link := nofun
    reader := nofun
    receive := by
      intro loop hloop
      cases hloop }
  dropped := nofun

theorem account_addSubscriber (h : Account session proxy journal) (behaviour : Behaviour η) (url : Url)
    (signal : Option String) :
    Account (session.step behaviour (.addSubscriber url signal)) proxy journal ∧
      Moved session proxy journal (fun _ => False)
        (session.step behaviour (.addSubscriber url signal)) proxy journal := by
  refine account_of_still h rfl rfl rfl rfl rfl ?_ h.publishers h.nobody ?_ ?_
  · rintro (id | id) socket hholder
    · exact hholder
    · obtain ⟨subscriber, hsubscriber, hholds⟩ := hholder
      simp only [step, Device.addSubscriber, Array.getElem?_push] at hsubscriber
      split at hsubscriber
      · cases hsubscriber
        rcases hholds with hlink | ⟨stream, hstream, -⟩ | ⟨loop, hloop, -⟩
        · cases hlink
        · cases hstream
        · cases hloop
      · exact ⟨subscriber, hsubscriber, hholds⟩
  · exact h.subscribers.push (inOrder_create _ _ url signal) fun _ _ _ hinOrder => hinOrder
  · intro id subscriber hfound
    obtain ⟨hinside, -⟩ := Array.getElem?_eq_some_iff.1 hfound
    simp only [step, Device.addSubscriber]
    rw [Array.getElem?_push, if_neg (Nat.ne_of_lt hinside)]
    exact hfound

theorem account_giveSignal (h : Account session proxy journal) (behaviour : Behaviour η)
    (signal : String) :
    Account (session.step behaviour (.giveSignal signal)) proxy journal ∧
      Moved session proxy journal (fun _ => False) (session.step behaviour (.giveSignal signal)) proxy
        journal :=
  account_of_still h rfl rfl rfl rfl rfl
    (by rintro (id | id) socket hholder <;> exact hholder)
    h.publishers h.nobody h.subscribers fun _ _ hfound => hfound

/-- The account after an activity of the proxy. -/
theorem account_proxy (h : Account session proxy journal) (behaviour : Behaviour η) {activity : Activity}
    {id : ProxyId} (event : Exchange.Event) (hevent : event ≠ .cancel)
    (huses : ∀ far, ¬ event.Uses far) (hwrites : ∀ far, ¬ event.Writes far)
    (hperform : session.device.perform behaviour activity =
      session.device.performProxy id fun proxy net => Exchange.next? proxy net event) :
    ∃ proxy' journal', Account (session.step behaviour (.activity activity)) proxy' journal' ∧
      Moved session proxy journal (fun _ => False) (session.step behaviour (.activity activity)) proxy'
        journal' := by
  have hnothing : session.device.perform behaviour activity = none →
      ∃ proxy' journal', Account (session.step behaviour (.activity activity)) proxy' journal' ∧
        Moved session proxy journal (fun _ => False) (session.step behaviour (.activity activity))
          proxy' journal' := by
    intro hnone
    exact ⟨proxy, account_of_unchanged h (by simp [step, hnone])⟩
  by_cases hid : @Eq Nat id 0
  · subst hid
    cases hnext : Exchange.next? proxy session.device.net event with
    | none =>
        refine hnothing ?_
        simp [hperform, Device.performProxy, h.proxies, hnext]
    | some result =>
        obtain ⟨proxy', net⟩ := result
        have hstep : session.step behaviour (.activity activity) =
            { session with device := { session.device with net, proxies := #[proxy'] } } := by
          simp [step, hperform, Device.performProxy, h.proxies, hnext]
        have hbooks := Exchange.books_step h.books event
        have hevolves := Exchange.evolves_step h.books hevent
        have hpumps : ∀ (index : Nat) (pump : BackPump), proxy.subscribers[index]? = some pump → _ :=
          fun index pump hpump => Exchange.cursor_step h.books event hpump
        have hexchange : Exchange.step ⟨proxy, session.device.net, journal⟩ event = ⟨proxy', net,
            Exchange.note journal event proxy session.device.net proxy' net⟩ := by
          simp only [Exchange.step, hnext]
        rw [hexchange] at hbooks hevolves hpumps
        generalize Exchange.note journal event proxy session.device.net proxy' net = journal'
          at hbooks hevolves hpumps
        -- the proxy uses near ends only, and every holder has a far end
        have hquiet : Evolves (fun _ => False) (fun _ => False) ⟨proxy, session.device.net, journal⟩
            ⟨proxy', net, journal'⟩ := hevolves.mono huses hwrites
        have hundisturbed : ∀ owner (socket : Nat), session.device.Holds owner socket →
            Undisturbed socket ⟨proxy, session.device.net, journal⟩ ⟨proxy', net, journal'⟩ := by
          intro owner socket hholder
          obtain ⟨heven, hin⟩ := h.held owner socket hholder
          exact hquiet.undisturbed socket heven hin id
        rw [hstep]
        refine ⟨proxy', journal', h.of_evolves hbooks hquiet rfl rfl ?_ ?_ ?_ h.nobody ?_
          (h.lines_of_quiet hquiet rfl) (fun _ => .inl) (fun _ => False.elim), ?_⟩
        · rintro (other | other) socket hholder
          · obtain ⟨heven, hin⟩ := h.held (.publisher other) socket hholder
            exact ⟨heven, Nat.lt_of_lt_of_le hin hquiet.size⟩
          · obtain ⟨heven, hin⟩ := h.held (.subscriber other) socket hholder
            exact ⟨heven, Nat.lt_of_lt_of_le hin hquiet.size⟩
        · rintro (other | other) (other' | other') socket hholder hholder' <;>
            exact h.apart _ _ socket hholder hholder'
        · refine h.publishers.imp fun other publisher hpublisher hline => ⟨hline.1, ?_⟩
          refine hline.2.of_evolves hquiet fun socket hwriter => ?_
          obtain ⟨heven, hin⟩ := h.held (.publisher other) socket ⟨publisher, hpublisher, hwriter⟩
          exact ⟨heven, hin, id, id⟩
        · exact h.subscribers.imp fun other found hfound hinOrder =>
            inOrder_of_undisturbed hinOrder fun socket hholder =>
              hundisturbed (.subscriber other) socket ⟨found, hfound, hholder⟩
        · exact {
            started := hquiet.started
            pumps := hpumps
            others := fun other found _ hfound => ⟨hfound, rfl, fun socket hholder =>
              hundisturbed (.subscriber other) socket ⟨found, hfound, hholder⟩⟩
            own := fun other hown => hown.elim
            silent := fun _ => hquiet.silent fun _ => id }
  · refine hnothing ?_
    have hnone : session.device.proxies[id]? = none := by
      rw [h.proxies]
      exact Array.getElem?_eq_none_iff.2 (Nat.pos_of_ne_zero hid)
    simp [hperform, Device.performProxy, hnone]

/-- Every event keeps the account. -/
theorem account_step (h : Account session proxy journal) (behaviour : Behaviour η) (event : Event η) :
    ∃ proxy' journal', Account (session.step behaviour event) proxy' journal' ∧
      Moved session proxy journal (fun id => event.ActsOn id) (session.step behaviour event) proxy'
        journal' := by
  cases event with
  | activity activity =>
      cases activity with
      | acceptPublisher number =>
          exact account_proxy h behaviour .acceptPublisher Exchange.Event.noConfusion (fun _ => id)
            (fun _ => id) rfl
      | acceptSubscriber number =>
          exact account_proxy h behaviour .acceptSubscriber Exchange.Event.noConfusion (fun _ => id)
            (fun _ => id) rfl
      | receive id => exact ⟨proxy, account_receive h behaviour id⟩
      | pumpSubscriber number index =>
          exact account_proxy h behaviour (.pumpSubscriber index) Exchange.Event.noConfusion
            (fun _ => id) (fun _ => id) rfl
      | pumpPublisher number index =>
          exact account_proxy h behaviour (.pumpPublisher index) Exchange.Event.noConfusion
            (fun _ => id) (fun _ => id) rfl
  | addPublisher => exact ⟨proxy, journal, account_addPublisher h behaviour⟩
  | addSubscriber url signal => exact ⟨proxy, journal, account_addSubscriber h behaviour url signal⟩
  | publisher id operation => exact ⟨proxy, account_performPublisher h behaviour id operation⟩
  | publish id head method payload => exact ⟨proxy, account_publish h behaviour id head method payload⟩
  | publishRegistered id index payload =>
      exact ⟨proxy, account_publishRegistered h behaviour id index payload⟩
  | write id => exact ⟨proxy, account_write h id⟩
  | dropPublisher id => exact ⟨proxy, account_fail h id .unreachable⟩
  | subscriber id operation => exact ⟨proxy, account_perform h behaviour id operation⟩
  | dropSubscriber id => exact ⟨proxy, account_dropSubscriber h behaviour id⟩
  | giveSignal signal => exact ⟨proxy, journal, account_giveSignal h behaviour signal⟩

/-- The account of a proxy that was just bound, to whose front an address leads. -/
theorem account_start {files : FileTree} {routes : String → Route} {front back address : Url}
    {id : ProxyId} {device : Device η}
    (hstart : (Device.ofFiles files routes).startProxy front back = (.ok id, device))
    (haddress : ∀ proxy ∈ device.proxies, ∀ place,
      device.net.destination address = .ok place → place = some proxy.front) :
    ∃ proxy, Account { device, front := address } proxy {} ∧ device.calls = #[] := by
  unfold Device.startProxy at hstart
  split at hstart
  · cases hstart
  · rename_i proxy net hbind
    cases hstart
    have hbooks := Exchange.books_start (.of_empty rfl) hbind
    have hproxies : (Device.ofFiles files routes : Device η).proxies.push proxy = #[proxy] := rfl
    refine ⟨proxy, ?_, rfl⟩
    exact {
      proxies := rfl
      books := hbooks
      running := by
        obtain ⟨frontId, between, backId, -, -, rfl⟩ := Proxy.bind_eq_ok_iff.1 hbind
        rfl
      destination := haddress proxy (by rw [hproxies]; exact Array.mem_singleton.2 rfl)
      held := by
        rintro (other | other) socket ⟨found, hfound, -⟩
        · cases hfound
        · cases hfound
      apart := by
        rintro (other | other) owner' socket ⟨found, hfound, -⟩
        · cases hfound
        · cases hfound
      publishers := by
        intro other found hfound
        cases hfound
      nobody := fun _ _ => rfl
      subscribers := by
        intro other found hfound
        cases hfound
      lines := fun socket _ => ⟨[], rfl, Frame.complete_nil⟩
      published := nofun
      silent := fun _ _ => rfl }

end Session

end DeviceBus
