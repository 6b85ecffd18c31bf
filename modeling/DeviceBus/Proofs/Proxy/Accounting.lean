import DeviceBus.Proofs.Proxy.Books

/-!
# Fan-out accounting

What the books of a proxy say to those who publish and subscribe, at every moment of every run: the order
in which connections are accepted, read, written and lost does not matter.

* `Exchange.FrontAccount`: a connection at the front has broadcast its own complete frames, in their order.
* `Exchange.BackAccount`: a connection at the back takes bodies of the log in their order, and loses some
  only by falling too far behind.
* `Exchange.fanout_accounting`: every connection has its account after every run.
-/

namespace DeviceBus

namespace Exchange

/-- An event leaves the cursor of a pump at the back where it is, or lets it receive once. -/
theorem cursor_step {exchange : Exchange} (h : exchange.Books) (event : Event) {index : Nat}
    {pump : BackPump} (hpump : exchange.proxy.subscribers[index]? = some pump) :
    ∃ pump', (exchange.step event).proxy.subscribers[index]? = some pump' ∧
      pump'.stream.socket = pump.stream.socket ∧
      (pump'.cursor = pump.cursor ∨
        pump'.cursor = (exchange.proxy.fanout.receive pump.cursor).2) := by
  have hkept : ∀ proxy' : Proxy, proxy'.subscribers[index]? = some pump →
      ∃ pump', proxy'.subscribers[index]? = some pump' ∧
        pump'.stream.socket = pump.stream.socket ∧
        (pump'.cursor = pump.cursor ∨
          pump'.cursor = (exchange.proxy.fanout.receive pump.cursor).2) :=
    fun proxy' hfound => ⟨pump, hfound, rfl, .inl rfl⟩
  unfold step
  split
  · exact hkept _ hpump
  · rename_i proxy' net' hnext
    cases event with
    | acceptPublisher =>
        obtain ⟨_, _, -, rfl, rfl⟩ := Proxy.acceptPublisher_eq_some hnext
        exact hkept _ hpump
    | acceptSubscriber =>
        obtain ⟨_, -, rfl⟩ := Proxy.acceptSubscriber_eq_some hnext
        obtain ⟨hinside, -⟩ := Array.getElem?_eq_some_iff.1 hpump
        refine hkept _ ?_
        dsimp only
        rw [Array.getElem?_push, if_neg (Nat.ne_of_lt hinside)]
        exact hpump
    | pumpPublisher other =>
        obtain ⟨reader, reader', bodies, attached, -, -, hproxy, -⟩ := h.pumpPublisher_spec hnext
        refine hkept _ ?_
        rw [hproxy]
        exact hpump
    | pumpSubscriber other =>
        obtain ⟨writer, writer', piece, hwriter, hmoved⟩ := h.pumpSubscriber_spec hnext
        obtain ⟨hsocket, ⟨attached, hproxy⟩, -, -, hcursor, -, -⟩ := hmoved
        obtain ⟨hinside, -⟩ := Array.getElem?_eq_some_iff.1 hwriter
        have hsubscribers : proxy'.subscribers =
            exchange.proxy.subscribers.setIfInBounds other writer' := by
          rw [hproxy]
          rfl
        by_cases hsame : other = index
        · subst hsame
          cases hwriter.symm.trans hpump
          refine ⟨writer', ?_, hsocket, hcursor⟩
          rw [hsubscribers, Array.getElem?_setIfInBounds_self_of_lt hinside]
        · refine hkept _ ?_
          rw [hsubscribers, Array.getElem?_setIfInBounds_ne hsame]
          exact hpump
    | cancel =>
        cases hnext
        exact hkept _ hpump
    | join id =>
        cases hnext
        exact hkept _ hpump
    | far connection deed =>
        cases hnext
        exact hkept _ hpump

/-- The account of a connection at the front: its pump has broadcast the complete frames of the bytes that
have arrived, up to the first malformed one and as far as it has read.  It has read to the end of the
stream when it has ended, unless the proxy was cancelled. -/
structure FrontAccount (exchange : Exchange) (index : Nat) (pump : FrontPump) : Prop where
  inOrder : sentBy exchange.journal index <+:
    Frame.complete (exchange.journal.arrived pump.stream.socket)
  whole : pump.stream.isOver = true → sentBy exchange.journal index =
    Frame.complete (exchange.journal.arrived pump.stream.socket)
  ended : pump.isRunning = false → pump.stream.isOver = true ∨ exchange.proxy.isCancelled = true

/-- The account of a connection at the back: what it has taken are bodies of the log behind its start, in
the order of the log; taken, skipped and unread bodies are all that were broadcast since; and it skips some
only when more than `Fanout.capacity` bodies are unread, to go on with the oldest of the most recent
ones. -/
structure BackAccount (exchange : Exchange) (index : Nat) (pump : BackPump) : Prop where
  inOrder : ∃ positions : List Nat, positions.Pairwise (· < ·) ∧
    (∀ position ∈ positions, exchange.journal.started index ≤ position ∧ position < pump.cursor.next) ∧
    List.Forall₂ (fun position frame => ∃ body,
      exchange.proxy.fanout.log[position]? = some body ∧ Frame.encode body = .ok frame)
      positions (exchange.journal.handed index)
  taken : (exchange.journal.handed index).length = pump.cursor.taken
  sum : pump.cursor.taken + pump.cursor.skipped + exchange.proxy.fanout.unread pump.cursor =
    exchange.proxy.fanout.log.size - exchange.journal.started index
  skips : ∀ (event : Event) (pump' : BackPump),
    (exchange.step event).proxy.subscribers[index]? = some pump' →
    pump'.cursor.skipped ≠ pump.cursor.skipped →
      Fanout.capacity < exchange.proxy.fanout.unread pump.cursor ∧
      pump'.cursor.next = exchange.proxy.fanout.log.size - Fanout.capacity ∧
      pump'.cursor.taken = pump.cursor.taken

/-- The connections of a proxy are all different, the log is what they have broadcast, and each of them has
its account. -/
structure Accounted (exchange : Exchange) : Prop where
  apart : (frontEnds exchange.proxy ++ backEnds exchange.proxy).Nodup
  log : exchange.proxy.fanout.log.toList = exchange.journal.broadcasts.map Prod.snd
  origin : ∀ entry ∈ exchange.journal.broadcasts, entry.1 < exchange.proxy.publishers.size
  publishers : EachAt exchange.proxy.publishers exchange.FrontAccount
  subscribers : EachAt exchange.proxy.subscribers exchange.BackAccount

namespace Books

variable {exchange : Exchange} {index : Nat}

theorem frontAccount (h : exchange.Books) {pump : FrontPump}
    (hpump : exchange.proxy.publishers[index]? = some pump) : exchange.FrontAccount index pump := by
  have hbook := h.publishers index pump hpump
  cases hrunning : pump.isRunning with
  | true =>
      -- a stream that is over belongs to a pump that has ended
      have hgoing := (hbook.running hrunning).live.going
      exact {
        inOrder := hbook.sent_begins (h.sent_fits index)
        whole := by rw [hgoing]; nofun
        ended := by rw [hrunning]; nofun }
  | false =>
      obtain ⟨-, hbegins, hover⟩ := hbook.ended hrunning
      refine ⟨hbegins, fun hisOver => ?_, fun _ => hover.imp And.left And.right⟩
      rcases hover with ⟨-, hwhole⟩ | ⟨hgoing, -⟩
      · exact hwhole
      · rw [hgoing] at hisOver
        cases hisOver

/-- A cursor that skips bodies was too far behind. -/
theorem skips (h : exchange.Books) {pump : BackPump}
    (hpump : exchange.proxy.subscribers[index]? = some pump) {event : Event} {pump' : BackPump}
    (hpump' : (exchange.step event).proxy.subscribers[index]? = some pump')
    (hskipped : pump'.cursor.skipped ≠ pump.cursor.skipped) :
    Fanout.capacity < exchange.proxy.fanout.unread pump.cursor ∧
      pump'.cursor.next = exchange.proxy.fanout.log.size - Fanout.capacity ∧
      pump'.cursor.taken = pump.cursor.taken := by
  obtain ⟨found, hfound, -, hcursor⟩ := cursor_step h event hpump
  cases hfound.symm.trans hpump'
  rcases hcursor with hsame | hreceived
  · rw [hsame] at hskipped
    exact absurd rfl hskipped
  · have hspec := received_receive exchange.proxy.fanout pump.cursor
    generalize exchange.proxy.fanout.receive pump.cursor = result at hreceived hspec
    rw [hreceived] at hskipped ⊢
    cases hspec with
    -- only falling behind changes the number of skipped bodies
    | lagged lag oldest => exact ⟨lag, oldest, rfl⟩
    | body found => exact absurd rfl hskipped
    | nothing read => exact absurd rfl hskipped

theorem backAccount (h : exchange.Books) {pump : BackPump}
    (hpump : exchange.proxy.subscribers[index]? = some pump) : exchange.BackAccount index pump := by
  have hbook := h.subscribers index pump hpump
  obtain ⟨positions, hsublist, hlength, hhanded⟩ := hbook.handedAt
  have hcount := hbook.count
  have hbound := hbook.bound
  -- a choice from an increasing range is increasing
  have hincreasing : (List.range' (exchange.journal.started index)
      (pump.cursor.next - exchange.journal.started index)).Pairwise (· < ·) :=
    List.pairwise_lt_range'
  exact {
    inOrder := by
      refine ⟨positions, hincreasing.sublist hsublist, fun position hposition => ?_, hhanded⟩
      have hrange := List.mem_range'_1.1 (hsublist.subset hposition)
      omega
    taken := by rw [← hhanded.length_eq, hlength]
    sum := by
      rw [Fanout.unread]
      omega
    skips := fun event pump' hpump' hskipped => h.skips hpump hpump' hskipped }

end Books

/-- Every connection of a proxy has its account after every run. -/
theorem fanout_accounting {net net' : Network} {front back : Url} {proxy : Proxy}
    (hhonest : net.Honest) (hbind : Proxy.bind net front back = (.ok proxy, net'))
    (events : List Event) : Accounted ((start proxy net').run events) := by
  have h := books_run (books_start hhonest hbind) events
  have hdistinct := h.roster.distinct
  rw [nearEnds, List.append_assoc] at hdistinct
  exact {
    apart := (List.nodup_append.1 hdistinct).1
    log := h.log
    origin := h.origin
    publishers := fun index pump hpump => h.frontAccount hpump
    subscribers := fun index pump hpump => h.backAccount hpump }

/-- A subscriber, a publisher that sends a frame, and one that begins with a malformed frame. -/
def mixedEvents : List Event :=
  [.join 1, .acceptSubscriber, .join 0, .acceptPublisher, .join 0, .acceptPublisher,
    .far 1 (.write ⟨#[0, 0, 0, 2, 104, 105]⟩ 0), .far 2 (.write ⟨#[255, 255, 255, 255]⟩ 0),
    .pumpPublisher 1, .pumpPublisher 1, .pumpPublisher 0, .pumpPublisher 0,
    .pumpSubscriber 0, .pumpSubscriber 0]

theorem fanout_accounting_mixed :
    let front := Url.tcp "localhost:5000"
    let back := Url.tcp "localhost:5001"
    let final := (start { front := 0, back := 1 }
      (Proxy.bind { files := .fresh } front back).2).run mixedEvents
    Accounted final ∧ final.proxy.fanout.log = #[⟨#[104, 105]⟩] := by
  intro front back final
  exact ⟨fanout_accounting (.of_empty rfl) (Prod.ext Proxy.fst_bind_fresh rfl) mixedEvents,
    by decide +kernel⟩

end Exchange

end DeviceBus
