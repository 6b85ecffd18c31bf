import DeviceBus.Proofs.Proxy.Books

/-!
# Attached connections

A proxy counts the connections at each of its sides that are attached.  The counters are changed where a
connection is accepted and where its pump ends, and nowhere else.

* `Proxy.pumps`: for every connection that was accepted at a side, whether its pump is running.
* `Proxy.Tallied`: the counters agree with the pumps.
* `Proxy.changes_letIn`, `Proxy.pumped_pump`: what accepting a connection and one step of a pump do to the
  pumps and to the counters.
* `Proxy.Pumped.not_runs_of_cancelled`, `Proxy.exists_pump_of_cancelled`: once the proxy is cancelled, a
  running pump ends at its next step, whatever the network is like.
* `Proxy.Tallied.of_letIn`, `Proxy.Tallied.of_pumped`: the counters keep agreeing with the pumps.
-/

namespace DeviceBus

/-- The side of a proxy that publishers connect to, and the one that subscribers connect to. -/
inductive Side where
  | front
  | back
  deriving DecidableEq

/-- The pump of a connection: its side, and its number among the connections that were accepted there. -/
structure Task where
  side : Side
  index : Nat
  deriving DecidableEq

namespace Proxy

/-- For every connection that was accepted at a side, whether its pump is running. -/
def pumps (proxy : Proxy) : Side → List Bool
  | .front => proxy.publishers.toList.map FrontPump.isRunning
  | .back => proxy.subscribers.toList.map BackPump.isRunning

/-- Whether the pump of a connection is running. -/
def Runs (proxy : Proxy) (task : Task) : Prop := (proxy.pumps task.side)[task.index]? = some true

instance (proxy : Proxy) (task : Task) : Decidable (proxy.Runs task) :=
  inferInstanceAs (Decidable (_ = _))

/-- How many connections are attached at a side. -/
def count (proxy : Proxy) : Side → Nat
  | .front => proxy.publisherCount
  | .back => proxy.subscriberCount

/-- Let in who waits at a side. -/
def letIn (proxy : Proxy) (net : Network) : Side → Option (Proxy × Network)
  | .front => proxy.letInPublisher net
  | .back => proxy.letInSubscriber net

/-- One step of a pump. -/
def pump (proxy : Proxy) (net : Network) (task : Task) : Option (Proxy × Network) :=
  match task.side with
  | .front => proxy.pumpPublisher net task.index
  | .back => proxy.pumpSubscriber net task.index

/-- The counters are the numbers of the pumps that are running. -/
def Tallied (proxy : Proxy) : Prop := ∀ side, proxy.count side = (proxy.pumps side).count true

/-- A change of the pumps and of the counter at one side of a proxy, and at no other. -/
structure Changes (proxy : Proxy) (side : Side) (pumps : List Bool) (count : Nat) (proxy' : Proxy) :
    Prop where
  pumps : proxy'.pumps side = pumps
  count : proxy'.count side = count
  others : ∀ other, other ≠ side →
    proxy'.pumps other = proxy.pumps other ∧ proxy'.count other = proxy.count other
  isCancelled : proxy'.isCancelled = proxy.isCancelled

/-- What one step of a pump does: the pump goes on and nothing changes, unless the proxy is cancelled; or
the pump ends and its connection is attached no longer. -/
inductive Pumped (proxy : Proxy) (task : Task) (proxy' : Proxy) : Prop
  | goesOn (running : proxy.isCancelled = false)
      (same : Changes proxy task.side (proxy.pumps task.side) (proxy.count task.side) proxy')
  | ends (changes : Changes proxy task.side ((proxy.pumps task.side).set task.index false)
      (proxy.count task.side - 1) proxy')

variable {proxy proxy' : Proxy} {net net' : Network}

theorem changes_front {pumps : List Bool} {count : Nat}
    (hpumps : proxy'.publishers.toList.map FrontPump.isRunning = pumps)
    (hcount : proxy'.attached.publishers = count) (hsubscribers : proxy'.subscribers = proxy.subscribers)
    (hattached : proxy'.attached.subscribers = proxy.attached.subscribers)
    (hcancelled : proxy'.isCancelled = proxy.isCancelled) : Changes proxy .front pumps count proxy' where
  pumps := hpumps
  count := hcount
  others other hother := by
    cases other with
    | front => exact absurd rfl hother
    | back => exact ⟨congrArg (fun pumps => pumps.toList.map BackPump.isRunning) hsubscribers, hattached⟩
  isCancelled := hcancelled

theorem changes_back {pumps : List Bool} {count : Nat}
    (hpumps : proxy'.subscribers.toList.map BackPump.isRunning = pumps)
    (hcount : proxy'.attached.subscribers = count) (hpublishers : proxy'.publishers = proxy.publishers)
    (hattached : proxy'.attached.publishers = proxy.attached.publishers)
    (hcancelled : proxy'.isCancelled = proxy.isCancelled) : Changes proxy .back pumps count proxy' where
  pumps := hpumps
  count := hcount
  others other hother := by
    cases other with
    | front => exact ⟨congrArg (fun pumps => pumps.toList.map FrontPump.isRunning) hpublishers, hattached⟩
    | back => exact absurd rfl hother
  isCancelled := hcancelled

/-! ## Accepting -/

/-- A connection that is accepted has a running pump and is attached. -/
theorem changes_letIn {side : Side} (h : proxy.letIn net side = some (proxy', net')) :
    Changes proxy side (proxy.pumps side ++ [true]) (proxy.count side + 1) proxy' := by
  cases side with
  | front =>
      obtain ⟨⟨near, between⟩, -, heq⟩ := Option.map_eq_some_iff.1 h
      cases heq
      exact changes_front (by simp [pumps]) rfl rfl rfl rfl
  | back =>
      obtain ⟨⟨near, after⟩, -, heq⟩ := Option.map_eq_some_iff.1 h
      cases heq
      exact changes_back (by simp [pumps]) rfl rfl rfl rfl

/-! ## One step of a pump -/

section Publisher

variable {index : Nat}

theorem changes_endPublisher (net : Network) (pump : FrontPump) :
    Changes proxy .front ((proxy.pumps .front).set index false) (proxy.count .front - 1)
      (proxy.endPublisher net index pump).1 :=
  changes_front (by simp [pumps, endPublisher, setPublisher, List.map_set]) rfl rfl rfl rfl

/-- One step of a pump at the front. -/
theorem pumped_pumpPublisher (h : proxy.pumpPublisher net index = some (proxy', net')) :
    proxy.Runs ⟨.front, index⟩ ∧ Pumped proxy ⟨.front, index⟩ proxy' := by
  unfold pumpPublisher at h
  cases hpump : proxy.publishers[index]? with
  | none =>
      rw [hpump] at h
      cases h
  | some pump =>
      rw [hpump] at h
      dsimp only at h
      split at h
      · cases h
      · rename_i hrunning
        have hrunning : pump.isRunning = true := by simpa using hrunning
        refine ⟨by simp [Runs, pumps, hpump, hrunning], ?_⟩
        split at h
        · cases h
          exact .ends (changes_endPublisher net pump)
        · rename_i halive
          have halive : proxy.isCancelled = false := by simpa using halive
          split at h
          · cases h
          · cases h
            exact .goesOn halive (changes_front (Exchange.map_toList_set hpump rfl) rfl rfl rfl rfl)
          · cases h
            exact .goesOn halive (changes_front (Exchange.map_toList_set hpump rfl) rfl rfl rfl rfl)
          · cases h
            exact .ends (changes_endPublisher net _)

end Publisher

section Subscriber

variable {index : Nat} {pump : BackPump}

theorem changes_endSubscriber (net : Network) (pump : BackPump) :
    Changes proxy .back ((proxy.pumps .back).set index false) (proxy.count .back - 1)
      (proxy.endSubscriber net index pump).1 :=
  changes_back (by simp [pumps, endSubscriber, setSubscriber, List.map_set]) rfl rfl rfl rfl

theorem pumped_nextForSubscriber (halive : proxy.isCancelled = false)
    (hpump : proxy.subscribers[index]? = some pump)
    (h : proxy.nextForSubscriber net index pump = some (proxy', net')) :
    Pumped proxy ⟨.back, index⟩ proxy' := by
  unfold nextForSubscriber at h
  split at h
  · cases h
    exact .ends (changes_endSubscriber net _)
  · cases h
    exact .ends (changes_endSubscriber net _)
  · cases h
    exact .goesOn halive (changes_back (Exchange.map_toList_set hpump rfl) rfl rfl rfl rfl)
  · split at h
    · cases h
    · cases h
      exact .goesOn halive (changes_back (Exchange.map_toList_set hpump rfl) rfl rfl rfl rfl)
    · split at h
      · cases h
        exact .goesOn halive (changes_back (Exchange.map_toList_set hpump rfl) rfl rfl rfl rfl)
      · cases h
        exact .ends (changes_endSubscriber net _)

theorem pumped_writeToSubscriber (halive : proxy.isCancelled = false)
    (hpump : proxy.subscribers[index]? = some pump) {frame : ByteArray} {written : Nat}
    (h : proxy.writeToSubscriber net index pump frame written = some (proxy', net')) :
    Pumped proxy ⟨.back, index⟩ proxy' := by
  unfold writeToSubscriber at h
  split at h
  · cases h
    exact .ends (changes_endSubscriber net _)
  · split at h
    · cases h
      exact .goesOn halive (changes_back (Exchange.map_toList_set hpump rfl) rfl rfl rfl rfl)
    · split at h
      · cases h
      · cases h
        exact .goesOn halive (changes_back (Exchange.map_toList_set hpump rfl) rfl rfl rfl rfl)

/-- One step of a pump at the back. -/
theorem pumped_pumpSubscriber (h : proxy.pumpSubscriber net index = some (proxy', net')) :
    proxy.Runs ⟨.back, index⟩ ∧ Pumped proxy ⟨.back, index⟩ proxy' := by
  unfold pumpSubscriber at h
  cases hpump : proxy.subscribers[index]? with
  | none =>
      rw [hpump] at h
      cases h
  | some pump =>
      rw [hpump] at h
      dsimp only at h
      split at h
      · cases h
      · rename_i hrunning
        have hrunning : pump.isRunning = true := by simpa using hrunning
        refine ⟨by simp [Runs, pumps, hpump, hrunning], ?_⟩
        split at h
        · cases h
          exact .ends (changes_endSubscriber net pump)
        · rename_i halive
          have halive : proxy.isCancelled = false := by simpa using halive
          split at h
          · exact pumped_nextForSubscriber halive hpump h
          · exact pumped_writeToSubscriber halive hpump h

end Subscriber

/-- One step of a pump: only a running pump takes one. -/
theorem pumped_pump {task : Task} (h : proxy.pump net task = some (proxy', net')) :
    proxy.Runs task ∧ Pumped proxy task proxy' := by
  obtain ⟨side, index⟩ := task
  cases side with
  | front => exact pumped_pumpPublisher h
  | back => exact pumped_pumpSubscriber h

/-! ## Running pumps -/

/-- Which pumps run after a change at one side. -/
theorem Changes.runs_iff {side : Side} {pumps : List Bool} {count : Nat}
    (h : Changes proxy side pumps count proxy') {task : Task} :
    proxy'.Runs task ↔ if task.side = side then pumps[task.index]? = some true else proxy.Runs task := by
  rw [Runs, Runs]
  split
  · rename_i hside
    rw [hside, h.pumps]
  · rename_i hside
    rw [(h.others _ hside).1]

/-- Nobody's pump is started but that of the connection that is accepted. -/
theorem runs_of_letIn {side : Side} (h : proxy.letIn net side = some (proxy', net')) {task : Task}
    (hruns : proxy'.Runs task) : proxy.Runs task ∨ task = ⟨side, (proxy.pumps side).length⟩ := by
  obtain ⟨other, index⟩ := task
  rw [(changes_letIn h).runs_iff] at hruns
  split at hruns
  · rename_i hside
    obtain rfl : other = side := hside
    rw [List.getElem?_append] at hruns
    split at hruns
    · exact .inl hruns
    · rename_i hindex
      have hindex : (proxy.pumps other).length ≤ index := Nat.not_lt.1 hindex
      have hsize : index - (proxy.pumps other).length < 1 := (List.getElem?_eq_some_iff.1 hruns).1
      exact .inr (congrArg (Task.mk other) (by omega))
  · exact .inl hruns

namespace Pumped

variable {task : Task}

theorem isCancelled (h : Pumped proxy task proxy') : proxy'.isCancelled = proxy.isCancelled := by
  cases h with
  | goesOn _ same => exact same.isCancelled
  | ends changes => exact changes.isCancelled

/-- A step of a pump starts none. -/
theorem runs_before (h : Pumped proxy task proxy') {other : Task} (hruns : proxy'.Runs other) :
    proxy.Runs other := by
  cases h with
  | goesOn _ same =>
      rw [same.runs_iff] at hruns
      split at hruns
      · rename_i hside
        rw [Runs, hside]
        exact hruns
      · exact hruns
  | ends changes =>
      rw [changes.runs_iff] at hruns
      split at hruns
      · rename_i hside
        rw [List.getElem?_set] at hruns
        split at hruns
        · split at hruns
          · cases hruns
          · cases hruns
        · rw [Runs, hside]
          exact hruns
      · exact hruns

/-- A pump that has ended does not run. -/
theorem not_runs (changes : Changes proxy task.side ((proxy.pumps task.side).set task.index false)
    (proxy.count task.side - 1) proxy') : ¬proxy'.Runs task := by
  rw [changes.runs_iff, if_pos rfl, List.getElem?_set_self']
  cases (proxy.pumps task.side)[task.index]? <;> simp

/-- Once the proxy is cancelled, every step of a pump is its last one. -/
theorem not_runs_of_cancelled (h : Pumped proxy task proxy') (hcancelled : proxy.isCancelled = true) :
    ¬proxy'.Runs task := by
  cases h with
  | goesOn running _ =>
      rw [hcancelled] at running
      cases running
  | ends changes => exact not_runs changes

end Pumped

/-- Once the proxy is cancelled, every running pump can take a step, whatever the network is like. -/
theorem exists_pump_of_cancelled (hcancelled : proxy.isCancelled = true) {task : Task}
    (hruns : proxy.Runs task) (net : Network) :
    ∃ proxy' net', proxy.pump net task = some (proxy', net') := by
  obtain ⟨side, index⟩ := task
  cases side with
  | front =>
      obtain ⟨pump, hpump, hrunning⟩ :
          ∃ pump, proxy.publishers[index]? = some pump ∧ pump.isRunning = true := by
        simpa [Runs, pumps] using hruns
      exact ⟨_, _, by simp [Proxy.pump, pumpPublisher, hpump, hrunning, hcancelled]; rfl⟩
  | back =>
      obtain ⟨pump, hpump, hrunning⟩ :
          ∃ pump, proxy.subscribers[index]? = some pump ∧ pump.isRunning = true := by
        simpa [Runs, pumps] using hruns
      exact ⟨_, _, by simp [Proxy.pump, pumpSubscriber, hpump, hrunning, hcancelled]; rfl⟩

/-! ## The counters -/

namespace Tallied

theorem of_changes (h : proxy.Tallied) {side : Side} {pumps : List Bool} {count : Nat}
    (hchanges : Changes proxy side pumps count proxy') (hcount : count = pumps.count true) :
    proxy'.Tallied := by
  intro other
  by_cases hother : other = side
  · rw [hother, hchanges.pumps, hchanges.count, hcount]
  · obtain ⟨hpumps, hsame⟩ := hchanges.others other hother
    rw [hpumps, hsame, h other]

/-- Where a pump runs, the counter is not zero. -/
theorem pos (h : proxy.Tallied) {task : Task} (hruns : proxy.Runs task) : 0 < proxy.count task.side := by
  rw [h task.side]
  exact List.count_pos_iff.2 (List.mem_of_getElem? hruns)

theorem of_letIn (h : proxy.Tallied) {side : Side} (hletIn : proxy.letIn net side = some (proxy', net')) :
    proxy'.Tallied :=
  h.of_changes (changes_letIn hletIn) (by rw [List.count_append, h side]; rfl)

theorem of_pumped (h : proxy.Tallied) {task : Task} (hruns : proxy.Runs task)
    (hpumped : Pumped proxy task proxy') : proxy'.Tallied := by
  cases hpumped with
  | goesOn _ same => exact h.of_changes same (h task.side)
  | ends changes =>
      refine h.of_changes changes ?_
      obtain ⟨hindex, hrunning⟩ := List.getElem?_eq_some_iff.1 hruns
      rw [List.count_set hindex, hrunning, h task.side]
      rfl

/-- A pump that ends lowers the counter of its side by one, and by no more than it is. -/
theorem lowers (h : proxy.Tallied) {task : Task} (hruns : proxy.Runs task)
    (hpumped : Pumped proxy task proxy') :
    proxy'.Runs task ∧ proxy'.count task.side = proxy.count task.side ∨
      ¬proxy'.Runs task ∧ proxy'.count task.side + 1 = proxy.count task.side := by
  cases hpumped with
  | goesOn _ same =>
      refine .inl ⟨?_, same.count⟩
      rw [same.runs_iff, if_pos rfl]
      exact hruns
  | ends changes =>
      have hpos := h.pos hruns
      exact .inr ⟨Pumped.not_runs changes, by rw [changes.count]; omega⟩

end Tallied

end Proxy

end DeviceBus
