import DeviceBus.Proofs.Receive
import DeviceBus.Proofs.Registry.Growth

/-!
# Messages under way

Routing a message takes several steps: a lookup, a look at the entry that was found for its handler, the call,
and all that the handler does, one registration after the other.  Between any two of them other messages may be
routed, by other threads or by a handler, and anybody may register further topics.  This module follows a
registry and the messages that are under way through all of that.

* `Reaction.additions`, `Registry.registry_dispatch`: what a handler registers is all that a dispatch changes.
* `Passage`, `Switchboard`: a message under way, and a registry with all of them; `Switchboard.step`.
* `Switchboard.additions`, `registry_run`: the registry changes by what callers and handlers register, and by
  nothing else.
* `Resolves`, `routes_step`, `routes_run`: a message calls the handler that it resolved to when it was looked up,
  or nobody.
* `comesTo_dispatch`: a message that is routed with nothing in between is dispatched as a whole.
* `registering_never_reroutes`: what holds at every moment.
-/

namespace DeviceBus

variable {η : Type}

namespace Registry

/-! ## What one more entry changes -/

/-- A lookup in a registry with one more entry looks there last. -/
theorem find?_push (registry : Registry η) (head method : String) (handler : Option η)
    (head' method' : String) :
    (registry.push head method handler).find? head' method' =
      (registry.find? head' method').or
        (if Entry.answersTo head' method' ⟨method, Topic.compose head method, handler⟩ then
          some registry.size else none) := by
  rw [find?, push, List.findIdx?_append, find?, List.findIdx?_singleton]
  split
  · rw [Option.map_some, Nat.zero_add]
    rfl
  · rfl

/-- A call changes only lookups that found nothing, and what they find then is the entry of the call. -/
theorem find?_add_of_ne {registry : Registry η} {head method : String} {handler : Option η}
    {head' method' : String}
    (hne : (registry.add head method handler).2.find? head' method' ≠ registry.find? head' method') :
    registry.find? head' method' = none ∧
      (registry.add head method handler).2.find? head' method' = some registry.size := by
  cases hbefore : registry.find? head' method' with
  | some index =>
      rw [hbefore] at hne
      exact absurd ((registry.grows_add head method handler).find_eq hbefore) hne
  | none =>
      refine ⟨rfl, ?_⟩
      rw [hbefore] at hne
      obtain ⟨-, hadd⟩ | ⟨fault, -, hadd⟩ := registry.add_cases head method handler
      · rw [hadd, find?_push, hbefore, Option.none_or] at hne ⊢
        split at hne
        · rw [if_pos ‹_›]
        · exact absurd rfl hne
      · rw [hadd] at hne
        exact absurd hbefore hne

end Registry

/-! ## What a handler registers -/

/-- What a reaction tries to register, one after the other. -/
def Reaction.additions : Reaction η → Registry η → List (Registry.Addition η)
  | .finish _, _ => []
  | .register head method handler next, registry =>
      let (result, registry) := registry.add head method handler
      ⟨head, method, handler⟩ :: (next result).additions registry

/-- A reaction changes the registry by what it registers, and by nothing else. -/
theorem Reaction.registry_run (reaction : Reaction η) (registry : Registry η) :
    (reaction.run registry).2 = registry.addAll (reaction.additions registry) := by
  induction reaction generalizing registry with
  | finish verdict => rfl
  | register head method handler next ih => exact ih _ _

/-- Routing a message changes the registry by what the handler that it calls registers. -/
theorem Registry.registry_dispatch (registry : Registry η) (behaviour : Behaviour η)
    (message : Message) :
    (registry.dispatch behaviour message).registry =
      registry.addAll ((registry.handlerFor? message).elim [] fun handler =>
        (behaviour handler message).additions registry) := by
  cases hhandler : registry.handlerFor? message with
  | none =>
      rw [dispatch_of_none hhandler]
      rfl
  | some handler =>
      rw [dispatch_of_some hhandler]
      exact Reaction.registry_run _ _

/-! ## A message under way -/

/-- How far a message has come. -/
inductive Stage (η : Type) where
  /-- it was looked up, with this result -/
  | lookedUp (index : Option Nat)
  /-- its handler was called and still has this to do -/
  | handling (rest : Reaction η)
  /-- nothing is left to be done -/
  | finished (result : RoutingResult)

/-- The registration that comes next, if the handler is about to make one. -/
def Stage.addition? : Stage η → Option (Registry.Addition η)
  | .handling (.register head method handler _) => some ⟨head, method, handler⟩
  | _ => none

/-- A message under way, and the handlers that it has called. -/
structure Passage (η : Type) where
  message : Message
  called : List η := []
  stage : Stage η

namespace Passage

/-- The next step of a message, and the registry after it. -/
def advance (passage : Passage η) (behaviour : Behaviour η) (registry : Registry η) :
    Passage η × Registry η :=
  match passage.stage with
  | .lookedUp index =>
      match index.bind registry.handler? with
      | none => ({ passage with stage := .finished .notFound }, registry)
      | some handler =>
          ({ passage with
              called := passage.called ++ [handler]
              stage := .handling (behaviour handler passage.message) }, registry)
  | .handling (.finish verdict) =>
      ({ passage with stage := .finished (.ofVerdict verdict) }, registry)
  | .handling (.register head method handler next) =>
      let (result, registry) := registry.add head method handler
      ({ passage with stage := .handling (next result) }, registry)
  | .finished _ => (passage, registry)

/-- A step changes the registry by the registration that comes next. -/
theorem registry_advance (passage : Passage η) (behaviour : Behaviour η) (registry : Registry η) :
    (passage.advance behaviour registry).2 = registry.addAll passage.stage.addition?.toList := by
  obtain ⟨message, called, stage⟩ := passage
  cases stage with
  | lookedUp index =>
      rw [advance]
      dsimp only
      split <;> rfl
  | handling rest => cases rest <;> rfl
  | finished result => rfl

/-- A message calls the handler that it resolved to once, or nobody if it resolved to nothing. -/
inductive Resolves (registry : Registry η) (message : Message) (resolved : Option η) :
    Passage η → Prop where
  | lookedUp {index : Option Nat} (inside : ∀ found ∈ index, found < registry.size)
      (leads : index.bind registry.handler? = resolved) :
      Resolves registry message resolved ⟨message, [], .lookedUp index⟩
  | handling {handler : η} {rest : Reaction η} (leads : resolved = some handler) :
      Resolves registry message resolved ⟨message, [handler], .handling rest⟩
  | finished {result : RoutingResult} (found : result = .notFound ↔ resolved = none) :
      Resolves registry message resolved ⟨message, resolved.toList, .finished result⟩

variable {registry after : Registry η} {message : Message} {resolved : Option η} {passage : Passage η}

/-- Whatever is registered, the index that was found still leads to the same handler. -/
theorem Resolves.grows (h : passage.Resolves registry message resolved)
    (hgrows : registry.Grows after) : passage.Resolves after message resolved := by
  cases h with
  | @lookedUp index inside leads =>
      refine .lookedUp (fun found hfound => ?_) ?_
      · exact Nat.lt_of_lt_of_le (inside found hfound) hgrows.length_le
      · cases index with
        | none => exact leads
        | some found => exact (hgrows.handler_eq (inside found rfl)).trans leads
  | handling leads => exact .handling leads
  | finished found => exact .finished found

/-- A step of a message keeps what it resolved to. -/
theorem Resolves.advance (h : passage.Resolves registry message resolved) (behaviour : Behaviour η) :
    (passage.advance behaviour registry).1.Resolves registry message resolved := by
  cases h with
  | lookedUp inside leads =>
      rw [Passage.advance]
      dsimp only
      rw [leads]
      cases resolved with
      | none => exact .finished (iff_of_true rfl rfl)
      | some handler => exact .handling rfl
  | @handling handler rest leads =>
      subst leads
      cases rest with
      | finish verdict =>
          have hfound := RoutingResult.ofVerdict_ne_notFound verdict
          exact .finished (iff_of_false hfound (Option.some_ne_none handler))
      | register head method other next => exact .handling rfl
  | finished found => exact .finished found

/-- What a message has called is a part of what it resolved to, and all of it in the end. -/
theorem Resolves.called (h : passage.Resolves registry message resolved) :
    passage.message = message ∧ passage.called <+: resolved.toList ∧
      ∀ result, passage.stage = .finished result →
        passage.called = resolved.toList ∧ (result = .notFound ↔ resolved = none) := by
  cases h with
  | lookedUp inside leads =>
      refine ⟨rfl, List.nil_prefix, fun result hstage => ?_⟩
      cases hstage
  | handling leads =>
      subst leads
      refine ⟨rfl, List.prefix_refl _, fun result hstage => ?_⟩
      cases hstage
  | finished found =>
      refine ⟨rfl, List.prefix_refl _, fun result hstage => ⟨rfl, ?_⟩⟩
      cases hstage
      exact found

end Passage

/-! ## All messages under way -/

/-- A registry in use, and the messages that were routed with it, in the order of their lookups. -/
structure Switchboard (η : Type) where
  registry : Registry η
  passages : List (Passage η) := []

namespace Switchboard

/-- What happens: a caller registers a topic, another message is looked up, or a message goes one step on.  How
its handler behaves is chosen when it is called. -/
inductive Event (η : Type) where
  | register (addition : Registry.Addition η)
  | route (message : Message)
  | proceed (number : Nat) (behaviour : Behaviour η)

/-- One event. -/
def step (board : Switchboard η) : Event η → Switchboard η
  | .register addition => { board with registry := board.registry.addAll [addition] }
  | .route message =>
      let index := board.registry.find? message.head message.method
      { board with passages := board.passages ++ [{ message, stage := .lookedUp index }] }
  | .proceed number behaviour =>
      match board.passages[number]? with
      | none => board
      | some passage =>
          let (passage, registry) := passage.advance behaviour board.registry
          { registry, passages := board.passages.set number passage }

/-- Some events, one after the other. -/
def run (board : Switchboard η) (events : List (Event η)) : Switchboard η := events.foldl step board

/-- What an event tries to register: what a caller registers, or what the handler of a message that goes on
does. -/
def addition? (board : Switchboard η) : Event η → Option (Registry.Addition η)
  | .register addition => some addition
  | .route _ => none
  | .proceed number _ => board.passages[number]?.bind fun passage => passage.stage.addition?

/-- What some events try to register, one after the other. -/
def additions (board : Switchboard η) : List (Event η) → List (Registry.Addition η)
  | [] => []
  | event :: events => (board.addition? event).toList ++ (board.step event).additions events

variable {board : Switchboard η}

/-! ## The registry -/

/-- An event changes the registry by what it registers, and by nothing else. -/
theorem registry_step (board : Switchboard η) (event : Event η) :
    (board.step event).registry = board.registry.addAll (board.addition? event).toList := by
  cases event with
  | register addition => rfl
  | route message => rfl
  | proceed number behaviour =>
      rw [step, addition?]
      cases board.passages[number]? with
      | none => rfl
      | some passage => exact passage.registry_advance behaviour board.registry

/-- Some events change the registry by what they register, and by nothing else. -/
theorem registry_run (board : Switchboard η) (events : List (Event η)) :
    (board.run events).registry = board.registry.addAll (board.additions events) := by
  induction events generalizing board with
  | nil => rfl
  | cons event events ih =>
      rw [additions, Registry.addAll_append, ← registry_step]
      exact ih (board.step event)

theorem grows_step (board : Switchboard η) (event : Event η) :
    board.registry.Grows (board.step event).registry := by
  rw [registry_step]
  exact Registry.grows_addAll _ _

theorem grows_run (board : Switchboard η) (events : List (Event η)) :
    board.registry.Grows (board.run events).registry := by
  rw [registry_run]
  exact Registry.grows_addAll _ _

/-- An event changes only lookups that found nothing, and what they find then is the entry that came in. -/
theorem find?_step_of_ne {event : Event η} {head method : String}
    (hne : (board.step event).registry.find? head method ≠ board.registry.find? head method) :
    board.registry.find? head method = none ∧
      (board.step event).registry.find? head method = some board.registry.size := by
  rw [registry_step] at hne ⊢
  cases haddition : board.addition? event with
  | none =>
      rw [haddition] at hne
      exact absurd rfl hne
  | some addition =>
      rw [haddition] at hne
      exact Registry.find?_add_of_ne hne

/-! ## The messages -/

variable {number : Nat} {message : Message} {resolved : Option η}

/-- A message stands at a number, and calls the handler that it resolved to, or nobody. -/
def Routes (board : Switchboard η) (number : Nat) (message : Message) (resolved : Option η) : Prop :=
  ∃ passage, board.passages[number]? = some passage ∧ passage.Resolves board.registry message resolved

/-- A message resolves to what a lookup finds at the time when it is routed. -/
theorem routes_route (board : Switchboard η) (message : Message) :
    (board.step (.route message)).Routes board.passages.length message
      (board.registry.handlerFor? message) := by
  refine ⟨_, List.getElem?_concat_length, ?_⟩
  exact .lookedUp (fun index hfound => Registry.lt_size_of_find? hfound) rfl

/-- Every event keeps what a message resolved to. -/
theorem routes_step (h : board.Routes number message resolved) (event : Event η) :
    (board.step event).Routes number message resolved := by
  obtain ⟨passage, hpassage, hresolves⟩ := h
  obtain ⟨hinside, -⟩ := List.getElem?_eq_some_iff.1 hpassage
  have hgrows := board.grows_step event
  have hgrown := hresolves.grows hgrows
  cases event with
  | register addition => exact ⟨passage, hpassage, hgrown⟩
  | route other => exact ⟨passage, (List.getElem?_append_left hinside).trans hpassage, hgrown⟩
  | proceed other behaviour =>
      by_cases hsame : other = number
      · subst hsame
        rw [step, hpassage] at hgrows ⊢
        exact ⟨_, List.getElem?_set_self hinside, (hresolves.advance behaviour).grows hgrows⟩
      · refine ⟨passage, ?_, hgrown⟩
        rw [step]
        split
        · exact hpassage
        · exact (List.getElem?_set_ne hsame).trans hpassage

/-- Some events keep what a message resolved to. -/
theorem routes_run (h : board.Routes number message resolved) (events : List (Event η)) :
    (board.run events).Routes number message resolved :=
  List.foldlRecOn (motive := (Routes · number message resolved)) events step h fun _ h event _ =>
    routes_step h event

/-! ## A message with nothing in between -/

/-- If nothing comes in between, a message gets this far and leaves this registry. -/
def ComesTo (board : Switchboard η) (number : Nat) (behaviour : Behaviour η) (registry : Registry η)
    (passage : Passage η) : Prop :=
  ∃ steps, (board.run (List.replicate steps (.proceed number behaviour))).registry = registry ∧
    (board.run (List.replicate steps (.proceed number behaviour))).passages[number]? = some passage

variable {behaviour : Behaviour η} {registry : Registry η} {passage : Passage η}

theorem ComesTo.of_step
    (h : (board.step (.proceed number behaviour)).ComesTo number behaviour registry passage) :
    board.ComesTo number behaviour registry passage := by
  obtain ⟨steps, hregistry, hpassage⟩ := h
  exact ⟨steps + 1, hregistry, hpassage⟩

/-- What a step of a message makes of the registry and of the message itself. -/
theorem step_proceed (h : board.passages[number]? = some passage) (behaviour : Behaviour η) :
    (board.step (.proceed number behaviour)).registry = (passage.advance behaviour board.registry).2 ∧
      (board.step (.proceed number behaviour)).passages[number]? =
        some (passage.advance behaviour board.registry).1 := by
  obtain ⟨hinside, -⟩ := List.getElem?_eq_some_iff.1 h
  rw [step, h]
  exact ⟨rfl, List.getElem?_set_self hinside⟩

/-- A handler that is left alone carries its reaction out. -/
theorem comesTo_of_handling (behaviour : Behaviour η) {called : List η} {rest : Reaction η}
    (h : board.passages[number]? = some ⟨message, called, .handling rest⟩) :
    board.ComesTo number behaviour (rest.run board.registry).2
      ⟨message, called, .finished (.ofVerdict (rest.run board.registry).1)⟩ := by
  induction rest generalizing board with
  | finish verdict => exact ⟨1, step_proceed h behaviour⟩
  | register head method handler next ih =>
      obtain ⟨hregistry, hpassage⟩ := step_proceed h behaviour
      have hrest := ih _ hpassage
      rw [hregistry] at hrest
      exact hrest.of_step

/-- A message that is routed with nothing in between is dispatched as a whole. -/
theorem comesTo_dispatch (board : Switchboard η) (message : Message) (behaviour : Behaviour η) :
    let routed := board.registry.dispatch behaviour message
    (board.step (.route message)).ComesTo board.passages.length behaviour routed.registry
      ⟨message, routed.called.toList, .finished routed.result⟩ := by
  intro routed
  have hrouted : (board.step (.route message)).passages[board.passages.length]? =
      some ⟨message, [], .lookedUp (board.registry.find? message.head message.method)⟩ :=
    List.getElem?_concat_length
  obtain ⟨hregistry, hpassage⟩ := step_proceed hrouted behaviour
  have hleads : (board.registry.find? message.head message.method).bind
      (board.step (.route message)).registry.handler? = board.registry.handlerFor? message := rfl
  simp only [Passage.advance, hleads] at hregistry hpassage
  cases hhandler : board.registry.handlerFor? message with
  | none =>
      rw [hhandler] at hregistry hpassage
      have hall : routed = ⟨none, .notFound, board.registry⟩ :=
        Registry.dispatch_of_none hhandler behaviour
      rw [hall]
      exact ⟨1, hregistry, hpassage⟩
  | some handler =>
      rw [hhandler] at hregistry hpassage
      have hall := Registry.dispatch_of_some hhandler behaviour
      have hrest := comesTo_of_handling behaviour hpassage
      rw [hregistry] at hrest
      rw [show routed = _ from hall]
      exact hrest.of_step

/-- **Registering never reroutes.**  Let any messages be routed with any registry, in any order and in any
number at a time; let callers register topics at any moment, and handlers while they run.  Then at every moment,
and whatever happens later,

* a pair of head and method that resolves to an index resolves to it for ever, and the entry there stays;
* the registry changes by what callers and handlers register, and by nothing else;
* what changes about lookups with an event is only that a pair that has resolved to nothing finds the entry that
  came in;
* a message that is routed now calls at most one handler, and once: the one of the entry that a lookup gives now.
  When it is finished it has called this handler, and it was not found exactly if there is none;
* a message that is dispatched as a whole calls that handler, changes the registry by what this one handler
  registers, and is what becomes of a message that is routed with nothing in between. -/
theorem registering_never_reroutes (registry : Registry η) (events later : List (Event η)) :
    let now := (Switchboard.mk registry []).run events
    let after := now.run later
    (∀ head method index, now.registry.find? head method = some index →
      after.registry.find? head method = some index ∧
        after.registry.entry? index = now.registry.entry? index) ∧
    after.registry = now.registry.addAll (now.additions later) ∧
    (∀ event head method,
      (now.step event).registry.find? head method ≠ now.registry.find? head method →
        now.registry.find? head method = none ∧
          (now.step event).registry.find? head method = some now.registry.size) ∧
    (∀ message, ∃ passage,
      ((now.step (.route message)).run later).passages[now.passages.length]? = some passage ∧
        passage.message = message ∧
        let resolved := (now.registry.find? message.head message.method).bind now.registry.handler?
        passage.called <+: resolved.toList ∧
          ∀ result, passage.stage = .finished result →
            passage.called = resolved.toList ∧ (result = .notFound ↔ resolved = none)) ∧
    (∀ message behaviour,
      let routed := now.registry.dispatch behaviour message
      routed.called = (now.registry.find? message.head message.method).bind now.registry.handler? ∧
        routed.registry = now.registry.addAll
          (routed.called.elim [] fun handler => (behaviour handler message).additions now.registry) ∧
        (now.step (.route message)).ComesTo now.passages.length behaviour routed.registry
          ⟨message, routed.called.toList, .finished routed.result⟩) := by
  intro now after
  have hgrows : now.registry.Grows after.registry := now.grows_run later
  refine ⟨fun head method index hfound => ⟨hgrows.find_eq hfound, ?_⟩, now.registry_run later,
    fun event head method => find?_step_of_ne, fun message => ?_, fun message behaviour => ?_⟩
  · have hentry := List.getElem?_eq_getElem (Registry.lt_size_of_find? hfound)
    exact (hgrows.entry_eq hentry).trans hentry.symm
  · obtain ⟨passage, hpassage, hresolves⟩ := routes_run (now.routes_route message) later
    exact ⟨passage, hpassage, hresolves.called⟩
  · intro routed
    have hcalled : routed.called = now.registry.handlerFor? message :=
      Registry.called_dispatch now.registry behaviour message
    refine ⟨hcalled, ?_, now.comesTo_dispatch message behaviour⟩
    rw [hcalled]
    exact now.registry.registry_dispatch behaviour message

end Switchboard

end DeviceBus
