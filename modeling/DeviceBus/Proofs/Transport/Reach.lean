import DeviceBus.Proofs.Files.Change
import DeviceBus.Proofs.Transport.Network

/-!
# How long a listener is reachable

A listener is found by the file at its path, and nothing says whose file that is.  Making a listener
removes what stands at its path, and dropping one removes what stands there by then.  So a listener is
reachable until it is dropped or something else is done at a path that leads to its file, and never again
after that, although it may still be open.

* `Clearing`, `Binding`: what becomes of the files at a path that is cleared, and of a listener to be made.
* `keeps_use`: a file that a use does not come upon stays, and so do the paths to it.
* `sockets_use`, `gone_use`: the number of a listener stands in a file that was made for it, and in no
  other one once a use has come upon that.
* `reachable_until_met`: which uses leave a listener reachable, and which end that.
-/

namespace DeviceBus.Network

open FileTree

/-! ## Clearing a path -/

section Clearing

variable {files : FileTree} {path : String} {place : Place}

/-- Files without what can be removed at a path. -/
def cleared (files : FileTree) (path : String) : FileTree :=
  if files.pathExists path then
    match files.remove path with
    | .ok files => files
    | .error _ => files
  else files

/-- Either nothing is removed, or what the path leads to, which is no directory. -/
theorem cleared_cases (files : FileTree) (path : String) :
    cleared files path = files ∨
      ∃ place entry, place ≠ [] ∧ files.status false path = .ok (place, entry) ∧
        (∀ isSealed, entry ≠ .directory isSealed) ∧ cleared files path = files.erase place := by
  rw [cleared]
  split
  · rcases remove_cases files path with ⟨fault, hremove⟩ | ⟨place, entry, hstatus, hentry, hremove⟩
    · rw [hremove]
      exact .inl rfl
    · have hplace : place ≠ [] := by
        refine @ne_root_of_not_directory files place fun isSealed hdirectory => hentry isSealed ?_
        exact Option.some.inj ((entry_of_status hstatus).symm.trans hdirectory)
      rw [hremove]
      exact .inr ⟨place, entry, hplace, hstatus, hentry, rfl⟩
  · exact .inl rfl

/-- The file of a socket is removed. -/
theorem cleared_of_socket {id : ListenerId} (h : files.status false path = .ok (place, .socket id)) :
    cleared files path = files.erase place := by
  have hexists : files.pathExists path = true := by
    rw [pathExists, status_of_follows h (fun _ heq => Entry.noConfusion heq)]
    rfl
  have hremove : files.remove path = .ok (files.erase place) := by rw [FileTree.remove, h]
  rw [cleared, if_pos hexists, hremove]

/-- Nothing is there that was not there before. -/
theorem entry?_of_cleared {entry : Entry} (h : entry? (cleared files path) place = some entry) :
    files.entry? place = some entry := by
  rcases cleared_cases files path with hkept | ⟨other, found, hother, hstatus, hfound, herased⟩
  · rwa [hkept] at h
  · rw [herased, entry?_erase files hother] at h
    split at h
    · cases h
    · exact h

/-- What the path does not lead to stays. -/
theorem entry?_cleared_of_missed (h : ∀ entry, files.status false path ≠ .ok (place, entry)) :
    entry? (cleared files path) place = files.entry? place := by
  rcases cleared_cases files path with hkept | ⟨other, found, hother, hstatus, hfound, herased⟩
  · rw [hkept]
  · rw [herased, entry?_erase files hother, if_neg]
    rintro rfl
    exact h found hstatus

variable (hlink : ∀ place target, files.status false path ≠ .ok (place, .link target))
include hlink

/-- Where the path leads to no link, the ways stay, and what is removed is gone from the path. -/
theorem keepsWays_cleared :
    files.KeepsWays (cleared files path) ∧ cleared (cleared files path) path = cleared files path := by
  rcases cleared_cases files path with hkept | ⟨other, found, hother, hstatus, hfound, herased⟩
  · rw [hkept]
    exact ⟨.refl files, hkept⟩
  · have hplain : found.isWay = false := by
      cases found with
      | directory isSealed => exact absurd rfl (hfound isSealed)
      | link target => exact absurd hstatus (hlink other target)
      | file => rfl
      | socket => rfl
      | device => rfl
    have hways : files.KeepsWays (files.erase other) := by
      refine keepsWays_erase hother fun value hvalue => ?_
      rw [entry_of_status hstatus] at hvalue
      cases hvalue
      exact hplain
    have hgone := hways.status_of_gone hstatus hplain (by rw [entry?_erase files hother, if_pos rfl])
    rw [herased]
    refine ⟨hways, ?_⟩
    rcases cleared_cases (files.erase other) path with hkept | ⟨_, _, -, hstatus', -⟩
    · exact hkept
    · rw [hgone] at hstatus'
      cases hstatus'

end Clearing

/-- What becomes of the files when a path is cleared, and perhaps gets the file of a listener. -/
inductive Clearing (files : FileTree) (path : String) : Option ListenerId → FileTree → Prop where
  | once : Clearing files path none (cleared files path)
  /-- the path is cleared again, since no file could be made -/
  | twice : Clearing files path none (cleared (cleared files path) path)
  | filled (id : ListenerId) (place : Place)
      (leads : (cleared files path).resolve false path true = .ok ⟨place, none⟩) :
      Clearing files path (some id) ((cleared files path).put place (.socket id))

namespace Clearing

variable {files after : FileTree} {path : String} {number : Option ListenerId}

/-- A file that the path does not lead to stays, and so do the ways, where the path leads to no link. -/
theorem keeps (h : Clearing files path number after)
    (hlink : ∀ place target, files.status false path ≠ .ok (place, .link target)) {place : Place}
    {entry : Entry} (hentry : files.entry? place = some entry)
    (hmissed : ∀ entry, files.status false path ≠ .ok (place, entry)) :
    files.KeepsWays after ∧ after.entry? place = some entry := by
  obtain ⟨hways, htwice⟩ := keepsWays_cleared hlink
  have hstays : entry? (cleared files path) place = some entry := by
    rw [entry?_cleared_of_missed hmissed, hentry]
  cases h with
  | once => exact ⟨hways, hstays⟩
  | twice =>
      rw [htwice]
      exact ⟨hways, hstays⟩
  | filled id other leads =>
      have hnone : entry? (cleared files path) other = none := (entry_eq_of_resolve leads).symm
      refine ⟨hways.trans (keepsWays_put (fun value hvalue => ?_) _), ?_⟩
      · cases hnone.symm.trans hvalue
      · rw [entry?_put_of_resolve leads, if_neg, hstays]
        rintro rfl
        cases hnone.symm.trans hstays

/-- The file of a socket was there before, or it is the one that was made. -/
theorem socket (h : Clearing files path number after) {place : Place} {id : ListenerId}
    (hentry : after.entry? place = some (.socket id)) :
    files.entry? place = some (.socket id) ∨ number = some id := by
  cases h with
  | once => exact .inl (entry?_of_cleared hentry)
  | twice => exact .inl (entry?_of_cleared (entry?_of_cleared hentry))
  | filled new other leads =>
      rw [entry?_put_of_resolve leads] at hentry
      split at hentry
      · cases hentry
        exact .inr rfl
      · exact .inl (entry?_of_cleared hentry)

/-- No socket's file stays where the path leads, except one that is made there. -/
theorem gone (h : Clearing files path number after) {place : Place} {entry : Entry} {id : ListenerId}
    (hmet : files.status false path = .ok (place, entry)) (hnumber : number ≠ some id) :
    after.entry? place ≠ some (.socket id) := by
  intro hentry
  -- it was there before, so it is what the path led to
  have hbefore := (h.socket hentry).resolve_right hnumber
  obtain rfl : entry = .socket id := Option.some.inj ((entry_of_status hmet).symm.trans hbefore)
  have hnone : entry? (cleared files path) place = none := by
    rw [cleared_of_socket hmet, entry?_erase files, if_pos rfl]
    exact ne_root_of_not_directory fun _ hdirectory => by cases hbefore.symm.trans hdirectory
  cases h with
  | once => cases hnone.symm.trans hentry
  | twice => cases hnone.symm.trans (entry?_of_cleared hentry)
  | filled new other leads =>
      rw [entry?_put_of_resolve leads] at hentry
      split at hentry
      · cases hentry
        exact hnumber rfl
      · cases hnone.symm.trans hentry

end Clearing

/-! ## Making listeners -/

theorem removeIfPresent_eq (net : Network) (path : String) :
    net.removeIfPresent path = { net with files := cleared net.files path } := by
  unfold removeIfPresent cleared
  split
  · cases net.files.remove path with
    | error fault => rfl
    | ok files => rfl
  · rfl

theorem furnishes_makeAbove {files made : FileTree} {path : String} (h : makeAbove files path = .ok made) :
    files.Furnishes made := by
  unfold makeAbove at h
  split at h
  · cases h
    exact .refl files
  · exact furnishes_makeDirectories h

/-- A path is made free by making the directories above it and clearing it. -/
theorem prepare_of_makeAbove {net : Network} {path : String} {made : FileTree}
    (h : makeAbove net.files path = .ok made) :
    ∃ result, net.prepare path = (result, { net with files := cleared made path }) := by
  simp only [prepare, h, cleared]
  split
  · cases made.remove path with
    | error fault => exact ⟨.error fault, rfl⟩
    | ok files => exact ⟨.ok (), rfl⟩
  · exact ⟨.ok (), rfl⟩

/-- A socket file is made where the path leads to nothing, which no path with a slash at its end does. -/
theorem makeSocketFile_eq_ok {files after : FileTree} {path : String} {id : ListenerId}
    (h : makeSocketFile files path id = .ok after) :
    checkSocketPath path = .ok () ∧
      ∃ place, files.resolve false path true = .ok ⟨place, none⟩ ∧
        after = files.put place (.socket id) := by
  unfold makeSocketFile at h
  split at h
  · cases h
  · rename_i hpath
    split at h
    · cases h
    · cases h
    · rename_i place hleads
      split at h
      · cases h
      · rename_i hslash
        split at h
        · cases h
          rw [Path.withoutSlashes_of_not_endsInSlash (Bool.eq_false_iff.2 hslash)] at hleads
          exact ⟨hpath, place, hleads, rfl⟩
        · cases h

/-- All that can come of making a listener on a path. -/
inductive Binding (net : Network) (path : String) : Except SystemFault ListenerId × Network → Prop where
  | refused (fault : SystemFault) (above : makeAbove net.files path = .error fault) :
      Binding net path (.error fault, net)
  | failed (fault : SystemFault) (made left : FileTree) (above : makeAbove net.files path = .ok made)
      (clearing : Clearing made path none left) : Binding net path (.error fault, { net with files := left })
  | bound (made left : FileTree) (above : makeAbove net.files path = .ok made)
      (taken : checkSocketPath path = .ok ())
      (clearing : Clearing made path (some net.listeners.size) left) :
      Binding net path (.ok net.listeners.size,
        { net with files := left, listeners := net.listeners.push { url := .ipc path } })

theorem binding_bind (net : Network) (path : String) : Binding net path (net.bind (.ipc path)) := by
  cases habove : makeAbove net.files path with
  | error fault =>
      have hprepare : net.prepare path = (.error fault, net) := by rw [prepare, habove]
      rw [bind, hprepare]
      exact .refused fault habove
  | ok made =>
      obtain ⟨result, hprepare⟩ := prepare_of_makeAbove habove
      rw [bind, hprepare]
      cases result with
      | error fault => exact .failed fault made _ habove .once
      | ok =>
          dsimp only
          split
          · rename_i fault _
            rw [removeIfPresent_eq]
            exact .failed fault made _ habove .twice
          · rename_i left hmake
            obtain ⟨htaken, place, hleads, rfl⟩ := makeSocketFile_eq_ok hmake
            exact .bound made _ habove htaken (.filled _ place hleads)

/-! ## Dropping listeners -/

/-- Whether a listener was made and not dropped. -/
def isListening (net : Network) (id : ListenerId) : Bool := (net.listener? id).any Listener.isOpen

/-- Connections that are refused are sockets: neither files nor listeners change. -/
theorem foldl_refuse (net : Network) (waiting : List SocketId) :
    (waiting.foldl refuse net).files = net.files ∧
      (waiting.foldl refuse net).listeners = net.listeners := by
  induction waiting generalizing net with
  | nil => exact ⟨rfl, rfl⟩
  | cons near rest ih =>
      have hclose := recedes_close (net.modify (peerOf near) fun peer => { peer with broken := true }) near
      obtain ⟨hfiles, hlisteners⟩ := ih (net.refuse near)
      exact ⟨hfiles.trans hclose.files, hlisteners.trans hclose.listeners⟩

/-- A listener that is dropped is closed, and the path that it was made on is cleared. -/
inductive Dropping (net : Network) (id : ListenerId) (after : Network) : Prop where
  | closed (deaf : net.isListening id = false) (same : after = net)
  | dropped (listener : Listener) (found : net.listener? id = some listener)
      (opened : listener.isOpen = true)
      (listeners : after.listeners =
        net.listeners.modify id fun listener => { listener with isOpen := false, waiting := [] })
      (files : after.files =
        match listener.url with
        | .ipc path => cleared net.files path
        | .tcp _ => net.files)

theorem dropping_dropListener (net : Network) (id : ListenerId) :
    Dropping net id (net.dropListener id) := by
  unfold dropListener
  cases hfound : net.listener? id with
  | none => exact .closed (by rw [isListening, hfound]; rfl) rfl
  | some listener =>
      obtain ⟨hfiles, hlisteners⟩ := foldl_refuse net listener.waiting
      dsimp only
      cases hopen : listener.isOpen with
      | false => exact .closed (by rw [isListening, hfound]; exact hopen) rfl
      | true =>
          refine .dropped listener hfound hopen ?_ ?_
          · cases listener.url with
            | ipc path => simp [removeIfPresent_eq, hlisteners]
            | tcp address => simp [hlisteners]
          · cases listener.url with
            | ipc path => simp [removeIfPresent_eq, hfiles]
            | tcp address => simp [hfiles]

theorem isListening_dropListener (net : Network) (id other : ListenerId) :
    (net.dropListener id).isListening other = (net.isListening other && decide (other ≠ id)) := by
  cases dropping_dropListener net id with
  | closed deaf same =>
      rw [same]
      by_cases hother : other = id
      · rw [hother, deaf]
        rfl
      · simp [hother]
  | dropped listener found opened listeners files =>
      by_cases hother : other = id
      · subst hother
        have hfound : net.listeners[other]? = some listener := found
        simp [isListening, listener?, listeners, Array.getElem?_modify, hfound]
      · simp [isListening, listener?, listeners, Array.getElem?_modify, Ne.symm hother, hother]

/-! ## Uses -/

/-- What is done with listeners and their files. -/
inductive Use where
  | bind (url : Url)
  | drop (id : ListenerId)
  | dial (url : Url)
  | accept (id : ListenerId)
  deriving DecidableEq

/-- The network after a use. -/
def use (net : Network) : Use → Network
  | .bind url => (net.bind url).2
  | .drop id => net.dropListener id
  | .dial url =>
      match net.connect url with
      | .ok (_, net) => net
      | .error _ => net
  | .accept id =>
      match net.accept id with
      | some (_, net) => net
      | none => net

/-- The network after some uses. -/
def after (net : Network) (uses : List Use) : Network := uses.foldl use net

/-- The path that a use clears, with the files by then. -/
def clears? (net : Network) : Use → Option (FileTree × String)
  | .bind (.ipc path) => (makeAbove net.files path).toOption.map fun made => (made, path)
  | .drop id =>
      match net.listener? id with
      | some { url := .ipc path, isOpen := true, .. } => some (net.files, path)
      | _ => none
  | _ => none

/-- What a use comes upon at the path that it clears, with the place. -/
def meets? (net : Network) (use : Use) : Option (Place × Entry) :=
  (net.clears? use).bind fun (files, path) => (files.status false path).toOption

/-- Some uses one after the other, each with what it comes upon. -/
def encounters (net : Network) : List Use → List (Use × Option (Place × Entry))
  | [] => []
  | use :: later => (use, net.meets? use) :: encounters (net.use use) later

/-- All that a use can do to the files; the number is that of a listener whose file was made. -/
inductive Handling (net : Network) (use : Use) : Option ListenerId → FileTree → Prop where
  | aside (unclear : net.clears? use = none) : Handling net use none net.files
  | clearing (made after : FileTree) (path : String) (number : Option ListenerId)
      (clears : net.clears? use = some (made, path)) (above : net.files.Furnishes made)
      (cleared : Clearing made path number after) : Handling net use number after

/-- All that a use can do: it drops no listener but the one it is for, and listeners are numbered in the
order in which they are made. -/
structure Using (net : Network) (use : Use) (after : Network) : Prop where
  listening : ∀ id, id < net.listeners.size →
    after.isListening id = (net.isListening id && decide (use ≠ .drop id))
  more : net.listeners.size ≤ after.listeners.size
  handling : ∃ number, Handling net use number after.files ∧
    ∀ id, number = some id → id = net.listeners.size ∧ id < after.listeners.size

theorem isListening_of_push {net after : Network} {listener : Listener}
    (h : after.listeners = net.listeners.push listener) {id : Nat} (hid : id < net.listeners.size) :
    after.isListening id = net.isListening id := by
  simp [isListening, listener?, h, Array.getElem?_push, Nat.ne_of_lt hid]

/-- Who waits at a listener does not matter for whether it is open. -/
theorem isListening_of_modify {net after : Network} {id : ListenerId} (change : Listener → List SocketId)
    (h : after.listeners = net.listeners.modify id fun listener =>
      { listener with waiting := change listener }) (other : ListenerId) :
    after.isListening other = net.isListening other := by
  simp only [isListening, listener?, h, Array.getElem?_modify]
  split
  · cases net.listeners[other]? with
    | none => rfl
    | some listener => rfl
  · rfl

/-- Listening on the network makes a listener or fails, and changes no file. -/
theorem bindTcp_cases (net : Network) (address : String) :
    (∃ fault, net.bindTcp address = (.error fault, net)) ∨
      ∃ listener, net.bindTcp address =
        (.ok net.listeners.size, { net with listeners := net.listeners.push listener }) := by
  unfold bindTcp
  split
  · exact .inl ⟨_, rfl⟩
  · split
    · exact .inl ⟨_, rfl⟩
    · dsimp only
      -- the number is the one that was asked for, or the system's choice
      split
      · split
        · exact .inl ⟨_, rfl⟩
        · exact .inr ⟨_, rfl⟩
      · split
        · exact .inl ⟨_, rfl⟩
        · exact .inr ⟨_, rfl⟩

theorem using_bind (net : Network) (url : Url) : Using net (.bind url) (net.bind url).2 := by
  have haside : ∀ id : ListenerId, (decide (Use.bind url ≠ .drop id)) = true := fun _ => rfl
  cases url with
  | tcp address =>
      rw [bind]
      rcases bindTcp_cases net address with ⟨fault, hresult⟩ | ⟨listener, hresult⟩
      · rw [hresult]
        exact ⟨by simp, Nat.le_refl _, none, .aside rfl, by rintro _ ⟨⟩⟩
      · rw [hresult]
        refine ⟨fun id hid => ?_, by simp, none, .aside rfl, by rintro _ ⟨⟩⟩
        rw [isListening_of_push rfl hid, haside, Bool.and_true]
  | ipc path =>
      have hclears : ∀ made, makeAbove net.files path = .ok made →
          net.clears? (.bind (.ipc path)) = some (made, path) := by
        intro made above
        simp only [clears?, above]
        rfl
      have hbinding := binding_bind net path
      generalize net.bind (.ipc path) = result at hbinding ⊢
      cases hbinding with
      | refused fault above =>
          refine ⟨by simp, Nat.le_refl _, none, .aside ?_, by rintro _ ⟨⟩⟩
          simp only [clears?, above]
          rfl
      | failed fault made left above clearing =>
          exact ⟨by simp [isListening, listener?], Nat.le_refl _, none,
            .clearing made left path none (hclears made above) (furnishes_makeAbove above) clearing,
            by rintro _ ⟨⟩⟩
      | bound made left above taken clearing =>
          refine ⟨fun id hid => ?_, by simp, _,
            .clearing made left path _ (hclears made above) (furnishes_makeAbove above) clearing, ?_⟩
          · rw [isListening_of_push rfl hid, haside, Bool.and_true]
          · rintro id ⟨⟩
            simp

theorem using_drop (net : Network) (id : ListenerId) : Using net (.drop id) (net.dropListener id) := by
  refine ⟨fun other _ => ?_, ?_, none, ?_, by rintro _ ⟨⟩⟩
  · rw [isListening_dropListener]
    simp [eq_comm]
  · cases dropping_dropListener net id with
    | closed deaf same => exact Nat.le_of_eq (by rw [same])
    | dropped listener found opened listeners files =>
        exact Nat.le_of_eq (by rw [listeners, Array.size_modify])
  · cases dropping_dropListener net id with
    | closed deaf same =>
        rw [same]
        refine .aside ?_
        rw [isListening] at deaf
        unfold clears?
        dsimp only
        split
        · rename_i hfound
          rw [hfound] at deaf
          cases deaf
        · rfl
    | dropped listener found opened listeners files =>
        obtain ⟨url, chosen, waiting, isOpen⟩ := listener
        cases opened
        cases url with
        | tcp address =>
            rw [files]
            exact .aside (by simp [clears?, found])
        | ipc path =>
            rw [files]
            exact .clearing net.files _ path none (by simp [clears?, found]) (.refl _) .once

/-- What any use does. -/
theorem using_use (net : Network) (use : Use) : Using net use (net.use use) := by
  cases use with
  | bind url => exact using_bind net url
  | drop id => exact using_drop net id
  | dial url =>
      have haside : net.clears? (.dial url) = none := rfl
      rw [Network.use]
      split
      · rename_i far after hconnect
        obtain ⟨id, -, -, rfl⟩ := connect_eq_ok hconnect
        refine ⟨fun other _ => ?_, ?_, none, .aside haside, by rintro _ ⟨⟩⟩
        · rw [isListening_of_modify (fun listener => listener.waiting ++ [net.sockets.size + 1]) rfl]
          simp
        · simp [join]
      · exact ⟨by simp, Nat.le_refl _, none, .aside haside, by rintro _ ⟨⟩⟩
  | accept id =>
      have haside : net.clears? (.accept id) = none := rfl
      rw [Network.use]
      split
      · rename_i near after haccept
        unfold accept at haccept
        split at haccept
        · rename_i rest _ _
          cases haccept
          refine ⟨fun other _ => ?_, ?_, none, .aside haside, by rintro _ ⟨⟩⟩
          · rw [isListening_of_modify (fun _ => rest) rfl]
            simp
          · simp
        · cases haccept
      · exact ⟨by simp, Nat.le_refl _, none, .aside haside, by rintro _ ⟨⟩⟩

/-! ## Files that a use comes upon, and others -/

section Meeting

variable {net : Network} {use : Use} {place : Place}

theorem status_of_meets? {entry : Entry} {made : FileTree} {path : String}
    (hclears : net.clears? use = some (made, path)) :
    net.meets? use = some (place, entry) ↔ made.status false path = .ok (place, entry) := by
  rw [meets?, hclears]
  change (made.status false path).toOption = some (place, entry) ↔ _
  cases made.status false path with
  | error fault => simp [Except.toOption]
  | ok found => simp [Except.toOption]

/-- A file that a use does not come upon stays, and so do the ways, if the use does not come upon a link. -/
theorem keeps_use {entry : Entry} (hentry : net.files.entry? place = some entry)
    (hspared : (net.meets? use).map Prod.fst ≠ some place)
    (hlink : ∀ other target, net.meets? use ≠ some (other, .link target)) :
    net.files.KeepsWays (net.use use).files ∧ entry? (net.use use).files place = some entry := by
  obtain ⟨number, hhandling, -⟩ := (using_use net use).handling
  generalize (net.use use).files = after at hhandling ⊢
  cases hhandling with
  | aside unclear => exact ⟨.refl _, hentry⟩
  | clearing made _ path _ clears above clearing =>
      have hmissed : ∀ found, made.status false path ≠ .ok (place, found) := by
        intro found hstatus
        rw [(status_of_meets? clears).2 hstatus] at hspared
        exact hspared rfl
      have hways := clearing.keeps (fun other target hstatus =>
        hlink other target ((status_of_meets? clears).2 hstatus)) (above.kept place entry hentry) hmissed
      exact hways.imp_left above.keepsWays.trans

/-- The file of a listener was there before, or the listener is the one that was made. -/
theorem sockets_use {id : ListenerId} (h : entry? (net.use use).files place = some (.socket id)) :
    net.files.entry? place = some (.socket id) ∨
      id = net.listeners.size ∧ id < (net.use use).listeners.size := by
  obtain ⟨number, hhandling, hnumber⟩ := (using_use net use).handling
  generalize (net.use use).files = after at hhandling h
  cases hhandling with
  | aside unclear => exact .inl h
  | clearing made _ path _ clears above clearing =>
      rcases clearing.socket h with hmade | hnew
      · rcases above.added place _ hmade with hbefore | ⟨_, hdirectory⟩
        · exact .inl hbefore
        · cases hdirectory
      · exact .inr (hnumber id hnew)

/-- The file of a listener that was made before is gone from where a use came upon something. -/
theorem gone_use {entry : Entry} {id : ListenerId} (hmet : net.meets? use = some (place, entry))
    (hid : id < net.listeners.size) : entry? (net.use use).files place ≠ some (.socket id) := by
  obtain ⟨number, hhandling, hnumber⟩ := (using_use net use).handling
  generalize (net.use use).files = after at hhandling ⊢
  cases hhandling with
  | aside unclear =>
      rw [meets?, unclear] at hmet
      cases hmet
  | clearing made _ path _ clears above clearing =>
      exact clearing.gone ((status_of_meets? clears).1 hmet) fun heq =>
        Nat.ne_of_lt hid (hnumber id heq).1

end Meeting

/-! ## Listeners over many uses -/

/-- Every file of a listener bears the number of one that was made. -/
def KnowsSockets (net : Network) : Prop :=
  ∀ place id, net.files.entry? place = some (.socket id) → id < net.listeners.size

theorem KnowsSockets.after {net : Network} (h : net.KnowsSockets) (uses : List Use) :
    (net.after uses).KnowsSockets := by
  induction uses generalizing net with
  | nil => exact h
  | cons use later ih =>
      refine ih fun place id hentry => ?_
      rcases sockets_use hentry with hbefore | ⟨-, hnew⟩
      · exact Nat.lt_of_lt_of_le (h place id hbefore) (using_use net use).more
      · exact hnew

theorem lt_of_isListening {net : Network} {id : ListenerId} (h : net.isListening id = true) :
    id < net.listeners.size := by
  rw [isListening, Option.any_eq_true] at h
  obtain ⟨listener, hlistener, -⟩ := h
  exact (Array.getElem?_eq_some_iff.1 hlistener).1

/-- A path reaches a listener that is open and whose file it leads to. -/
theorem reach_eq_ok_iff {net : Network} {path : String} {id : ListenerId} :
    net.reach path = .ok id ↔ checkSocketPath path = .ok () ∧
      (∃ place, net.files.status true path = .ok (place, .socket id)) ∧ net.isListening id = true := by
  constructor
  · intro h
    unfold reach at h
    split at h
    · cases h
    · rename_i htaken
      split at h
      · cases h
      · rename_i place found hstatus
        split at h
        · rename_i listener hlistener
          split at h
          · rename_i hopen
            cases h
            refine ⟨htaken, ⟨place, hstatus⟩, ?_⟩
            rw [isListening, hlistener]
            exact hopen
          · cases h
        · cases h
      · cases h
  · rintro ⟨htaken, ⟨place, hstatus⟩, hlistening⟩
    obtain ⟨listener, hlistener, hopen⟩ := (Option.any_eq_true _ _).1 hlistening
    rw [reach, htaken, hstatus]
    simp [hlistener, hopen]

/-- A listener that is open, and the place that a path to its file leads to. -/
structure Stands (net : Network) (path : String) (id : ListenerId) (place : Place) : Prop where
  listening : net.isListening id = true
  leads : net.files.status true path = .ok (place, .socket id)

/-- A listener that no path will ever reach. -/
structure Lost (net : Network) (id : ListenerId) : Prop where
  number : id < net.listeners.size
  unreached : net.isListening id = false ∨ ∀ place, net.files.entry? place ≠ some (.socket id)

/-- Uses that neither drop a listener nor come upon its file. -/
def Spares (id : ListenerId) (place : Place) (met : Use × Option (Place × Entry)) : Prop :=
  met.1 ≠ .drop id ∧ met.2.map Prod.fst ≠ some place

instance (id : ListenerId) (place : Place) (met : Use × Option (Place × Entry)) :
    Decidable (Spares id place met) :=
  inferInstanceAs (Decidable (_ ∧ _))

theorem Stands.use {net : Network} {path : String} {id : ListenerId} {place : Place}
    (h : net.Stands path id place) {use : Use} (hspared : Spares id place (use, net.meets? use))
    (hlink : ∀ other target, net.meets? use ≠ some (other, .link target)) :
    (net.use use).Stands path id place := by
  obtain ⟨hways, hentry⟩ := keeps_use (entry_of_status h.leads) hspared.2 hlink
  refine ⟨?_, hways.status h.leads hentry⟩
  rw [(using_use net use).listening id (lt_of_isListening h.listening), h.listening]
  simpa using hspared.1

theorem Lost.use {net : Network} {id : ListenerId} (h : net.Lost id) (use : Use) :
    (net.use use).Lost id := by
  have husing := using_use net use
  refine ⟨Nat.lt_of_lt_of_le h.number husing.more, ?_⟩
  rcases h.unreached with hclosed | hnowhere
  · rw [husing.listening id h.number, hclosed]
    exact .inl rfl
  · refine .inr fun place hentry => ?_
    rcases sockets_use hentry with hbefore | ⟨hnew, -⟩
    · exact hnowhere place hbefore
    · exact Nat.ne_of_lt h.number hnew

theorem Lost.after {net : Network} {id : ListenerId} (h : net.Lost id) (uses : List Use) :
    (net.after uses).Lost id := by
  induction uses generalizing net with
  | nil => exact h
  | cons use later ih => exact ih (h.use use)

theorem Lost.reach {net : Network} {id : ListenerId} (h : net.Lost id) (path : String) :
    net.reach path ≠ .ok id := by
  intro hreach
  obtain ⟨-, ⟨place, hstatus⟩, hopen⟩ := reach_eq_ok_iff.1 hreach
  rcases h.unreached with hclosed | hnowhere
  · rw [hclosed] at hopen
    cases hopen
  · exact hnowhere place (entry_of_status hstatus)

/-- A use that drops a listener, or comes upon the only place where its file stands, loses it. -/
theorem lost_use {net : Network} {id : ListenerId} {place : Place} (hid : id < net.listeners.size)
    (honly : ∀ other, net.files.entry? other = some (.socket id) → other = place) {use : Use}
    (hmet : ¬Spares id place (use, net.meets? use)) : (net.use use).Lost id := by
  have husing := using_use net use
  refine ⟨Nat.lt_of_lt_of_le hid husing.more, ?_⟩
  by_cases hdrop : use = .drop id
  · refine .inl ?_
    rw [husing.listening id hid]
    simp [hdrop]
  · have hplace : (net.meets? use).map Prod.fst = some place :=
      Classical.not_not.1 fun hne => hmet ⟨hdrop, hne⟩
    obtain ⟨found, hfound, rfl⟩ := Option.map_eq_some_iff.1 hplace
    refine .inr fun other hentry => ?_
    rcases sockets_use hentry with hbefore | ⟨hnew, -⟩
    · rw [honly other hbefore] at hentry
      exact gone_use hfound hid hentry
    · exact Nat.ne_of_lt hid hnew

/-- What was made on a path stands there and nowhere else, and the path can be the address of a socket. -/
theorem stands_of_bind {net bound : Network} (hnet : net.KnowsSockets) {path : String} {id : ListenerId}
    (h : net.bind (.ipc path) = (.ok id, bound)) :
    ∃ place, bound.Stands path id place ∧ checkSocketPath path = .ok () ∧
      ∀ other, bound.files.entry? other = some (.socket id) → other = place := by
  have hbinding := binding_bind net path
  rw [h] at hbinding
  cases hbinding with
  | bound made left above taken clearing =>
      cases clearing with
      | filled _ place leads =>
          refine ⟨place, ⟨by simp [isListening, listener?], status_of_put leads rfl⟩, taken, ?_⟩
          intro other hentry
          dsimp only at hentry
          rw [entry?_put_of_resolve leads] at hentry
          split at hentry
          · assumption
          · -- no file that was there before bears the number of the new listener
            rcases (furnishes_makeAbove above).added other _ (entry?_of_cleared hentry) with
              hbefore | ⟨_, hdirectory⟩
            · exact absurd (hnet other _ hbefore) (Nat.lt_irrefl _)
            · cases hdirectory

/-- A listener stands as long as every use spares it. -/
theorem Stands.after {net : Network} {path : String} {id : ListenerId} {place : Place}
    (h : net.Stands path id place) {uses : List Use}
    (hspared : ∀ met ∈ net.encounters uses, Spares id place met)
    (hlink : ∀ met ∈ net.encounters uses, ∀ other target, met.2 ≠ some (other, .link target)) :
    (net.after uses).Stands path id place := by
  induction uses generalizing net with
  | nil => exact h
  | cons use later ih =>
      rw [encounters, List.forall_mem_cons] at hspared hlink
      exact ih (h.use hspared.1 hlink.1) hspared.2 hlink.2

/-- A listener is lost once a use does not spare it. -/
theorem lost_after {net : Network} {id : ListenerId} {place : Place} (hid : id < net.listeners.size)
    (honly : ∀ other, net.files.entry? other = some (.socket id) → other = place) {uses : List Use}
    (hmet : ∃ met ∈ net.encounters uses, ¬Spares id place met) : (net.after uses).Lost id := by
  induction uses generalizing net with
  | nil =>
      obtain ⟨_, hmem, -⟩ := hmet
      cases hmem
  | cons use later ih =>
      rw [encounters, List.exists_mem_cons_iff] at hmet
      rcases hmet with hnow | hlater
      · exact (lost_use hid honly hnow).after later
      · have hstill : ∀ other, entry? (net.use use).files other = some (.socket id) → other = place := by
          intro other hentry
          rcases sockets_use hentry with hbefore | ⟨hnew, -⟩
          · exact honly other hbefore
          · exact absurd hnew (Nat.ne_of_lt hid)
        exact ih (Nat.lt_of_lt_of_le hid (using_use net use).more) hstill hlater

/-- A listener that was made on a path is reached by it as long as no use drops it or comes upon its file, and
none comes upon a link, which may be on the way to it.  Once a use drops it or comes upon its file, be it
that another listener is made there or that another one which was made there is dropped, no path reaches it
any more. -/
theorem reachable_until_met {start bound : Network} (hstart : start.KnowsSockets) {earlier : List Use}
    {path : String} {id : ListenerId} (hbind : (start.after earlier).bind (.ipc path) = (.ok id, bound)) :
    ∃ place, bound.files.status true path = .ok (place, .socket id) ∧
      ∀ later,
        ((∀ met ∈ bound.encounters later, Spares id place met) →
          (∀ met ∈ bound.encounters later, ∀ other target, met.2 ≠ some (other, .link target)) →
          (bound.after later).connect (.ipc path) =
            .ok ((bound.after later).sockets.size, (bound.after later).join id)) ∧
        ((∃ met ∈ bound.encounters later, ¬Spares id place met) →
          ∀ other, (bound.after later).reach other ≠ .ok id) := by
  obtain ⟨place, hstands, htaken, honly⟩ := stands_of_bind (hstart.after earlier) hbind
  refine ⟨place, hstands.leads, fun later => ⟨fun hspared hlink => ?_, fun hmet => ?_⟩⟩
  · have hstill := hstands.after hspared hlink
    have hreach : (bound.after later).reach path = .ok id :=
      reach_eq_ok_iff.2 ⟨htaken, ⟨place, hstill.leads⟩, hstill.listening⟩
    exact connect_of_destination (congrArg (Except.map some) hreach)
  · exact (lost_after (lt_of_isListening hstands.listening) honly hmet).reach

/-! ## Listeners on a new machine -/

theorem knowsSockets_fresh : KnowsSockets { files := .fresh } := by
  intro place id hentry
  have hroot : place ≠ [] := by
    rintro rfl
    cases hentry
  have hmem := wellFormed_fresh.mem_entries_iff.2 ⟨hroot, hentry⟩
  simp [FileTree.fresh] at hmem

/-- A listener is reached after one on another path is dropped, and not after something is made on its path
written in another way. -/
theorem reachable_until_met_beside :
    let bound := (bind (after { files := .fresh } [.bind (.ipc "a")]) (.ipc "b")).2
    (bound.after [.drop 0]).connect (.ipc "b") =
        .ok ((bound.after [.drop 0]).sockets.size, (bound.after [.drop 0]).join 1) ∧
      ∀ other, (bound.after [.bind (.ipc "./b")]).reach other ≠ .ok 1 := by
  intro bound
  have hid : (bind (after { files := .fresh } [.bind (.ipc "a")]) (.ipc "b")).1 = .ok 1 := by
    decide +kernel
  have hbind : bind (after { files := .fresh } [.bind (.ipc "a")]) (.ipc "b") = (.ok 1, bound) :=
    Prod.ext hid rfl
  have hstatus : bound.files.status true "b" = .ok (["home", "device", "b"], .socket 1) := by
    decide +kernel
  obtain ⟨place, hleads, hlater⟩ := reachable_until_met knowsSockets_fresh hbind
  obtain rfl : ["home", "device", "b"] = place :=
    congrArg Prod.fst (Except.ok.inj (hstatus.symm.trans hleads))
  have hdrop : bound.encounters [.drop 0] =
      [(.drop 0, some (["home", "device", "a"], .socket 0))] := by decide +kernel
  have hspared : ∀ met ∈ bound.encounters [.drop 0], Spares 1 ["home", "device", "b"] met := by
    rw [hdrop]
    decide
  have hlink : ∀ met ∈ bound.encounters [.drop 0], ∀ other target,
      met.2 ≠ some (other, .link target) := by
    rw [hdrop]
    simp
  have hmet : ∃ met ∈ bound.encounters [.bind (.ipc "./b")], ¬Spares 1 ["home", "device", "b"] met := by
    decide +kernel
  exact ⟨(hlater [.drop 0]).1 hspared hlink, (hlater [.bind (.ipc "./b")]).2 hmet⟩

/-- A listener is out of reach once the one that was made before it on its path is dropped, although it is
open and was made last. -/
theorem not_last_listener_reachable :
    ¬∀ (earlier later : List Use) (path : String) (id : ListenerId) (bound : Network),
      (after { files := .fresh } earlier).bind (.ipc path) = (.ok id, bound) →
      (∀ use ∈ later, use ≠ .drop id ∧ use ≠ .bind (.ipc path)) →
      (bound.after later).reach path = .ok id := by
  intro h
  have hid : (bind (after { files := .fresh } [.bind (.ipc "s.ipc")]) (.ipc "s.ipc")).1 = .ok 1 := by
    decide +kernel
  have hreach := h [.bind (.ipc "s.ipc")] [.drop 0] "s.ipc" 1 _ (Prod.ext hid rfl) (by decide)
  have hgone : ((bind (after { files := .fresh } [.bind (.ipc "s.ipc")]) (.ipc "s.ipc")).2.after
      [.drop 0]).reach "s.ipc" = .error (.system .noSuchFile) := by decide +kernel
  cases hgone.symm.trans hreach

end DeviceBus.Network
