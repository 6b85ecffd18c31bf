import DeviceBus.Transport.Frame
import DeviceBus.Files.Tree
import DeviceBus.Url

/-!
# Sockets, listeners and connections

A listener on a socket file is reachable as long as the file at its path is the one that it made.  Making
a listener removes whatever file stood at its path, and dropping a listener removes whatever file stands
there then.

A connection is a pair of sockets.  Each keeps the bytes that its holder has not read; there is room for a
fixed number of them.  Closing a socket ends the stream to the other one, and if bytes were left unread the
other one is told that the connection was reset after it has read its own.

Where an address on the network leads is not for this module to say: it may be a listener here, another host
that accepts, or nothing.  Which of them it is comes with the network as its routes.
-/

namespace DeviceBus

/-- The number of a socket.  The sockets of a connection have the numbers `2 * n` and `2 * n + 1`. -/
abbrev SocketId := Nat

/-- The number of a listener. -/
abbrev ListenerId := Nat

/-- One end of a connection. -/
structure Socket where
  /-- bytes that have arrived and are not read -/
  incoming : ByteArray := .empty
  /-- nothing more will arrive -/
  finished : Bool := false
  /-- the reader is still to be told that the connection was reset -/
  broken : Bool := false
  /-- the half for reading is held -/
  readHeld : Bool := true
  /-- the half for writing is held -/
  writeHeld : Bool := true

/-- Whether a socket is closed. -/
def Socket.isClosed (socket : Socket) : Bool := !socket.readHeld && !socket.writeHeld

/-- Something that accepts connections. -/
structure Listener where
  /-- the address that it listens on -/
  url : Url
  /-- whether the system chose the number of the address -/
  chosen : Bool := false
  /-- the near ends of connections that are not accepted yet -/
  waiting : List SocketId := []
  isOpen : Bool := true

/-- Where an address on the network leads. -/
inductive Route where
  /-- to the first open listener here on one of these addresses -/
  | here (addresses : List String)
  /-- to another host, which accepts -/
  | elsewhere
  /-- to nobody -/
  | nowhere (fault : SystemFault)

/-- Files, sockets, listeners, and the routes of the addresses on the network. -/
structure Network where
  files : FileTree
  sockets : Array Socket := #[]
  listeners : Array Listener := #[]
  routes : String → Route := fun _ => .nowhere .unreachable

namespace Network

/-- How many bytes a socket holds for its reader. -/
def capacity : Nat := 212992

/-- The most bytes in the path of a socket file. -/
def socketPathLimit : Nat := 107

/-- The socket at the other end. -/
def peerOf (socket : SocketId) : SocketId := if socket % 2 = 0 then socket + 1 else socket - 1

/-- A socket by its number; one that does not exist is closed. -/
def socket (net : Network) (id : SocketId) : Socket :=
  (net.sockets[id]?).getD { readHeld := false, writeHeld := false, finished := true }

/-- Change a socket. -/
def modify (net : Network) (id : SocketId) (change : Socket → Socket) : Network :=
  { net with sockets := net.sockets.modify id change }

/-- Close a socket whose halves are both let go. -/
def settleClosed (net : Network) (id : SocketId) : Network :=
  let socket := net.socket id
  if socket.isClosed then
    let unread := socket.incoming.size ≠ 0
    let net := net.modify id fun socket => { socket with incoming := .empty }
    net.modify (peerOf id) fun peer =>
      { peer with finished := true, broken := peer.broken || unread }
  else net

/-- Let go of the half for writing: the stream to the other end is over. -/
def dropWriter (net : Network) (id : SocketId) : Network :=
  if (net.socket id).writeHeld then
    let net := net.modify id fun socket => { socket with writeHeld := false }
    let net := net.modify (peerOf id) fun peer => { peer with finished := true }
    net.settleClosed id
  else net

/-- Let go of the half for reading. -/
def dropReader (net : Network) (id : SocketId) : Network :=
  if (net.socket id).readHeld then
    (net.modify id fun socket => { socket with readHeld := false }).settleClosed id
  else net

/-- Let go of both halves at once. -/
def close (net : Network) (id : SocketId) : Network :=
  if (net.socket id).isClosed then net
  else
    (net.modify id fun socket => { socket with readHeld := false, writeHeld := false }).settleClosed id

/-- How many bytes can be written now, if the other end can still be written to. -/
def room (net : Network) (id : SocketId) : Except SystemFault Nat :=
  let peer := net.socket (peerOf id)
  if peer.isClosed then .error (.system .brokenPipe) else .ok (capacity - peer.incoming.size)

/-- Write as many bytes as there is room for, from `offset` on; the result is their number. -/
def write (net : Network) (id : SocketId) (bytes : ByteArray) (offset : Nat) :
    Except SystemFault (Nat × Network) :=
  match net.room id with
  | .error fault => .error fault
  | .ok room =>
      let count := min room (bytes.size - offset)
      let piece := bytes.extract offset (offset + count)
      .ok (count, net.modify (peerOf id) fun peer => { peer with incoming := peer.incoming ++ piece })

/-- Read what a socket has to offer. -/
def take (net : Network) (id : SocketId) : Frame.Supply × Network :=
  let socket := net.socket id
  if socket.incoming.size ≠ 0 then
    (.bytes socket.incoming, net.modify id fun socket => { socket with incoming := .empty })
  else if socket.broken then
    (.broken (.system .connectionReset), net.modify id fun socket => { socket with broken := false })
  else if socket.finished then (.ended, net)
  else (.nothing, net)

/-- Whether a socket has anything to offer. -/
def isReadable (net : Network) (id : SocketId) : Bool :=
  let socket := net.socket id
  socket.incoming.size ≠ 0 || socket.broken || socket.finished

/-- Read all that a socket has to offer, and whether the stream is over after it.  A connection that was
reset fails even if some bytes had arrived. -/
def readAll (net : Network) (id : SocketId) : Except SystemFault (ByteArray × Bool) × Network :=
  let socket := net.socket id
  let net := net.modify id fun socket => { socket with incoming := .empty, broken := false }
  if socket.broken then (.error (.system .connectionReset), net)
  else (.ok (socket.incoming, socket.finished), net)

/-- Remove the file at a path, if there is one; what cannot be removed stays. -/
def removeIfPresent (net : Network) (path : String) : Network :=
  if net.files.pathExists path then
    match net.files.remove path with
    | .ok files => { net with files }
    | .error _ => net
  else net

/-- Make the directories above a path. -/
def makeAbove (files : FileTree) (path : String) : Except SystemFault FileTree :=
  match Path.parent? path with
  | none => .ok files
  | some parts => files.makeDirectories (Path.ofComponents parts)

/-- Make a path free for a socket file: make the directories above it and remove what stands there. -/
def prepare (net : Network) (path : String) : Except SystemFault Unit × Network :=
  match makeAbove net.files path with
  | .error fault => (.error fault, net)
  | .ok files =>
      let net := { net with files }
      if files.pathExists path then
        match files.remove path with
        | .ok files => (.ok (), { net with files })
        | .error fault => (.error fault, net)
      else (.ok (), net)

/-- Whether a path can be the address of a socket at all. -/
def checkSocketPath (path : String) : Except SystemFault Unit :=
  if path.toList.contains '\x00' then
    .error (.refused "InvalidInput" "paths must not contain interior null bytes")
  else if socketPathLimit < path.utf8ByteSize then .error .socketPathTooLong
  else .ok ()

/-- Make a socket file for a listener.  Slashes at the end of its path do not matter where something stands
there already; where nothing does, a path with one names no file that could be made. -/
def makeSocketFile (files : FileTree) (path : String) (listener : ListenerId) :
    Except SystemFault FileTree :=
  match checkSocketPath path with
  | .error fault => .error fault
  | .ok () =>
      match files.resolve false (Path.withoutSlashes path) true with
      | .error fault => .error fault
      | .ok ⟨_, some _⟩ => .error (.system .addressInUse)
      | .ok ⟨place, none⟩ =>
          if Path.endsInSlash path then .error (.system .noSuchFile)
          else if files.mayCreate place then .ok (files.put place (.socket listener))
          else .error (.system .permissionDenied)

/-- The host and the number of an address on the network, as they count for listening. -/
def listenAddress? (address : String) : Option (String × Nat) :=
  (Url.hostAndNumber? address.toList).map fun (host, number) => (String.ofList host, number)

/-- The hosts that a listener here can have, with their numeric form. -/
def localHost? (host : String) : Option String :=
  if host = "localhost" then some "127.0.0.1"
  else if host = "0.0.0.0" ∨ host = "[::]" ∨ host = "[::1]" ∨ "127.".isPrefixOf host then some host
  else none

/-- The routes of a host that reaches nobody but itself.  A listener on all its addresses answers for each. -/
def loopback (address : String) : Route :=
  match listenAddress? address with
  | none => .nowhere (.refused "InvalidInput" "invalid socket address")
  | some (host, number) =>
      match localHost? host with
      | none => .nowhere .unreachable
      | some host =>
          .here ([host, "0.0.0.0", "[::]"].map fun host => host ++ ":" ++ toString number)

/-- The first number that the system chooses. -/
def firstChosenNumber : Nat := 32768

/-- Add a listener. -/
def addListener (net : Network) (listener : Listener) : ListenerId × Network :=
  (net.listeners.size, { net with listeners := net.listeners.push listener })

/-- Listen on an address on the network. -/
def bindTcp (net : Network) (address : String) : Except SystemFault ListenerId × Network :=
  match listenAddress? address with
  | none => (.error (.refused "InvalidInput" "invalid socket address"), net)
  | some (host, number) =>
      match localHost? host with
      | none => (.error (.system .addressNotAvailable), net)
      | some host =>
          let chosen := number = 0
          let number := if chosen then firstChosenNumber + net.listeners.size else number
          let url := Url.tcp (host ++ ":" ++ toString number)
          if net.listeners.any fun listener => listener.isOpen && listener.url = url then
            (.error (.system .addressInUse), net)
          else
            let (id, net) := net.addListener { url, chosen }
            (.ok id, net)

/-- Listen on an address.  Where a socket file cannot be made after its path was prepared, what stands
there is removed. -/
def bind (net : Network) : Url → Except SystemFault ListenerId × Network
  | .tcp address => net.bindTcp address
  | .ipc path =>
      match net.prepare path with
      | (.error fault, net) => (.error fault, net)
      | (.ok (), net) =>
          match makeSocketFile net.files path net.listeners.size with
          | .error fault => (.error fault, net.removeIfPresent path)
          | .ok files =>
              let (id, net) := { net with files }.addListener { url := .ipc path }
              (.ok id, net)

/-- The listener with a number. -/
def listener? (net : Network) (id : ListenerId) : Option Listener := net.listeners[id]?

/-- The listener that a path reaches. -/
def reach (net : Network) (path : String) : Except SystemFault ListenerId :=
  match checkSocketPath path with
  | .error fault => .error fault
  | .ok () =>
      match net.files.status true path with
      | .error fault => .error fault
      | .ok (_, .socket id) =>
          match net.listener? id with
          | some listener =>
              if listener.isOpen then .ok id else .error (.system .connectionRefused)
          | none => .error (.system .connectionRefused)
      | .ok _ => .error (.system .connectionRefused)

/-- The first open listener on one of some addresses on the network. -/
def listenerOn? (net : Network) (addresses : List String) : Option ListenerId :=
  net.listeners.findIdx? fun listener =>
    listener.isOpen && addresses.any fun address => listener.url = .tcp address

/-- Where an address leads: to a listener here, or to another host. -/
def destination (net : Network) : Url → Except SystemFault (Option ListenerId)
  | .ipc path => (net.reach path).map some
  | .tcp address =>
      match net.routes address with
      | .here addresses =>
          match net.listenerOn? addresses with
          | some id => .ok (some id)
          | none => .error (.system .connectionRefused)
      | .elsewhere => .ok none
      | .nowhere fault => .error fault

/-- Let the near end of a connection wait to be accepted. -/
def enqueue (net : Network) (id : ListenerId) (near : SocketId) : Network :=
  { net with
    listeners := net.listeners.modify id fun listener =>
      { listener with waiting := listener.waiting ++ [near] } }

/-- Connect to an address; the result is the far end, which the caller holds.  The near end waits at the
listener; another host keeps it to itself. -/
def connect (net : Network) (url : Url) : Except SystemFault (SocketId × Network) :=
  match net.destination url with
  | .error fault => .error fault
  | .ok place =>
      let far := net.sockets.size
      let net := { net with sockets := (net.sockets.push {}).push {} }
      .ok (far, match place with
        | some id => net.enqueue id (far + 1)
        | none => net)

/-- Accept the connection that has waited longest. -/
def accept (net : Network) (id : ListenerId) : Option (SocketId × Network) :=
  match net.listener? id with
  | some { waiting := near :: rest, .. } =>
      some (near,
        { net with
          listeners := net.listeners.modify id fun listener => { listener with waiting := rest } })
  | _ => none

/-- Give up a connection that was never accepted: its far end is told that it was reset. -/
def refuse (net : Network) (near : SocketId) : Network :=
  (net.modify (peerOf near) fun peer => { peer with broken := true }).close near

/-- Drop a listener. -/
def dropListener (net : Network) (id : ListenerId) : Network :=
  match net.listener? id with
  | none => net
  | some listener =>
      if !listener.isOpen then net
      else
        let net := listener.waiting.foldl refuse net
        let net :=
          { net with
            listeners := net.listeners.modify id fun listener =>
              { listener with isOpen := false, waiting := [] } }
        match listener.url with
        | .ipc path => net.removeIfPresent path
        | .tcp _ => net

/-- How the other end of an accepted connection is named: by the path of the listener. -/
def peerLabel (listener : Listener) : String :=
  match listener.url with
  | .ipc path => path
  | .tcp address => address

end Network

end DeviceBus
