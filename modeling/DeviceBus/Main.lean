import DeviceBus.CommandLine.Tap
import DeviceBus.CommandLine.Forwarder

/-!
# Programs

`tap` and `forward` work on streams instead of sockets, so that any program that connects to a socket can
be put in front of them.  To the tap, standard input is what the back of the proxy sends.  To the
forwarder, standard input is one publisher and standard output is one subscriber.

Everything that decides is in the library: files, variables and bytes are collected here, handed over,
and what comes back is printed.
-/

namespace DeviceBus.CommandLine

/-- The variables under which settings are usually given. -/
def settingVariables : List String :=
  [Config.fileVariable, "PROCBUS__BUS__TRANSPORT", "PROCBUS__BUS__PROXY__FRONT_URL",
    "PROCBUS__BUS__PROXY__BACK_URL", "PROCBUS__QUEUE__MAX_LENGTH", "PROCBUS__QUEUE__RING_SLOTS",
    "PROCBUS__QUEUE__RING_SLOT_SIZE", "PROCBUS__RETENTION__DIRECTORY",
    "PROCBUS__RETENTION__MAX_SIZE_KB", "PROCBUS__PROCESS__LOCK_DIR"]

/-- The variables that are set. -/
def collectVariables : IO (List (String × String)) := do
  let mut found := []
  for name in settingVariables do
    if let some value ← IO.getEnv name then
      found := found ++ [(name, value)]
  return found

/-- The contents of a file, if it can be read. -/
def contentsOf? (path : String) : IO (Option ByteArray) := do
  try
    return some (← IO.FS.readBinFile path)
  catch _ =>
    return none

/-- A tree with a file and the directories above it. -/
def withFile (tree : FileTree) (path : String) (contents : ByteArray) : FileTree :=
  let above := ((Path.parent? path).map Path.ofComponents).getD ""
  let tree := (tree.makeDirectories above).toOption.getD tree
  (tree.write path contents 0).toOption.getD tree

/-- A tree with those files among some that can be read. -/
def collectFiles (paths : List String) : IO FileTree := do
  let mut tree := FileTree.fresh
  for path in paths do
    if let some contents ← contentsOf? path then
      tree := withFile tree path contents
  return tree

/-- Print what a program says when it gives up. -/
def giveUp (reason : String) : IO UInt32 := do
  IO.eprint (farewell reason)
  return 1

/-- The messages that were delivered after the first few. -/
def messagesAfter (device : Device Unit) (count : Nat) : List Message :=
  (device.calls.toList.drop count).map fun call => call.2.message

/-- How many bytes are read at once. -/
def pieceLength : USize := 65536

/-- Pass standard input on to a socket until it ends, and report every message. -/
partial def follow (device : Device Unit) (socket : SocketId) : IO (Device Unit) := do
  let piece ← (← IO.getStdin).read pieceLength
  if piece.isEmpty then
    let net := device.net
    return { device with net := net.close socket }.settle Tap.behaviour
  let (_, next) := device.write Tap.behaviour socket piece
  let next := next.settle Tap.behaviour
  for message in messagesAfter next device.calls.size do
    IO.println (Tap.messageLine message).toText
  follow next socket

/-- Tap the stream on standard input. -/
def tap (arguments : List String) : IO UInt32 := do
  let environment ← collectVariables
  let paths := Config.candidatePaths (splitArguments arguments).config environment
  let files ← collectFiles paths
  match Tap.plan files.fileAt? environment arguments with
  | .error fault => giveUp fault.describe
  | .ok tap =>
      let stream : Url := .ipc "standard-input"
      let (listener, net) := Network.bind { files } stream
      let (started, device) := { tap with address := stream }.start { net }
      match listener, started with
      | .ok listener, .ok id =>
          for line in tap.opening do
            IO.println line.toText
          let (socket, net) := (device.net.accept listener).getD (0, device.net)
          let device ← follow { device with net } socket
          match Tap.stop device id with
          | (.error error, _) => giveUp error.describe
          | (.ok outcome, _) =>
              IO.println (Tap.closing outcome).toText
              return 0
      | .error fault, _ => giveUp fault.describe
      | _, .error error => giveUp error.describe

/-- The number of this process. -/
def ownNumber : IO Nat := do
  let status ← contentsOf? "/proc/self/stat"
  let digits := ((status.getD .empty).data.toList.takeWhile fun byte => 48 ≤ byte && byte ≤ 57)
  return digits.foldl (fun number byte => number * 10 + (byte.toNat - 48)) 0

/-- Pass standard input on to one socket and what arrives at another to standard output, until the input
ends. -/
partial def forwardAll (device : Device Unit) (publisher subscriber : SocketId) :
    IO (Device Unit) := do
  let piece ← (← IO.getStdin).read pieceLength
  let (_, device) := device.write Tap.behaviour publisher piece
  let device := device.settle Tap.behaviour
  let (arrived, net) := device.net.readAll subscriber
  let output ← IO.getStdout
  if let .ok (bytes, _) := arrived then
    output.write bytes
    output.flush
  if piece.isEmpty then
    return { device with net }
  forwardAll { device with net } publisher subscriber

/-- Two connections to a running proxy: one to its front, one to its back. -/
def connectBoth (device : Device Unit) (running : Forwarder.Running) :
    Except SystemFault (SocketId × SocketId × Device Unit) := do
  let address (side : Proxy → ListenerId) :=
    (((device.proxies[running.proxy]?).bind fun proxy => device.net.listener? (side proxy)).map
      Listener.url).getD (.ipc "")
  let (publisher, net) ← device.net.connect (address Proxy.front)
  let (subscriber, net) ← net.connect (address Proxy.back)
  return (publisher, subscriber, { device with net }.settle Tap.behaviour)

/-- Forward from standard input to standard output, as the only process of its name. -/
def forward (arguments : List String) : IO UInt32 := do
  let environment ← collectVariables
  let paths := Config.candidatePaths (splitArguments arguments).config environment
  let settled ← collectFiles paths
  let directory := match Config.load settled.fileAt? (splitArguments arguments).config environment with
    | .ok settings => settings.process.lockDirectory
    | .error _ => ""
  let lockPath := SingletonLock.filePath directory Forwarder.processName
  let handle ← try
      pure (some (← IO.FS.Handle.mk lockPath .append))
    catch _ => pure none
  let tree := match handle, ← contentsOf? lockPath with
    | some _, some contents => withFile settled lockPath contents
    | _, _ => settled
  let isFree ← match handle with
    | some handle => handle.tryLock
    | none => pure true
  let held := if isFree then [] else
    (SingletonLock.acquire [] tree directory Forwarder.processName 0 0).1.toOption.toList
  let ((result, lines), device) :=
    Forwarder.start (.ofFiles tree Network.loopback) held environment arguments (← ownNumber) 0
  for line in lines do
    IO.eprintln line.toText
  match result with
  | .error fault => giveUp fault.describe
  | .ok running =>
      if let .ok record := device.net.files.read lockPath then
        IO.FS.writeBinFile lockPath record
      match connectBoth device running with
      | .error fault => giveUp fault.describe
      | .ok (publisher, subscriber, device) =>
          let device ← forwardAll device publisher subscriber
          let (closing, _) := Forwarder.stop device Tap.behaviour running
          for line in closing do
            IO.eprintln line.toText
          return 0

end DeviceBus.CommandLine

/-- Run the program that the first argument names. -/
def main : List String → IO UInt32
  | "tap" :: arguments => DeviceBus.CommandLine.tap arguments
  | "forward" :: arguments => DeviceBus.CommandLine.forward arguments
  | _ => do
      IO.eprintln "usage: (tap | forward) [--config PATH] [TOPIC ...]"
      return 2
