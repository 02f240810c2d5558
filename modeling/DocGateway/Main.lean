import DocGateway.CommandLine
import DocGateway.Gateway.Drain
import DocGateway.Metrics.Http
import DocGateway.Pipeline.SelfAnswering
import DocGateway.Stages.Registry
import Std.Async.Signal
import Std.Async.TCP
import Std.Async.Timer
import Std.Sync.Mutex
/-!
# The program

A gateway listens on a socket. Each thing that happens, be it bytes that arrive or a signal, is a
step of `Gateway`, taken with the clock set; the steps follow each other, one at a time. What is
left here is to carry bytes and to wait.
-/

namespace DocGateway.Program

open Std.Async

/-! ### Addresses -/

/-- An address as the system takes it. The number of a link is left out. -/
def ofAddress (a : SocketAddress) : Std.Net.SocketAddress :=
  let port := UInt16.ofNat a.port
  match a.host with
  | .v4 octets =>
    let octet (i : Nat) : UInt8 := UInt8.ofNat (octets[i]?.getD 0)
    .v4 ⟨.ofParts (octet 0) (octet 1) (octet 2) (octet 3), port⟩
  | .v6 groups _ =>
    let group (i : Nat) : UInt16 := UInt16.ofNat (groups[i]?.getD 0)
    .v6 ⟨.ofParts (group 0) (group 1) (group 2) (group 3) (group 4) (group 5) (group 6) (group 7),
      port⟩

/-- An address as the system gives it. -/
def toAddress : Std.Net.SocketAddress → SocketAddress
  | .v4 a => ⟨.v4 (a.addr.octets.toList.map UInt8.toNat), a.port.toNat⟩
  | .v6 a => ⟨.v6 (a.addr.segments.toList.map UInt16.toNat) 0, a.port.toNat⟩

/-! ### The running gateway -/

/-- A gateway that runs: its state between two steps, the sockets of its clients, and whether it
tells what it does. -/
structure Running where
  gateway : Std.Mutex (Gateway Unit)
  sockets : Std.Mutex (List (UInt64 × TCP.Socket.Client))
  talks : Bool

namespace Running

/-- Tells what happens. -/
def say (r : Running) (line : String) : IO Unit := if r.talks then IO.println line else pure ()

/-- The time in milliseconds. -/
def clock : IO Nat := do
  let now ← Std.Time.Timestamp.now
  return now.toMillisecondsSinceUnixEpoch.toInt.toNat

/-- Takes a step, with the time that has passed since the last one. New lines of the slow log are
printed. -/
def step {α : Type} (r : Running) (f : Gateway Unit → α × Gateway Unit) : IO α := do
  let now ← clock
  let (a, slow) ← r.gateway.atomically do
    let g ← get
    -- no time has passed if the clock was set back
    let (a, g) := f (g.wait (now - g.shared.now))
    set { g with shared := { g.shared with slowLog := [] } }
    return (a, g.shared.slowLog)
  for line in slow do
    IO.println (line.message ++ " db=" ++ line.database ++ " collection=" ++ line.collection ++
      " command=" ++ line.command ++
      " readPreference=" ++ line.readPreference)
  return a

/-- Ends the conversation with a client. -/
def hangUp (r : Running) (id : UInt64) : Async Unit := do
  let socket ← r.sockets.atomically do
    let sockets ← get
    set (sockets.filter (·.1 != id))
    return sockets.lookup id
  if let some socket := socket then
    try socket.shutdown catch _ => return

/-- Serves a client until either side hangs up. -/
partial def converse (r : Running) (id : UInt64) (socket : TCP.Socket.Client) : Async Unit := do
  match ← socket.recv? 65536 with
  | none => r.step fun g => ((), g.hangUp id)
  | some bytes =>
    let (replies, stays) ← r.step fun g =>
      let (replies, g) := g.receive id bytes.data.toList
      ((replies, (g.connection? id).isSome), g)
    if !replies.isEmpty then socket.sendAll (replies.map fun reply =>
      ByteArray.mk reply.toArray).toArray
    if stays then r.converse id socket

/-- Serves a client that has connected. -/
def welcome (r : Running) (socket : TCP.Socket.Client) : Async Unit := do
  let addr := toAddress (← socket.getPeerName)
  match ← r.step fun g => g.accept addr with
  | none =>
    r.say ("Connection refused: " ++ addr.toText)
    socket.shutdown
  | some id =>
    socket.noDelay
    r.sockets.atomically do modify fun sockets => (id, socket) :: sockets
    r.say ("Client connected: " ++ addr.toText)
    try r.converse id socket catch _ => r.step fun g => ((), g.hangUp id)
    r.hangUp id
    r.say ("Client disconnected: " ++ addr.toText)

/-- Lets clients in, each served beside the others. -/
partial def listen (r : Running) (server : TCP.Socket.Server)
  (serve : TCP.Socket.Client → Async Unit) : Async Unit := do
  let socket ← server.accept
  background (try serve socket catch _ => pure ())
  r.listen server serve

/-- Looks through the cursors from time to time. -/
partial def reap (r : Running) (interval : Nat) : Async Unit := do
  sleep (.ofNat interval)
  r.step fun g => ((), g.reap)
  r.reap interval

/-- Answers one request to the endpoint of health and metrics. -/
partial def report (r : Running) (socket : TCP.Socket.Client) (head : String) : Async Unit := do
  if EndpointResponse.isComplete head then
    let answer ← r.step fun g =>
      (EndpointResponse.answer g.shared.metrics g.ready ((EndpointResponse.target? head).getD ""),
        g)
    socket.send answer.render.toUTF8
    socket.shutdown
  else
    match ← socket.recv? 4096 with
    | none => return
    | some bytes => r.report socket (head ++ (String.fromUTF8? bytes).getD "")

/-- Closes idle connections until none is left, or until the time is over. -/
partial def drain (r : Running) (interval : Nat) (left : Option Nat) : Async Bool := do
  let (gone, empty) ← r.step fun g =>
    let h := Gateway.closeIdle { g with ready := false }
    let ids := g.connections.map (·.handle.id)
    ((ids.filter fun id => (h.connection? id).isNone, h.connections.isEmpty), h)
  for id in gone do r.hangUp id
  if empty then return true
  if left.any (· < interval) then
    r.step fun g => ((), g.cancelAll)
    return false
  sleep (.ofNat interval)
  r.drain interval (left.map (· - interval))

end Running

/-! ### From start to end -/

/-- Opens a socket for clients. -/
def bind (a : SocketAddress) : IO TCP.Socket.Server := do
  let server ← TCP.Socket.Server.mk
  server.bind (ofAddress a)
  server.listen 1024
  return server

/-- Waits for a signal, and says whether it was the one to terminate. -/
def awaitSignal : Async Bool := do
  let interrupt ← Signal.Waiter.mk .sigint false
  let terminate ← Signal.Waiter.mk .sigterm false
  Selectable.one #[.case interrupt.selector fun _ => pure false,
    .case terminate.selector fun _ => pure true]

/-- Runs a gateway until it is told to end. -/
def run (c : Configuration) (stages : List (Stage Unit)) (hostname : String) (talks : Bool) :
    Async UInt32 := do
  let settings := Gateway.Settings.ofConfiguration c
  let info : ServerInfo := ⟨"4.3.1", hostname, 30, c.gateway.compressors⟩
  let gateway := Gateway.start settings ⟨.standard, ⟨stages, info.terminal⟩⟩ ()
  let r : Running := ⟨← Std.Mutex.new gateway, ← Std.Mutex.new [], talks⟩
  let server ← bind settings.bindAddr
  r.say ("Gateway listening on " ++ settings.bindAddr.toText)
  background (r.listen server r.welcome)
  background (r.reap settings.cursorReapInterval)
  if c.metrics.enabled then
    let endpoint ← bind c.metrics.bindAddr
    r.say ("Metrics server listening on http://" ++ c.metrics.bindAddr.toText ++ "/metrics")
    background (r.listen endpoint fun socket => r.report socket "")
  let terminated ← awaitSignal
  r.say "Received shutdown signal, draining"
  if terminated then sleep (.ofNat c.shutdown.termSleepMs)
  if !(← r.drain settings.pollInterval c.shutdown.deadlineMs?) then
    r.say "Some connections were closed forcibly"
  r.say "Gateway stopped"
  return 0

/-- The file of a configuration. -/
def readFile : Option String → IO ConfigFile
  | none => return .absent
  | some path => do
    try return .text (← IO.FS.readFile path) catch _ => return .unreadable path

/-- The variables of the environment that a configuration depends on. -/
def environment : IO Environment :=
  Environment.names.filterMapM fun name => return (← IO.getEnv name).map (name, ·)

/-- Fails with a message. -/
def fail (message : String) : IO UInt32 := do
  IO.eprintln ("error: " ++ message)
  return 1

/-- The configuration and the stages that a gateway runs with. -/
def prepare (o : CommandLine) (file : ConfigFile) (env : Environment) :
    Except String (Configuration × List (Stage Unit)) := do
  let c ← (Configuration.load file env).mapError ConfigError.message
  let specs ← c.stageSpecs.mapError ConfigError.message
  let stages ← (StageRegistry.standard.build specs).mapError ServerError.message
  return (o.override c, stages)

/-- Starts a gateway with options. -/
def start (o : CommandLine) : IO UInt32 := do
  let path := o.config.or (← IO.getEnv "MONGATE_CONFIG")
  match prepare o (← readFile path) (← environment) with
  | .error message => fail message
  | .ok (c, stages) =>
    let hostname := (← IO.getEnv "HOSTNAME").getD "localhost"
    let quiet := ["off", "error", "warn"].contains (o.logLevel.getD "info")
    (run c stages hostname !quiet).block

end DocGateway.Program

open DocGateway in
/-- Runs a gateway with the options that the arguments give. -/
def main (arguments : List String) : IO UInt32 := do
  match CommandLine.read arguments with
  | .ok .help =>
    IO.println ("\n".intercalate CommandLine.help)
    return 0
  | .ok .version =>
    IO.println "mongate 0.1.0"
    return 0
  | .error e =>
    IO.eprintln ("error: " ++ e.message ++
      "\n\nUsage: mongate [OPTIONS]\n\nFor more information, try '--help'.")
    return 2
  | .ok (.run o) =>
    try Program.start o catch e => Program.fail (toString e)
