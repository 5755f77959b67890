import GatewayLink.Link.Server

/-! A server and its gateways on one host, with a clock that stands still.
Test runs of a server take place here: a loopback stands for the sockets, the network and the clock that they would
need, and the program that serves makes no use of it. Datagrams arrive in order and none is lost. Waiting for a
datagram or an event that is not there lets time pass from one sweep to the next, until it arrives or the patience is
used up. All of that is runs of the server. -/

namespace GatewayLink

structure Loopback where
  server : Server
  now : Instant
  inFlight : List Outbound

namespace Loopback

def patience : Nat := 5000

def start (policy : Policy) : Loopback := ⟨.start policy, 0, []⟩

def deliver (step : ServerStep) (l : Loopback) : Loopback :=
  { l with server := step.server, inFlight := l.inFlight ++ step.sent }

def post (datagram : List UInt8) (source : Address) (l : Loopback) : Loopback :=
  l.deliver (l.server.receive .datagram datagram source l.now)

def tick (l : Loopback) : Loopback :=
  let now := l.now + l.server.registry.policy.sweepInterval.toNat
  { l with now := now }.deliver (l.server.sweep .datagram now)

def takeFirst? {α : Type} (wanted : α → Bool) : List α → Option (α × List α)
  | [] => none
  | a :: rest =>
    if wanted a then some (a, rest)
    else (takeFirst? wanted rest).map fun (found, others) => (found, a :: others)

def collect? (address : Address) (l : Loopback) : Option (Packet × Loopback) :=
  (takeFirst? (fun out => out.address == address) l.inFlight).map fun (out, others) =>
    (out.packet, { l with inFlight := others })

def nextEvent? (l : Loopback) : Option (Event × Loopback) :=
  l.server.nextEvent?.map fun (event, server) => (event, { l with server := server })

def sweepsPerWait (l : Loopback) : Nat :=
  patience / max 1 l.server.registry.policy.sweepInterval.toNat

def retry {α : Type} (attempt : Loopback → Option (α × Loopback)) :
    (ticks : Nat) → Loopback → Option α × Loopback
  | 0, l =>
    match attempt l with
    | some (a, next) => (some a, next)
    | none => (none, l)
  | ticks + 1, l =>
    match attempt l with
    | some (a, next) => (some a, next)
    | none => retry attempt ticks l.tick

def awaitPacket (address : Address) (l : Loopback) : Option Packet × Loopback :=
  retry (collect? address) l.sweepsPerWait l

def awaitEvent (l : Loopback) : Option Event × Loopback := retry nextEvent? l.sweepsPerWait l

def submit (gateway : GatewayId) (command : DownlinkCommand) (l : Loopback) :
    Except SubmitFault Token × Loopback :=
  let (result, server) := l.server.submit .datagram gateway command l.now
  match result with
  | .ok out => (.ok out.packet.token, l.deliver ⟨server, [out], []⟩)
  | .error fault => (.error fault, l.deliver ⟨server, [], []⟩)

def cancel (gateway : GatewayId) (token : Token) (l : Loopback) :
    Except SessionFault Unit × Loopback :=
  let (result, server) := l.server.cancel gateway token
  (result, { l with server := server })

def drain (l : Loopback) : Nat × Loopback :=
  (l.server.channel.queue.length,
    { l with server := { l.server with channel := l.server.channel.drained } })

def closeEvents (l : Loopback) : Loopback :=
  { l with server := { l.server with channel := l.server.channel.close } }

def burst (datagram : List UInt8) (source : Address) : (count : Nat) → Loopback →
    List (Option Packet) × Loopback
  | 0, l => ([], l)
  | count + 1, l =>
    let (packet, l) := (l.post datagram source).awaitPacket source
    let (packets, l) := burst datagram source count l
    (packet :: packets, l)

end Loopback

end GatewayLink
