import GatewayLink.Session.Basic
import GatewayLink.Session.Notice

/-! The registry: the sessions of all gateways, and the gateway last heard from each address.
Every operation takes the current instant and returns its answer with the next registry and the notices it
wrote. Requests open sessions and are answered at once; acknowledgments find their gateway by the address
they come from; a sweep retries, gives up and closes, gateway by gateway in order. -/

namespace GatewayLink

structure Registry where
  policy : Policy
  sessions : Std.ExtTreeMap GatewayId Session
  peers : Std.ExtTreeMap Address GatewayId

structure Outcome (α : Type) where
  answer : α
  registry : Registry
  notices : List Notice

structure Dispatch where
  reply : Option Outbound
  events : List Event
  deriving DecidableEq

structure Sweep where
  retransmissions : List Outbound
  events : List Event
  deriving DecidableEq

structure SessionView where
  gateway : GatewayId
  route : Option Address
  lastSeen : Instant
  lastKeepalive : Instant
  pending : Nat
  staleAcks : Nat
  deriving DecidableEq

namespace Dispatch

def none : Dispatch := ⟨.none, []⟩

end Dispatch

namespace Registry

def empty (policy : Policy) : Registry := ⟨policy, ∅, ∅⟩

def session? (r : Registry) (gateway : GatewayId) : Option Session := r.sessions[gateway]?

def isActive (r : Registry) (gateway : GatewayId) : Bool := r.sessions.contains gateway

def size (r : Registry) : Nat := r.sessions.size

def isEmpty (r : Registry) : Bool := r.sessions.isEmpty

def view? (r : Registry) (gateway : GatewayId) : Option SessionView :=
  (r.session? gateway).map fun s =>
    ⟨gateway, s.route, s.lastSeen, s.lastKeepalive, s.pending.size, s.staleAcks⟩

def sessionAt (r : Registry) (gateway : GatewayId) (now : Instant) : Session :=
  (r.session? gateway).getD (.start now)

def openingNotice (r : Registry) (gateway : GatewayId) : List Notice :=
  if r.isActive gateway then [] else [.opened gateway]

def setSession (r : Registry) (gateway : GatewayId) (s : Session) : Registry :=
  { r with sessions := r.sessions.insert gateway s }

def remember (r : Registry) (address : Address) (gateway : GatewayId) : Registry :=
  { r with peers := r.peers.insert address gateway }

def bodyEvents (gateway : GatewayId) : Option Body → List Event
  | none => []
  | some body =>
    body.frames.map (.uplinkReceived gateway) ++ body.status.toList.map (.statusReceived gateway)

def push (r : Registry) (gateway : GatewayId) (token : Token) (body : Option Body)
    (source : Address) (now : Instant) : Outcome Dispatch :=
  { answer := ⟨some ⟨source, .pushAck token⟩, bodyEvents gateway body⟩
    registry :=
      (r.setSession gateway ((r.sessionAt gateway now).touch now)).remember source gateway
    notices := .requested .pushData gateway source token :: r.openingNotice gateway }

def pull (r : Registry) (gateway : GatewayId) (token : Token) (source : Address) (now : Instant) :
    Outcome Dispatch :=
  let s := ((r.sessionAt gateway now).touch now).keepAlive now
  { answer := ⟨some ⟨source, .pullAck token⟩, []⟩
    registry := (r.setSession gateway { s with route := some source }).remember source gateway
    notices := .requested .pullData gateway source token :: r.openingNotice gateway ++
      if s.route = some source then [] else [.rerouted gateway source] }

/-- The live session that an address belongs to. -/
def peer? (r : Registry) (source : Address) : Option (GatewayId × Session) :=
  r.peers[source]?.bind fun gateway => (r.session? gateway).map fun s => (gateway, s)

/-- An acknowledgment: it ends the downlink of its token, or counts as stale. -/
def acknowledge (r : Registry) (kind : PacketKind) (token : Token) (source : Address)
    (now : Instant) : Outcome Dispatch :=
  match r.peer? source with
  | none => ⟨.none, r, [.stranger kind source token]⟩
  | some (gateway, session) =>
    let s := session.touch now
    match s.pending[token]? with
    | some p =>
      ⟨⟨none, [.downlinkAcked gateway token]⟩, r.setSession gateway (s.release token),
        [.acked token gateway p.retries]⟩
    | none =>
      ⟨.none, r.setSession gateway { s with staleAcks := s.staleAcks + 1 },
        [.stale kind gateway token]⟩

def handle (r : Registry) (p : Packet) (source : Address) (now : Instant) : Outcome Dispatch :=
  match p.kind, p.gateway with
  | .pushData, some gateway => r.push gateway p.token p.body source now
  | .pullData, some gateway => r.pull gateway p.token source now
  | .pushData, none => ⟨.none, r, [.unnamed .pushData source]⟩
  | .pullData, none => ⟨.none, r, [.unnamed .pullData source]⟩
  | .pushAck, _ => r.acknowledge .pushAck p.token source now
  | .pullAck, _ => r.acknowledge .pullAck p.token source now
  | .pullResp, _ => ⟨.none, r, [.ignored source p.token]⟩

def receive (r : Registry) (datagram : List UInt8) (source : Address) (now : Instant) :
    Outcome (Except Fault Dispatch) :=
  match Packet.decode datagram with
  | .error fault => ⟨.error fault, r, []⟩
  | .ok p =>
    let outcome := r.handle p source now
    ⟨.ok outcome.answer, outcome.registry, outcome.notices⟩

/-- Registers a downlink under a free token and builds its packet. A command that cannot be written takes a
token off the counter, but none becomes outstanding. -/
def send (r : Registry) (gateway : GatewayId) (command : DownlinkCommand) (now : Instant) :
    Outcome (Except SessionFault Outbound) :=
  match r.session? gateway with
  | none => ⟨.error (.unknownGateway gateway), r, []⟩
  | some session =>
    match session.route with
    | none => ⟨.error (.noRoute gateway), r, []⟩
    | some route =>
      match session.allocate? with
      | none => ⟨.error (.tokensExhausted gateway), r, []⟩
      | some (token, session) =>
        let packet := Packet.pullResp token command
        match packet.check with
        | .error fault => ⟨.error (.packet fault), r.setSession gateway session, []⟩
        | .ok _ =>
          ⟨.ok ⟨route, packet⟩,
            r.setSession gateway (session.hold token ⟨packet, r.policy.deadline now, 0⟩),
            [.sent gateway route token]⟩

def cancel (r : Registry) (gateway : GatewayId) (token : Token) : Outcome (Except SessionFault Unit) :=
  match r.session? gateway with
  | none => ⟨.error (.unknownGateway gateway), r, []⟩
  | some session =>
    if session.pending.contains token then
      ⟨.ok (), r.setSession gateway (session.release token), [.cancelled token gateway]⟩
    else ⟨.error (.notOutstanding gateway token), r, []⟩

/-- A closed session fails what is outstanding, then reports the gateway gone. -/
def closingEvents (gateway : GatewayId) (s : Session) : List Event :=
  s.outstanding.map (.downlinkFailed gateway) ++ [.gatewayDisconnected gateway]

def sweepEvents (policy : Policy) (now : Instant) (gateway : GatewayId) (s : Session) : List Event :=
  if s.isIdle policy now then closingEvents gateway s
  else (s.failures policy now).map (.downlinkFailed gateway)

def sweepRetransmissions (policy : Policy) (now : Instant) (s : Session) : List Outbound :=
  if s.isIdle policy now then [] else s.retransmissions policy now

def fateNotice? (gateway : GatewayId) (token : Token) : Fate → Option Notice
  | .waits => none
  | .retried _ _ => some (.retried token gateway)
  | .fails => some (.abandoned token gateway)

def sweepNotices (policy : Policy) (now : Instant) (gateway : GatewayId) (s : Session) : List Notice :=
  if s.isIdle policy now then [.closed gateway policy.windowText]
  else (s.fates policy now).filterMap fun (token, fate) => fateNotice? gateway token fate

def evicts (r : Registry) (now : Instant) (gateway : GatewayId) : Bool :=
  match r.session? gateway with
  | some s => s.isIdle r.policy now
  | none => false

def sweep (r : Registry) (now : Instant) : Outcome Sweep :=
  let entries := r.sessions.toList
  { answer :=
      ⟨entries.flatMap fun (_, s) => sweepRetransmissions r.policy now s,
        entries.flatMap fun (gateway, s) => sweepEvents r.policy now gateway s⟩
    registry :=
      { r with
        sessions := r.sessions.filterMap fun _ s =>
          if s.isIdle r.policy now then none else some (s.expire r.policy now)
        peers := r.peers.filter fun _ gateway => !r.evicts now gateway }
    notices := entries.flatMap fun (gateway, s) => sweepNotices r.policy now gateway s }

def shutdown (r : Registry) : Outcome (List Event) :=
  ⟨r.sessions.toList.flatMap fun (gateway, s) => closingEvents gateway s, empty r.policy,
    [.shutDown]⟩

end Registry

end GatewayLink
