import GatewayLink.Link.Channel
import GatewayLink.Session.Passes

/-! The server: a registry behind a socket, with an event channel to the application.
Two loops drive it. The receive loop answers each datagram before it passes events on, so an
acknowledgment confirms receipt and not processing; the sweep loop sends overdue downlinks again. Each loop
ends once the channel refuses one of its events. A socket is given by the packets it accepts. -/

namespace GatewayLink

/-- Whether a packet can be sent. -/
abbrev Socket := Outbound → Bool

def longestDatagram : Nat := 65507

def Socket.datagram : Socket := fun out => out.packet.octets.length ≤ longestDatagram

structure Server where
  registry : Registry
  channel : Channel
  receiving : Bool
  sweeping : Bool

structure ServerStep where
  server : Server
  sent : List Outbound
  notices : List Notice

inductive SubmitFault where
  | session (cause : SessionFault)
  | notSent
  deriving DecidableEq

namespace Server

def start (policy : Policy) : Server := ⟨.empty policy, .empty, true, true⟩

def receive (socket : Socket) (datagram : List UInt8) (source : Address) (now : Instant)
    (s : Server) : ServerStep :=
  if s.receiving then
    let outcome := s.registry.receive datagram source now
    let notices := .received datagram.length source :: outcome.notices
    match outcome.answer with
    | .error cause =>
      ⟨{ s with registry := outcome.registry }, [], notices ++ [.dropped source cause]⟩
    | .ok dispatch =>
      let (channel, delivered) := s.channel.offer dispatch.events
      ⟨{ s with registry := outcome.registry, channel := channel, receiving := delivered },
        dispatch.reply.toList.filter socket, notices⟩
  else ⟨s, [], []⟩

def sweep (socket : Socket) (now : Instant) (s : Server) : ServerStep :=
  if s.sweeping then
    let outcome := s.registry.sweepInPasses now
    let (channel, delivered) := s.channel.offer outcome.answer.events
    let sent := outcome.answer.retransmissions.filter socket
    ⟨{ s with registry := outcome.registry, channel := channel, sweeping := delivered }, sent,
      outcome.notices ++ sent.map fun out => .resent out.address out.packet.token⟩
  else ⟨s, [], []⟩

/-- Sends a downlink. One that the socket does not take is outstanding all the same. -/
def submit (socket : Socket) (gateway : GatewayId) (command : DownlinkCommand) (now : Instant)
    (s : Server) : Except SubmitFault Outbound × Server :=
  let outcome := s.registry.send gateway command now
  let next := { s with registry := outcome.registry }
  match outcome.answer with
  | .error fault => (.error (.session fault), next)
  | .ok out => (if socket out then .ok out else .error .notSent, next)

def cancel (gateway : GatewayId) (token : Token) (s : Server) : Except SessionFault Unit × Server :=
  let outcome := s.registry.cancel gateway token
  (outcome.answer, { s with registry := outcome.registry })

def nextEvent? (s : Server) : Option (Event × Server) :=
  s.channel.next?.map fun (event, channel) => (event, { s with channel := channel })

section

variable (socket : Socket) (gateway : GatewayId) (command : DownlinkCommand) (now : Instant) (s : Server)

theorem registry_submit :
    (s.submit socket gateway command now).2.registry =
      (s.registry.send gateway command now).registry := by
  rw [submit]
  cases (s.registry.send gateway command now).answer <;> rfl

theorem result_submit :
    (s.submit socket gateway command now).1 =
      match (s.registry.send gateway command now).answer with
      | .error fault => .error (.session fault)
      | .ok out => if socket out then .ok out else .error .notSent := by
  rw [submit]
  cases (s.registry.send gateway command now).answer <;> rfl

end

end Server

end GatewayLink
