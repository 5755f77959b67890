import GatewayLink.Link.Server
import GatewayLink.Session.Run

/-! Runs of a server: what reaches it as data, one step per input.
Between two inputs its application may take events from the channel, or leave them there. -/

namespace GatewayLink

namespace Server

inductive Input where
  | receive (datagram : List UInt8) (source : Address) (now : Instant)
  | submit (gateway : GatewayId) (command : DownlinkCommand) (now : Instant)
  | cancel (gateway : GatewayId) (token : Token)
  | sweep (now : Instant)

def Input.action : Input → Action
  | receive datagram source now => .receive datagram source now
  | submit gateway command now => .send gateway command now
  | cancel gateway token => .cancel gateway token
  | sweep now => .sweep now

inductive Move where
  | input (given : Input)
  | take

def Move.input? : Move → Option Input
  | input given => some given
  | take => none

def perform (socket : Socket) (s : Server) : Input → ServerStep
  | .receive datagram source now => s.receive socket datagram source now
  | .submit gateway command now =>
    let (result, next) := s.submit socket gateway command now
    ⟨next, result.toOption.toList, []⟩
  | .cancel gateway token => ⟨(s.cancel gateway token).2, [], []⟩
  | .sweep now => s.sweep socket now

structure Run where
  server : Server
  steps : List ServerStep
  taken : List Event

def run (socket : Socket) (s : Server) : List Move → Run
  | [] => ⟨s, [], []⟩
  | .input given :: rest =>
    let step := s.perform socket given
    let last := step.server.run socket rest
    { last with steps := step :: last.steps }
  | .take :: rest =>
    match s.nextEvent? with
    | some (event, next) =>
      let last := next.run socket rest
      { last with taken := event :: last.taken }
    | none => s.run socket rest

def Run.receivable (r : Run) : List Event := r.taken ++ r.server.channel.queue

end Server

end GatewayLink
