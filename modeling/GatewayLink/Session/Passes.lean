import GatewayLink.Session.Registry

/-! A sweep, pass by pass.
The first pass goes from gateway to gateway. Idle ones are put aside; of the others, overdue downlinks are
sent again or given up, token by token. The second pass closes the sessions of those put aside, if they are
still idle. `Registry.sweep` tells what comes of both. -/

namespace GatewayLink

/-- Visits keys in turn, each in the state that the visits before it left, and joins what they find. -/
def walk {σ κ ω : Type} (visit : κ → σ → σ × List ω) : List κ → σ → σ × List ω
  | [], s => (s, [])
  | k :: rest, s =>
    let here := visit k s
    let later := walk visit rest here.1
    (later.1, here.2 ++ later.2)

/-- What a visit finds: something to send, to report or to write down, or a gateway to put aside. -/
inductive Finding where
  | resent (out : Outbound)
  | reported (event : Event)
  | noticed (notice : Notice)
  | idle (gateway : GatewayId)
  deriving DecidableEq

namespace Finding

def outbound? : Finding → Option Outbound
  | resent out => some out
  | _ => none

def event? : Finding → Option Event
  | reported event => some event
  | _ => none

def notice? : Finding → Option Notice
  | noticed notice => some notice
  | _ => none

def idle? : Finding → Option GatewayId
  | idle gateway => some gateway
  | _ => none

end Finding

def Policy.retry? (policy : Policy) (now : Instant) :
    Option Address → Option Pending → Option (Address × Pending)
  | some route, some p =>
    if p.retries < policy.maxRetries.toNat then
      some (route, { p with retries := p.retries + 1, deadline := policy.deadline now })
    else none
  | _, _ => none

namespace Session

def overdue (now : Instant) (s : Session) : List Token :=
  (s.pending.toList.filter fun (_, p) => p.deadline ≤ now).map Prod.fst

def settle (policy : Policy) (now : Instant) (gateway : GatewayId) (token : Token) (s : Session) :
    Session × List Finding :=
  match policy.retry? now s.route s.pending[token]? with
  | some (route, next) =>
    (s.hold token next, [.noticed (.retried token gateway), .resent ⟨route, next.packet⟩])
  | none =>
    (s.release token,
      [.noticed (.abandoned token gateway), .reported (.downlinkFailed gateway token)])

def expireInTurn (policy : Policy) (now : Instant) (gateway : GatewayId) (s : Session) :
    Session × List Finding :=
  walk (settle policy now gateway) (s.overdue now) s

end Session

namespace Registry

def expireDownlinks (r : Registry) (now : Instant) (gateway : GatewayId) (s : Session) :
    Registry × List Finding :=
  let settled := s.expireInTurn r.policy now gateway
  (r.setSession gateway settled.1, settled.2)

def putAside (gateway : GatewayId) (_ : Session) (r : Registry) : Registry × List Finding :=
  (r, [.idle gateway])

def closing (policy : Policy) (gateway : GatewayId) (s : Session) : List Finding :=
  .noticed (.closed gateway policy.windowText) :: (closingEvents gateway s).map .reported

def evict (gateway : GatewayId) (s : Session) (r : Registry) : Registry × List Finding :=
  ({ r with
      sessions := r.sessions.erase gateway
      peers := r.peers.filter fun _ owner => !(owner == gateway) },
    closing r.policy gateway s)

def visit (now : Instant) (whenIdle : GatewayId → Session → Registry → Registry × List Finding)
    (gateway : GatewayId) (r : Registry) : Registry × List Finding :=
  match r.session? gateway with
  | none => (r, [])
  | some s =>
    if s.isIdle r.policy now then whenIdle gateway s r else r.expireDownlinks now gateway s

/-- Both passes, the second over what the first has put aside. It looks again whether a gateway is still
there, and still idle. -/
def passes (r : Registry) (now : Instant) : Registry × List Finding :=
  let first := walk (visit now putAside) r.sessions.keys r
  let second := walk (visit now evict) (first.2.filterMap Finding.idle?) first.1
  (second.1, first.2 ++ second.2)

def sweepInPasses (r : Registry) (now : Instant) : Outcome Sweep :=
  let swept := r.passes now
  { answer := ⟨swept.2.filterMap Finding.outbound?, swept.2.filterMap Finding.event?⟩
    registry := swept.1
    notices := swept.2.filterMap Finding.notice? }

end Registry

end GatewayLink
