import GatewayLink.Session.Event

/-! Notices: the lines that a registry and its server write to their log, as data, with levels and texts. -/

namespace GatewayLink

inductive Level where
  | debug
  | info
  | warn
  deriving DecidableEq

def Level.text : Level → String
  | debug => "DEBUG"
  | info => "INFO"
  | warn => "WARN"

inductive Notice where
  | requested (kind : PacketKind) (gateway : GatewayId) (source : Address) (token : Token)
  | unnamed (kind : PacketKind) (source : Address)
  | opened (gateway : GatewayId)
  | rerouted (gateway : GatewayId) (route : Address)
  | ignored (source : Address) (token : Token)
  | stranger (kind : PacketKind) (source : Address) (token : Token)
  | acked (token : Token) (gateway : GatewayId) (retries : Nat)
  | stale (kind : PacketKind) (gateway : GatewayId) (token : Token)
  | sent (gateway : GatewayId) (route : Address) (token : Token)
  | cancelled (token : Token) (gateway : GatewayId)
  | retried (token : Token) (gateway : GatewayId)
  | abandoned (token : Token) (gateway : GatewayId)
  | closed (gateway : GatewayId) (window : String)
  | shutDown
  | received (length : Nat) (source : Address)
  | dropped (source : Address) (cause : Fault)
  | resent (route : Address) (token : Token)
  deriving DecidableEq

namespace Notice

def level : Notice → Level
  | requested .. | sent .. | cancelled .. | retried .. | received .. => .debug
  | opened .. | rerouted .. | acked .. | closed .. | shutDown | resent .. => .info
  | unnamed .. | ignored .. | stranger .. | stale .. | abandoned .. | dropped .. => .warn

private def tokenText (token : Token) : String := " (token: " ++ token.text ++ ")"

def text : Notice → String
  | requested kind gateway source token =>
    kind.text ++ " from gateway " ++ gateway.text ++ " at " ++ source.text ++ tokenText token
  | unnamed kind source => kind.text ++ " from " ++ source.text ++ " without gateway EUI"
  | opened gateway => "New session for gateway " ++ gateway.text
  | rerouted gateway route =>
    "Gateway " ++ gateway.text ++ " downlink route is now " ++ route.text
  | ignored source token => "Ignoring PULL_RESP from " ++ source.text ++ tokenText token
  | stranger kind source token =>
    kind.text ++ " from unknown address " ++ source.text ++ tokenText token ++ ", ignoring"
  | acked token gateway retries =>
    "Downlink " ++ token.text ++ " acknowledged by gateway " ++ gateway.text ++ " after " ++
      toString retries ++ (if retries = 1 then " retry" else " retries")
  | stale kind gateway token =>
    "Stale " ++ kind.text ++ " from gateway " ++ gateway.text ++ tokenText token
  | sent gateway route token =>
    "PULL_RESP to gateway " ++ gateway.text ++ " at " ++ route.text ++ tokenText token
  | cancelled token gateway =>
    "Cancelled downlink " ++ token.text ++ " for gateway " ++ gateway.text
  | retried token gateway => "Retrying downlink " ++ token.text ++ " to gateway " ++ gateway.text
  | abandoned token gateway =>
    "Downlink " ++ token.text ++ " to gateway " ++ gateway.text ++ " was never acknowledged"
  | closed gateway window =>
    "Gateway " ++ gateway.text ++ " sent no PULL_DATA for " ++ window ++ ", closing session"
  | shutDown => "Session registry shut down"
  | received length source =>
    "Received " ++ toString length ++ " bytes from " ++ source.text
  | dropped source cause =>
    "Dropping datagram from " ++ source.text ++ ": " ++ cause.message?.getD "malformed payload"
  | resent route token => "Retransmitted PULL_RESP to " ++ route.text ++ tokenText token

def line (n : Notice) : String := n.level.text ++ " " ++ n.text

end Notice

end GatewayLink
