import GatewayLink.Session.Notice

/-! Reports: the lines that tell of events and settings, and the lines that a log level lets through.
Numbers are written with the fewest digits that read back, always in plain notation. -/

namespace GatewayLink

open Text

namespace Binary64

def plainText (x : Binary64) : String :=
  if x.isNaN then "NaN"
  else
    let magnitude :=
      if !x.isFinite then "inf".toList
      else if x.isZero then ['0']
      else
        match x.shortest.parts with
        | (whole, []) => whole
        | (whole, fraction) => whole ++ '.' :: fraction
    String.ofList (if x.isNegative then '-' :: magnitude else magnitude)

end Binary64

def spanText (milliseconds : Nat) : String :=
  if milliseconds = 0 then "0ns"
  else if milliseconds < 1000 then toString milliseconds ++ "ms"
  else
    let fraction := Decimal.dropTrailingZeros (decimalPadded 3 (milliseconds % 1000))
    let point := if fraction = [] then "" else "."
    toString (milliseconds / 1000) ++ point ++ String.ofList fraction ++ "s"

def Level.isShownAt (name : String) (l : Level) : Bool :=
  match name.toLower with
  | "trace" | "debug" => true
  | "info" => l != .debug
  | "warn" => l == .warn
  | _ => false

def DataRate.report : DataRate → String
  | lora name => "Lora(" ++ quoted name ++ ")"
  | fsk bitRate => "Fsk(" ++ toString bitRate ++ ")"

namespace Event

def level : Event → Level
  | downlinkFailed _ _ => .warn
  | _ => .info

def report : Event → String
  | uplinkReceived gateway frame =>
    "uplink from gateway " ++ gateway.text ++ ": freq=" ++ frame.frequency.plainText ++
      " MHz, rssi=" ++ toString frame.strength ++ " dBm, datr=" ++ frame.dataRate.report ++
      ", size=" ++ toString frame.size ++ " bytes"
  | statusReceived gateway status =>
    "status from gateway " ++ gateway.text ++ ": rxnb=" ++ toString status.received ++
      " rxok=" ++ toString status.receivedIntact ++ " rxfw=" ++ toString status.forwarded ++
      " ackr=" ++ status.acknowledged.plainText ++ "% dwnb=" ++ toString status.downlinks ++
      " txnb=" ++ toString status.emitted
  | downlinkAcked gateway token =>
    "downlink " ++ token.text ++ " acknowledged by gateway " ++ gateway.text
  | downlinkFailed gateway token => "downlink " ++ token.text ++ " to gateway " ++ gateway.text ++ " failed"
  | gatewayDisconnected gateway => "gateway " ++ gateway.text ++ " disconnected"

end Event

def Policy.report (p : Policy) : String :=
  "ack timeout " ++ spanText p.ackTimeout.toNat ++ ", " ++ toString p.maxRetries ++
    (if p.maxRetries = 1 then " retry" else " retries") ++ ", inactivity window " ++
    spanText p.window

end GatewayLink
