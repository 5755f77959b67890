import GatewayLink.Base64
import GatewayLink.Json.Number
import GatewayLink.Moment.Basic
import GatewayLink.Packet.Kind
import GatewayLink.Text.Quoted

/-! Faults: why a datagram cannot be read or a packet cannot be written, and the wording of each cause. -/

namespace GatewayLink

open Text

inductive Modulation where
  | lora
  | fsk
  deriving DecidableEq

def Modulation.text : Modulation → String
  | lora => "LORA"
  | fsk => "FSK"

inductive HeaderFault where
  | tooShort (length : Nat)
  | version (octet : UInt8)
  | unknownKind (octet : UInt8)
  | noGateway (kind : PacketKind) (length : Nat)
  deriving DecidableEq

inductive PacketFault where
  | version (octet : UInt8)
  | gateway (kind : PacketKind)
  | body (kind : PacketKind)
  | noCommand
  | frameTime (time : Moment)
  | statusTime (time : Moment)
  deriving DecidableEq

inductive BodyFault where
  | absent (kind : PacketKind)
  | form
  | noDataRate
  | bitRateNumber (value : Json.Number)
  | bitRateText (value : String)
  | dataRateForm (value : String) (modulation : Modulation)
  | crcStatus (code : Int)
  | base64 (cause : Base64.Fault)
  deriving DecidableEq

/-- Parts of one direction in a body of the other, when reading and when writing. -/
inductive SchemaFault where
  | foundCommand
  | foundFrames
  | foundStatus
  | hasCommand
  | hasReport
  deriving DecidableEq

inductive Fault where
  | header (cause : HeaderFault)
  | packet (cause : PacketFault)
  | body (cause : BodyFault)
  | modulation (name : String)
  | schema (cause : SchemaFault)
  | timestamp (value : String) (cause : Moment.Fault)
  deriving DecidableEq

def octetText (octet : UInt8) : String := "0x" ++ String.ofList (hexOctet octet)

def HeaderFault.text : HeaderFault → String
  | tooShort length => "packet too short: " ++ toString length ++ " bytes"
  | version octet => "unsupported protocol version: " ++ octetText octet
  | unknownKind octet => "unknown packet identifier: " ++ octetText octet
  | noGateway kind length =>
    kind.text ++ " too short for gateway EUI: " ++ toString length ++ " bytes"

def PacketFault.text : PacketFault → String
  | version octet => "unsupported protocol version: " ++ octetText octet
  | gateway kind =>
    kind.text ++ (if kind.namesGateway then " requires" else " must not carry") ++ " a gateway EUI"
  | body kind =>
    kind.text ++ (if kind.bodyDirection?.isSome then " requires" else " must not carry") ++
      " a payload"
  | noCommand => "downlink body requires txpk"
  | frameTime time => "time " ++ time.exactText ++ " is finer than microseconds"
  | statusTime time => "stat time " ++ time.exactText ++ " has fractional seconds"

def BodyFault.text? : BodyFault → Option String
  | absent kind => some (kind.text ++ " without JSON body")
  | form => none
  | noDataRate => some "missing datr"
  | bitRateNumber value => some ("invalid FSK datarate: " ++ String.ofList value.text)
  | bitRateText value => some ("invalid FSK datarate: " ++ quoted value)
  | dataRateForm value modulation =>
    some ("datr " ++ value ++ " does not fit " ++ modulation.text ++ " modulation")
  | crcStatus code => some ("invalid CRC status: " ++ toString code)
  | base64 cause => some ("invalid base64 data: " ++ cause.message)

def SchemaFault.text : SchemaFault → String
  | foundCommand => "txpk found in uplink body"
  | foundFrames => "rxpk found in downlink body"
  | foundStatus => "stat found in downlink body"
  | hasCommand => "txpk in uplink body"
  | hasReport => "rxpk or stat in downlink body"

def Fault.message? : Fault → Option String
  | header cause => some ("malformed header: " ++ cause.text)
  | packet cause => some ("invalid packet: " ++ cause.text)
  | body cause => cause.text?.map ("malformed payload: " ++ ·)
  | modulation name => some ("unknown modulation: " ++ quoted name)
  | schema cause => some ("schema mismatch: " ++ cause.text)
  | timestamp value cause => some ("malformed timestamp " ++ quoted value ++ ": " ++ cause.message)

end GatewayLink
