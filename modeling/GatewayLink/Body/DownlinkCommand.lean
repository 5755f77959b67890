import GatewayLink.Body.DataRate

/-! Downlink commands: frames that a gateway is asked to send, the value of `txpk`.
An option keeps whether it was given; the functions below tell what the gateway applies. -/

namespace GatewayLink

structure DownlinkCommand where
  immediate? : Option Bool
  counter? : Option UInt32
  time? : Option Moment
  /-- The center frequency in MHz. -/
  frequency : Binary64
  radioChain : UInt32
  /-- The output power in dBm. -/
  power : UInt32
  dataRate : DataRate
  codingRate : Option String
  deviation? : Option UInt32
  inverted? : Option Bool
  preamble? : Option UInt32
  size : UInt32
  octets : List UInt8
  withoutCrc? : Option Bool
  deriving DecidableEq

inductive Schedule where
  | immediate
  | counter (value : UInt32)
  | absolute (time : Moment)
  deriving DecidableEq

namespace DownlinkCommand

def plain (frequency : Binary64) (power : UInt32) (dataRate : DataRate) (octets : List UInt8) :
    DownlinkCommand :=
  ⟨none, none, none, frequency, 0, power, dataRate, none, none, none, none,
    UInt32.ofNat octets.length, octets, none⟩

def defaultPreamble : UInt32 := 8

def immediate (c : DownlinkCommand) : Bool := c.immediate?.getD false

def inverted (c : DownlinkCommand) : Bool := c.inverted?.getD false

def withoutCrc (c : DownlinkCommand) : Bool := c.withoutCrc?.getD false

def preamble (c : DownlinkCommand) : UInt32 := c.preamble?.getD defaultPreamble

def deviation (c : DownlinkCommand) : UInt32 := c.deviation?.getD 0

/-- An immediate command ignores both times, and the counter goes before the absolute time. -/
def schedule? (c : DownlinkCommand) : Option Schedule :=
  if c.immediate then some .immediate
  else (c.counter?.map .counter).or (c.time?.map .absolute)

def fieldNames : List String :=
  ["imme", "tmst", "time", "freq", "rfch", "powe", "modu", "datr", "codr", "fdev", "ipol", "prea",
    "size", "data", "ncrc"]

def ofMembers (m : Json.Members) : Reading DownlinkCommand :=
  DownlinkCommand.mk
    <$> .plain (m.optional Json.bool? "imme")
    <*> .plain (m.optional Json.word? "tmst")
    <*> m.moment Moment.readCompact "time"
    <*> .plain (m.float "freq")
    <*> .plain (m.word "rfch")
    <*> .plain (m.word "powe")
    <*> DataRate.read m
    <*> .plain (m.optional Json.text? "codr")
    <*> .plain (m.optional Json.word? "fdev")
    <*> .plain (m.optional Json.bool? "ipol")
    <*> .plain (m.optional Json.word? "prea")
    <*> .plain (m.word "size")
    <*> m.octets "data"
    <*> .plain (m.optional Json.bool? "ncrc")

def ofJson (v : Json) : Reading DownlinkCommand :=
  match v.recordMembers? fieldNames with
  | some members => ofMembers members
  | none => .wrongForm

def toJson (c : DownlinkCommand) : Json :=
  .ofFields <|
    [("imme", c.immediate?.map .bool),
      ("tmst", c.counter?.map .ofWord),
      ("time", c.time?.map fun m => .text m.compactText),
      ("freq", some (.ofFloat c.frequency)),
      ("rfch", some (.ofWord c.radioChain)),
      ("powe", some (.ofWord c.power))] ++
    c.dataRate.fields ++
    [("codr", c.codingRate.map .text),
      ("fdev", c.deviation?.map .ofWord),
      ("ipol", c.inverted?.map .bool),
      ("prea", c.preamble?.map .ofWord),
      ("size", some (.ofWord c.size)),
      ("data", some (.ofOctets c.octets)),
      ("ncrc", c.withoutCrc?.map .bool)]

def check (c : DownlinkCommand) : Except Fault Unit :=
  match c.time? with
  | some m => if m.fitsCompact then .ok () else .error (.packet (.frameTime m))
  | none => .ok ()

end DownlinkCommand

end GatewayLink
