import GatewayLink.Body.DataRate

/-! Uplink frames: radio frames that a gateway has received, the entries of `rxpk`. -/

namespace GatewayLink

inductive CrcStatus where
  | passed
  | failed
  | absent
  deriving DecidableEq, Inhabited

namespace CrcStatus

def code : CrcStatus → Int
  | passed => 1
  | failed => -1
  | absent => 0

def ofCode (code : Int32) : Except Fault CrcStatus :=
  if code = 1 then .ok passed
  else if code = -1 then .ok failed
  else if code = 0 then .ok absent
  else .error (.body (.crcStatus code.toInt))

end CrcStatus

structure UplinkFrame where
  time : Option Moment
  /-- The counter of the concentrator at the end of reception, in microseconds. -/
  counter : UInt32
  channel : UInt32
  radioChain : UInt32
  /-- The center frequency in MHz. -/
  frequency : Binary64
  crc : CrcStatus
  dataRate : DataRate
  codingRate : Option String
  /-- The received signal strength in dBm. -/
  strength : Int32
  /-- The LoRa signal-to-noise ratio in dB. -/
  noiseRatio : Option Binary64
  size : UInt32
  octets : List UInt8
  deriving DecidableEq

namespace UplinkFrame

def fieldNames : List String :=
  ["time", "tmst", "chan", "rfch", "freq", "stat", "modu", "datr", "codr", "rssi", "lsnr", "size",
    "data"]

def ofMembers (m : Json.Members) : Reading UplinkFrame :=
  UplinkFrame.mk
    <$> m.moment Moment.readCompact "time"
    <*> .plain (m.word "tmst")
    <*> .plain (m.word "chan")
    <*> .plain (m.word "rfch")
    <*> .plain (m.float "freq")
    <*> .convert (m.int32 "stat") CrcStatus.ofCode
    <*> DataRate.read m
    <*> .plain (m.optional Json.text? "codr")
    <*> .plain (m.int32 "rssi")
    <*> .plain (m.optional Json.float? "lsnr")
    <*> .plain (m.word "size")
    <*> m.octets "data"

def ofJson (v : Json) : Reading UplinkFrame :=
  match v.recordMembers? fieldNames with
  | some members => ofMembers members
  | none => .wrongForm

def toJson (f : UplinkFrame) : Json :=
  .ofFields <|
    [("time", f.time.map fun m => .text m.compactText),
      ("tmst", some (.ofWord f.counter)),
      ("chan", some (.ofWord f.channel)),
      ("rfch", some (.ofWord f.radioChain)),
      ("freq", some (.ofFloat f.frequency)),
      ("stat", some (.number (.integer f.crc.code)))] ++
    f.dataRate.fields ++
    [("codr", f.codingRate.map .text),
      ("rssi", some (.ofInt32 f.strength)),
      ("lsnr", f.noiseRatio.map .ofFloat),
      ("size", some (.ofWord f.size)),
      ("data", some (.ofOctets f.octets))]

def check (f : UplinkFrame) : Except Fault Unit :=
  match f.time with
  | some m => if m.fitsCompact then .ok () else .error (.packet (.frameTime m))
  | none => .ok ()

end UplinkFrame

end GatewayLink
