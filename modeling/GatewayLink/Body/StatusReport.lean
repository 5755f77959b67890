import GatewayLink.Body.Reading

/-! Status reports of gateways, the value of `stat`. -/

namespace GatewayLink

structure StatusReport where
  time : Option Moment
  latitude : Option Binary64
  longitude : Option Binary64
  altitude : Option Int32
  received : UInt32
  receivedIntact : UInt32
  forwarded : UInt32
  /-- The percentage of upstream datagrams that were acknowledged. -/
  acknowledged : Binary64
  downlinks : UInt32
  emitted : UInt32
  deriving DecidableEq

namespace StatusReport

def empty : StatusReport := ⟨none, none, none, none, 0, 0, 0, Binary64.zero, 0, 0⟩

def fieldNames : List String :=
  ["time", "lati", "long", "alti", "rxnb", "rxok", "rxfw", "ackr", "dwnb", "txnb"]

def ofMembers (m : Json.Members) : Reading StatusReport :=
  StatusReport.mk
    <$> m.moment Moment.readExpanded "time"
    <*> .plain (m.optional Json.float? "lati")
    <*> .plain (m.optional Json.float? "long")
    <*> .plain (m.optional Json.int32? "alti")
    <*> .plain (m.word "rxnb")
    <*> .plain (m.word "rxok")
    <*> .plain (m.word "rxfw")
    <*> .plain (m.float "ackr")
    <*> .plain (m.word "dwnb")
    <*> .plain (m.word "txnb")

def ofJson (v : Json) : Reading StatusReport :=
  match v.recordMembers? fieldNames with
  | some members => ofMembers members
  | none => .wrongForm

def toJson (r : StatusReport) : Json :=
  .ofFields
    [("time", r.time.map fun m => .text m.expandedText),
      ("lati", r.latitude.map .ofFloat),
      ("long", r.longitude.map .ofFloat),
      ("alti", r.altitude.map .ofInt32),
      ("rxnb", some (.ofWord r.received)),
      ("rxok", some (.ofWord r.receivedIntact)),
      ("rxfw", some (.ofWord r.forwarded)),
      ("ackr", some (.ofFloat r.acknowledged)),
      ("dwnb", some (.ofWord r.downlinks)),
      ("txnb", some (.ofWord r.emitted))]

def check (r : StatusReport) : Except Fault Unit :=
  match r.time with
  | some m => if m.fitsExpanded then .ok () else .error (.packet (.statusTime m))
  | none => .ok ()

end StatusReport

end GatewayLink
