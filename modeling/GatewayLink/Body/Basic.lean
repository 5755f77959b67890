import GatewayLink.Body.DownlinkCommand
import GatewayLink.Body.StatusReport
import GatewayLink.Body.UplinkFrame

/-! Bodies: the JSON parts of packets.
`decode` parses the octets, then refuses members of the other direction, then reads the records.
`check` tells whether a body can be written in a direction; `octets` writes one that can. -/

namespace GatewayLink

structure Body where
  frames : List UplinkFrame
  status : Option StatusReport
  command : Option DownlinkCommand
  deriving DecidableEq

namespace Body

def empty : Body := ⟨[], none, none⟩

def uplink (frames : List UplinkFrame) (status : Option StatusReport) : Body :=
  ⟨frames, status, none⟩

def downlink (command : DownlinkCommand) : Body := ⟨[], none, some command⟩

def readFrames (m : Json.Members) : Reading (List UplinkFrame) :=
  match m.optional Json.array? "rxpk" with
  | some items => Reading.forEach UplinkFrame.ofJson (items.getD [])
  | none => .wrongForm

def readStatus (m : Json.Members) : Reading (Option StatusReport) :=
  match m.optional some "stat" with
  | some (some v) => some <$> StatusReport.ofJson v
  | some none => pure none
  | none => .wrongForm

def readCommand (m : Json.Members) : Reading DownlinkCommand :=
  match m.get? "txpk" with
  | some v => DownlinkCommand.ofJson v
  | none => .wrongForm

def ofMembers (direction : Direction) (m : Json.Members) : Except Fault Body :=
  match direction with
  | .uplink =>
    if m.has "txpk" then .error (.schema .foundCommand)
    else (uplink <$> readFrames m <*> readStatus m).result
  | .downlink =>
    if m.has "rxpk" then .error (.schema .foundFrames)
    else if m.has "stat" then .error (.schema .foundStatus)
    else (downlink <$> readCommand m).result

def decode (direction : Direction) (octets : List UInt8) : Except Fault Body :=
  match Json.parse? octets with
  | some (.object members) => ofMembers direction members
  | _ => .error (.body .form)

def checkAll {α : Type} (check : α → Except Fault Unit) : List α → Except Fault Unit
  | [] => .ok ()
  | a :: rest => (check a).bind fun _ => checkAll check rest

def checkUplink (b : Body) : Except Fault Unit :=
  if b.command.isSome then .error (.schema .hasCommand)
  else do
    checkAll UplinkFrame.check b.frames
    checkAll StatusReport.check b.status.toList

def checkDownlink (b : Body) : Except Fault Unit :=
  if b.frames ≠ [] ∨ b.status.isSome then .error (.schema .hasReport)
  else
    match b.command with
    | some command => command.check
    | none => .error (.packet .noCommand)

def check (direction : Direction) (b : Body) : Except Fault Unit :=
  match direction with
  | .uplink => b.checkUplink
  | .downlink => b.checkDownlink

def toJson (direction : Direction) (b : Body) : Json :=
  match direction with
  | .uplink =>
    .ofFields
      [("rxpk", if b.frames = [] then none else some (.array (b.frames.map UplinkFrame.toJson))),
        ("stat", b.status.map StatusReport.toJson)]
  | .downlink => .ofFields [("txpk", b.command.map DownlinkCommand.toJson)]

def text (direction : Direction) (b : Body) : String := (b.toJson direction).compact

def octets (direction : Direction) (b : Body) : List UInt8 :=
  Json.octetsOfText (b.text direction)

def encode (direction : Direction) (b : Body) : Except Fault (List UInt8) :=
  (b.check direction).map fun _ => b.octets direction

end Body

end GatewayLink
