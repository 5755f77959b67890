import GatewayLink.Packet.Basic

/-! Equality of packets by value. Numbers are compared as numbers: zeros of either sign are equal, and a
packet that holds a NaN equals no packet. Everything else is compared as it stands. -/

namespace GatewayLink

def sameFloat? : Option Binary64 → Option Binary64 → Bool
  | none, none => true
  | some x, some y => x.sameValue y
  | _, _ => false

def UplinkFrame.sameValue (a b : UplinkFrame) : Bool :=
  a.frequency.sameValue b.frequency && sameFloat? a.noiseRatio b.noiseRatio &&
    { a with frequency := b.frequency, noiseRatio := b.noiseRatio } == b

def StatusReport.sameValue (a b : StatusReport) : Bool :=
  sameFloat? a.latitude b.latitude && sameFloat? a.longitude b.longitude &&
    a.acknowledged.sameValue b.acknowledged &&
    { a with
      latitude := b.latitude, longitude := b.longitude, acknowledged := b.acknowledged } == b

def DownlinkCommand.sameValue (a b : DownlinkCommand) : Bool :=
  a.frequency.sameValue b.frequency && { a with frequency := b.frequency } == b

def sameEntries {α : Type} (same : α → α → Bool) : List α → List α → Bool
  | [], [] => true
  | a :: as, b :: bs => same a b && sameEntries same as bs
  | _, _ => false

def Body.sameValue (a b : Body) : Bool :=
  sameEntries UplinkFrame.sameValue a.frames b.frames &&
    sameEntries StatusReport.sameValue a.status.toList b.status.toList &&
    sameEntries DownlinkCommand.sameValue a.command.toList b.command.toList

def Packet.sameValue (a b : Packet) : Bool :=
  sameEntries Body.sameValue a.body.toList b.body.toList && { a with body := b.body } == b

end GatewayLink
