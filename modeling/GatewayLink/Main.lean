import Std.Async.Signal
import Std.Async.Timer
import Std.Async.UDP
import GatewayLink.CommandLine
import GatewayLink.Link.Endpoint
import GatewayLink.Link.Server
import GatewayLink.Session.Report
import GatewayLink.Settings

/-! The program: a server on a UDP socket that prints its log.
One loop waits for a datagram, for the time of the next sweep, or for an interrupt, hands each to the server
and carries out what the server asks for. -/

namespace GatewayLink

open Std.Async Std.Net

inductive Wake where
  | datagram (octets : List UInt8) (source : Option SocketAddress)
  | sweep
  | interrupt

structure Host where
  socket : UDP.Socket
  signal : Signal.Waiter
  settings : Settings

namespace Host

def longestRead : UInt64 := 65535

def socketAddress? (address : String) : Option SocketAddress := do
  let endpoint ← Endpoint.ofText? address
  let port := UInt16.ofNat endpoint.port
  match endpoint.address with
  | .four [a, b, c, d] =>
    some (.v4 ⟨.ofParts (.ofNat a) (.ofNat b) (.ofNat c) (.ofNat d), port⟩)
  | .six [a, b, c, d, e, f, g, h] =>
    some (.v6 ⟨.ofParts (.ofNat a) (.ofNat b) (.ofNat c) (.ofNat d) (.ofNat e) (.ofNat f) (.ofNat g)
      (.ofNat h), port⟩)
  | _ => none

def interval (h : Host) : Nat := max 1 h.settings.policy.sweepInterval.toNat

def print (h : Host) (level : Level) (text : String) : Async Unit := do
  if level.isShownAt h.settings.level then IO.println (level.text ++ " " ++ text)

def printEvent (h : Host) (event : Event) : Async Unit := h.print event.level event.report

def wait (h : Host) (milliseconds : Nat) : Async Wake := do
  let pause ← Selector.sleep (.ofNat milliseconds)
  Selectable.one #[
    .case (h.socket.recvSelector longestRead) fun (octets, source) =>
      pure (.datagram octets.toList source),
    .case pause fun _ => pure .sweep,
    .case h.signal.selector fun _ => pure .interrupt]

def transmit (h : Host) (out : Outbound) : Async Unit := do
  try
    h.socket.send ⟨out.packet.octets.toArray⟩ (socketAddress? out.address.text)
  catch e =>
    IO.println ("ERROR Failed to send " ++ out.packet.kind.text ++ " to " ++ out.address.text ++
      ": " ++ toString e)

def carryOut (h : Host) (step : ServerStep) : Async Server := do
  for notice in step.notices do
    h.print notice.level notice.text
  for out in step.sent do
    h.transmit out
  let channel := step.server.channel
  for event in channel.queue do
    h.printEvent event
  return { step.server with channel := channel.drained }

partial def serve (h : Host) (due : Instant) (s : Server) : Async Server := do
  let wake ← try h.wait (due - (← IO.monoMsNow)) catch e =>
    IO.println ("ERROR UDP receive failed: " ++ toString e)
    pure .sweep
  let now ← IO.monoMsNow
  match wake with
  | .datagram octets (some source) =>
    h.serve due (← h.carryOut (s.receive .datagram octets ⟨toString source⟩ now))
  | .datagram _ none => h.serve due s
  | .sweep => h.serve (now + h.interval) (← h.carryOut (s.sweep .datagram now))
  | .interrupt => return s

end Host

def loadSettings (path : String) : IO Settings := do
  let file ← try some <$> IO.FS.readBinFile path catch _ => pure none
  match Settings.load (file.map ByteArray.toList) with
  | .ok settings => return settings
  | .error fault =>
    IO.eprintln ("Warning: Failed to load config from " ++ Text.quoted path ++ ": " ++ fault.message)
    IO.eprintln "Using default configuration"
    return .standard

def runServer (settings : Settings) : Async Unit := do
  let some address := Host.socketAddress? settings.bind
    | throw (IO.userError "invalid socket address")
  let host : Host := ⟨← UDP.Socket.mk, ← Signal.Waiter.mk .sigint false, settings⟩
  host.print .info settings.policy.report
  host.socket.bind address
  host.print .info ("UDP server listening on " ++ toString (← host.socket.getSockName))
  host.print .info "Server running. Press Ctrl+C to stop."
  let last ← host.serve (← IO.monoMsNow) (.start settings.policy)
  host.print .info "Shutting down..."
  let outcome := last.registry.shutdown
  for notice in outcome.notices do
    host.print notice.level notice.text
  for event in outcome.answer do
    host.printEvent event

end GatewayLink

open GatewayLink

/-- Usage faults end with code 2, other failures with code 1. -/
def main (arguments : List String) : IO UInt32 := do
  match CommandLine.parse arguments with
  | .error fault =>
    IO.eprintln fault.message
    return 2
  | .ok .help =>
    IO.println CommandLine.helpText
    return 0
  | .ok .version =>
    IO.println CommandLine.versionText
    return 0
  | .ok (.serve path) =>
    try
      (runServer (← loadSettings path)).block
      return 0
    catch e =>
      IO.eprintln ("Error: " ++ toString e)
      return 1
