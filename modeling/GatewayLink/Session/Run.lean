import GatewayLink.Session.Registry

/-! Runs of a registry: its operations as data, one step per operation. -/

namespace GatewayLink

inductive Action where
  | receive (datagram : List UInt8) (source : Address) (now : Instant)
  | handle (packet : Packet) (source : Address) (now : Instant)
  | send (gateway : GatewayId) (command : DownlinkCommand) (now : Instant)
  | cancel (gateway : GatewayId) (token : Token)
  | sweep (now : Instant)
  | shutdown

inductive Answer where
  | dispatched (result : Except Fault Dispatch)
  | sent (result : Except SessionFault Outbound)
  | cancelled (result : Except SessionFault Unit)
  | swept (result : Sweep)
  | shutDown (events : List Event)

def Outcome.map {α β : Type} (f : α → β) (o : Outcome α) : Outcome β :=
  ⟨f o.answer, o.registry, o.notices⟩

namespace Registry

def perform (r : Registry) : Action → Outcome Answer
  | .receive datagram source now => (r.receive datagram source now).map .dispatched
  | .handle packet source now => (r.handle packet source now).map fun d => .dispatched (.ok d)
  | .send gateway command now => (r.send gateway command now).map .sent
  | .cancel gateway token => (r.cancel gateway token).map .cancelled
  | .sweep now => (r.sweep now).map .swept
  | .shutdown => r.shutdown.map .shutDown

def run (r : Registry) : List Action → Registry × List Answer
  | [] => (r, [])
  | action :: rest =>
    let outcome := r.perform action
    let (last, answers) := outcome.registry.run rest
    (last, outcome.answer :: answers)

theorem run_cons (r : Registry) (action : Action) (rest : List Action) :
    r.run (action :: rest) =
      (((r.perform action).registry.run rest).1,
        (r.perform action).answer :: ((r.perform action).registry.run rest).2) := rfl

theorem run_append_registry (r : Registry) (front back : List Action) :
    (r.run (front ++ back)).1 = ((r.run front).1.run back).1 := by
  induction front generalizing r with
  | nil => rfl
  | cons action rest ih => simp [run_cons, ih]

end Registry

structure Batch where
  sent : Nat
  first : Option Token
  last : Option Token
  fault : Option SessionFault
  deriving DecidableEq

namespace Batch

def empty : Batch := ⟨0, none, none, none⟩

def add (token : Token) (b : Batch) : Batch :=
  { b with sent := b.sent + 1, first := some (b.first.getD token), last := some token }

def extend (gateway : GatewayId) (command : DownlinkCommand) (now : Instant) :
    (count : Nat) → Registry → Batch → List Notice → Outcome Batch
  | 0, r, b, notices => ⟨b, r, notices.reverse⟩
  | count + 1, r, b, notices =>
    let outcome := r.send gateway command now
    let notices := outcome.notices.reverse ++ notices
    match outcome.answer with
    | .ok out => extend gateway command now count outcome.registry (b.add out.packet.token) notices
    | .error fault => ⟨{ b with fault := some fault }, outcome.registry, notices.reverse⟩

end Batch

def Registry.sendBatch (r : Registry) (gateway : GatewayId) (command : DownlinkCommand)
    (count : Nat) (now : Instant) : Outcome Batch :=
  Batch.extend gateway command now count r .empty []

end GatewayLink
